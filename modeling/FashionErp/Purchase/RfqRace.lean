/-
Quotations, their awards and the status of an RFQ, beside each other.

A creation reads the RFQ, then makes its other checks, then inserts in a transaction.
-/
import FashionErp.Purchase.SupplierQuotations
import Mathlib.Data.List.Perm.Subperm

namespace FashionErp.RfqRace

open Lib SupplierQuotationsService

inductive Call
  | create (companyId userId : Uuid) (dto : CreateSupplierQuotationDto) (year : ℕ)
  | quotation (id companyId userId : Uuid) (nextStatus : SupplierQuotationStatus)
  | rfq (id companyId userId : Uuid) (nextStatus : PurchaseRfqStatus)

inductive Phase
  | called
  | opened (rfq : PurchaseRfq)
  | checked (rfq : PurchaseRfq)
  | changing (quotation : SupplierQuotation)
  /-- The award has the lock of the RFQ. -/
  | awarding (quotation : SupplierQuotation)
  | saving (p : SavePhase PurchaseRfq)
  | returned
  | rejected (error : Failure)
  /-- The connection is lost. -/
  | aborted

inductive Label
  | read
  | check
  | lock
  | commit
  | save (l : SaveLabel)
  | abort

/-- The moves of `create`. -/
def createMove (companyId userId : Uuid) (dto : CreateSupplierQuotationDto) (year : ℕ) :
    Label → Phase → RfqDb → Option (Move RfqDb Uuid Phase)
  | .read, .called, db =>
    match openRfq companyId dto db with
    | .ok rfq => some (.goto (.opened rfq))
    | .error error => some (.leave (.rejected error))
  | .check, .opened rfq, db =>
    match assertItems companyId dto rfq db with
    | .ok _ => some (.goto (.checked rfq))
    | .error error => some (.leave (.rejected error))
  | .commit, .checked rfq, db =>
    match insertQuotation companyId userId dto year rfq db with
    | .ok db' => some (.commit db' .returned)
    | .error error => some (.leave (.rejected error))
  | .abort, .opened _, _ => some (.leave .aborted)
  | .abort, .checked _, _ => some (.leave .aborted)
  | _, _, _ => none

/-- The moves of `SupplierQuotationsService.updateStatus`. -/
def quotationMove (id companyId userId : Uuid) (nextStatus : SupplierQuotationStatus) :
    Label → Phase → RfqDb → Option (Move RfqDb Uuid Phase)
  | .read, .called, db =>
    match findByIdInCompany id companyId db >>= assertTransition nextStatus with
    | .ok quotation => some (.goto (.changing quotation))
    | .error error => some (.leave (.rejected error))
  | .lock, .changing quotation, _ =>
    if nextStatus = .Awarded then some (.acquire quotation.purchaseRfqId (.awarding quotation))
    else none
  | .commit, .changing quotation, db =>
    if nextStatus = .Awarded then none
    else some (.commit (changeStatus userId nextStatus quotation db) .returned)
  | .commit, .awarding quotation, db =>
    some (.commit (award companyId userId quotation db) .returned)
  | .abort, .changing _, _ => some (.leave .aborted)
  | .abort, .awarding _, _ => some (.leave .aborted)
  | _, _, _ => none

/-- The moves of `PurchaseRfqsService.updateStatus`. -/
def rfqMove (id companyId userId : Uuid) (nextStatus : PurchaseRfqStatus) :
    Label → Phase → RfqDb → Option (Move RfqDb Uuid Phase)
  | .read, .called, db =>
    match PurchaseRfqsService.findByIdInCompany id companyId db >>=
        PurchaseRfqsService.updateStatus userId nextStatus with
    | .ok entity => some (.goto (.saving (.changed entity)))
    | .error error => some (.leave (.rejected error))
  | .save l, .saving p, db => (PurchaseRfqsService.rfqRow id).saveMove id .saving .returned l p db
  | .abort, .saving _, _ => some (.leave .aborted)
  | _, _, _ => none

def protocol (call : ℕ → Call) : Protocol RfqDb Uuid Phase Label := fun i l p db =>
  match call i with
  | .create companyId userId dto year => createMove companyId userId dto year l p db
  | .quotation id companyId userId nextStatus => quotationMove id companyId userId nextStatus l p db
  | .rfq id companyId userId nextStatus => rfqMove id companyId userId nextStatus l p db

def machine (call : ℕ → Call) : Machine (Shared RfqDb Uuid Phase) (ℕ × Label) :=
  concurrent (protocol call)

/-! ## What is claimed -/

def AlongEdges (db db' : RfqDb) : Prop :=
  ∀ id r r', db.rfqs.find? id = some r → db'.rfqs.find? id = some r' → r'.status ≠ r.status →
    r'.status ∈ PurchaseRfqsService.ALLOWED_TRANSITIONS r.status

structure AwardedOnce (db : RfqDb) : Prop where
  once : ∀ a ∈ db.awards, ∀ b ∈ db.awards, a.1 = b.1 → a.2 = b.2
  awarded : ∀ q ∈ db.quotations.rows, q.status = .Awarded → (q.purchaseRfqId, q.id) ∈ db.awards

def PricesOnce (rfq : PurchaseRfq) (q : SupplierQuotation) : Prop :=
  ∀ item ∈ rfq.items, q.items.countP (fun row => row.purchaseRfqItemId = item.id) = 1

def Priced (db : RfqDb) : Prop :=
  ∀ q ∈ db.quotations.rows, ∀ rfq ∈ db.rfqs.find? q.purchaseRfqId, PricesOnce rfq q

structure Lawful (s s' : Shared RfqDb Uuid Phase) : Prop where
  edges : AlongEdges s.db s'.db
  awards : AwardedOnce s'.db
  prices : Priced s'.db

def Current (nextStatus : PurchaseRfqStatus) (seen row : PurchaseRfq) : Prop :=
  seen.status = nextStatus ∨ row.status = nextStatus ∨
    nextStatus ∈ PurchaseRfqsService.ALLOWED_TRANSITIONS row.status

def Awardable (db : RfqDb) (quotation : SupplierQuotation) (rfq : PurchaseRfq) : Prop :=
  rfq.status = .Sent ∨
    (rfq.status = .Closed ∧ ∀ a ∈ db.awards, a.1 = quotation.purchaseRfqId → a.2 = quotation.id)

instance (nextStatus : PurchaseRfqStatus) (seen row : PurchaseRfq) :
    Decidable (Current nextStatus seen row) :=
  inferInstanceAs (Decidable (_ ∨ _))

instance (db : RfqDb) (quotation : SupplierQuotation) (rfq : PurchaseRfq) :
    Decidable (Awardable db quotation rfq) :=
  inferInstanceAs (Decidable (_ ∨ (_ ∧ ∀ a ∈ db.awards, a.1 = _ → a.2 = _)))

/-- The condition on a step: on the RFQ an award closes, on the RFQ a save writes over, and
on the items of a quotation that is inserted. -/
def Respects (call : ℕ → Call) (s : Shared RfqDb Uuid Phase) : ℕ × Label → Prop
  | (i, .commit) =>
    match call i, s.phase i with
    | .create companyId userId dto year, .checked rfq =>
      (insertQuotation companyId userId dto year rfq s.db).isOk = true →
        (dto.items.map (·.purchaseRfqItemId)).Nodup
    | .quotation .., .awarding quotation =>
      ∀ rfq ∈ s.db.rfqs.find? quotation.purchaseRfqId, Awardable s.db quotation rfq
    | _, _ => True
  | (i, .save .commit) =>
    match call i, s.phase i with
    | .rfq id _ _ nextStatus, .saving (.updated _ seen _) =>
      ∀ row ∈ s.db.rfqs.find? id, Current nextStatus seen row
    | _, _ => True
  | _ => True

instance (call : ℕ → Call) (s : Shared RfqDb Uuid Phase) (l : ℕ × Label) :
    Decidable (Respects call s l) := by
  unfold Respects
  split
  · split <;> infer_instance
  · split <;> infer_instance
  · infer_instance

/-! ## The invariant -/

/-- What holds of the tables: what is claimed of them; ids are drawn from `nextId`; a
quotation's RFQ is there; and what is awarded is CLOSED. -/
structure Good (db : RfqDb) : Prop where
  awards : AwardedOnce db
  prices : Priced db
  fresh : ∀ q ∈ db.quotations.rows, q.id < db.nextId
  refs : ∀ q ∈ db.quotations.rows, (db.rfqs.find? q.purchaseRfqId).isSome
  closed : ∀ a ∈ db.awards, ∀ rfq ∈ db.rfqs.find? a.1, rfq.status = .Closed

def HasItems (db : RfqDb) (id : Uuid) (rfq : PurchaseRfq) : Prop :=
  ∃ row, db.rfqs.find? id = some row ∧ row.items = rfq.items

def IsFor (db : RfqDb) (quotation : SupplierQuotation) : Prop :=
  ∃ row, db.quotations.find? quotation.id = some row ∧
    row.purchaseRfqId = quotation.purchaseRfqId

def PhaseOk (call : ℕ → Call) (held : Uuid → Prop) (db : RfqDb) (i : ℕ) (p : Phase) : Prop :=
  match call i, p with
  | .create _ _ dto _, .opened rfq => HasItems db dto.purchaseRfqId rfq
  | .create _ _ dto _, .checked rfq => HasItems db dto.purchaseRfqId rfq ∧
      (∀ item ∈ dto.items, item.purchaseRfqItemId ∈ itemIds rfq) ∧
        dto.items.length = (itemIds rfq).length
  | .quotation .., .changing quotation => IsFor db quotation
  | .quotation _ _ _ nextStatus, .awarding quotation => nextStatus = .Awarded ∧ IsFor db quotation ∧
      held quotation.purchaseRfqId
  | .rfq id _ userId nextStatus, .saving p =>
    SaveOk (PurchaseRfqsService.rfqRow id) id (fun _ _ => True)
      (PurchaseRfqsService.setStatus userId nextStatus) held db p
  | _, _ => True

def Phase.Free : Phase → Prop
  | opened _ | checked _ | changing _ | awarding _ | saving _ => False
  | _ => True

variable {p : Phase} {i : ℕ} {held : Uuid → Prop}

theorem PhaseOk.of_free {call : ℕ → Call} {db : RfqDb}
    (hp : p.Free) : PhaseOk call held db i p := by
  cases p with
  | opened | checked | changing | awarding | saving => exact hp.elim
  | _ => unfold PhaseOk; split <;> trivial

/-! ## Prices -/

variable {names : List Uuid}

/-- A list that names no item twice names each, when it has as many entries as there are
items and names no other. -/
theorem countP_eq_one_of_nodup {ids : List Uuid} (hnames : names.Nodup)
    (hsub : ∀ x ∈ names, x ∈ ids) (hlen : names.length = ids.length) {x : Uuid} (hx : x ∈ ids) :
    names.count x = 1 := by
  have hperm : names.Perm ids :=
    (List.subperm_of_subset hnames hsub).perm_of_length_le (Nat.le_of_eq hlen.symm)
  exact List.count_eq_one_of_mem hnames (hperm.mem_iff.2 hx)

theorem nodup_of_count_eq_one {ids : List Uuid} (hsub : ∀ x ∈ names, x ∈ ids)
    (hone : ∀ x ∈ ids, names.count x = 1) : names.Nodup := by
  refine List.nodup_iff_count_le_one.2 fun x => ?_
  by_cases hx : x ∈ names
  · exact Nat.le_of_eq (hone x (hsub x hx))
  · rw [List.count_eq_zero_of_not_mem hx]
    exact Nat.zero_le 1

theorem mem_itemIds {rfq : PurchaseRfq} {x : Uuid} :
    x ∈ itemIds rfq ↔ ∃ item ∈ rfq.items, item.id = x := by
  rw [itemIds, List.mem_dedup, List.mem_map]

theorem priceItem_ok {rfq : PurchaseRfq} {item : CreateSupplierQuotationItemDto}
    {row : SupplierQuotationItem} (h : priceItem rfq item = .ok row) :
    row.purchaseRfqItemId = item.purchaseRfqItemId := by
  obtain ⟨rfqItem, hget, h⟩ := except_bind_eq_ok.1 h
  obtain ⟨_, -, h⟩ := except_bind_eq_ok.1 h
  obtain ⟨_, -, h⟩ := except_bind_eq_ok.1 h
  cases h
  simpa using List.find?_some (orRefuse_eq_ok.1 hget)

theorem priceItems_ok {rfq : PurchaseRfq} {items : List CreateSupplierQuotationItemDto}
    {rows : List SupplierQuotationItem} (h : items.mapM (priceItem rfq) = .ok rows) :
    rows.map (·.purchaseRfqItemId) = items.map (·.purchaseRfqItemId) := by
  induction items generalizing rows with
  | nil =>
    cases h
    rfl
  | cons item items ih =>
    rw [List.mapM_cons] at h
    obtain ⟨row, hrow, h⟩ := except_bind_eq_ok.1 h
    obtain ⟨rest, hrest, h⟩ := except_bind_eq_ok.1 h
    cases h
    rw [List.map_cons, List.map_cons, priceItem_ok hrow, ih hrest]

theorem pricesOnce_iff {rfq : PurchaseRfq} {q : SupplierQuotation}
    (hrows : q.items.map (·.purchaseRfqItemId) = names) (hsub : ∀ x ∈ names, x ∈ itemIds rfq)
    (hlen : names.length = (itemIds rfq).length) : PricesOnce rfq q ↔ names.Nodup := by
  have hcount : ∀ x, q.items.countP (fun row => row.purchaseRfqItemId = x) = names.count x := by
    intro x
    rw [← hrows, List.count, List.countP_map]
    exact List.countP_congr fun row _ => by simp
  constructor
  · intro h
    refine nodup_of_count_eq_one hsub fun x hx => ?_
    obtain ⟨item, hitem, rfl⟩ := mem_itemIds.1 hx
    rw [← hcount]
    exact h item hitem
  · intro h item hitem
    rw [hcount]
    exact countP_eq_one_of_nodup h hsub hlen (mem_itemIds.2 ⟨item, hitem, rfl⟩)

/-! ## What the commits do -/

section

variable {call : ℕ → Call} {db db' : RfqDb}

/-- What a commit leaves of the rows others have read: quotations of the same RFQs, and
RFQs with the same items, unchanged where they are held. -/
structure Stands (held : Uuid → Prop) (db db' : RfqDb) : Prop where
  quotations : ∀ id q, db.quotations.find? id = some q →
    ∃ q', db'.quotations.find? id = some q' ∧ q'.purchaseRfqId = q.purchaseRfqId
  rfqs : ∀ id r, db.rfqs.find? id = some r →
    ∃ r', db'.rfqs.find? id = some r' ∧ r'.items = r.items ∧ (held id → r' = r)

theorem HasItems.mono {id : Uuid} {rfq : PurchaseRfq}
    (h : HasItems db id rfq) (hstands : Stands held db db') : HasItems db' id rfq := by
  obtain ⟨row, hrow, hitems⟩ := h
  obtain ⟨row', hrow', hsame, -⟩ := hstands.rfqs id row hrow
  exact ⟨row', hrow', hsame.trans hitems⟩

theorem IsFor.mono {quotation : SupplierQuotation} (h : IsFor db quotation)
    (hstands : Stands held db db') : IsFor db' quotation := by
  obtain ⟨row, hrow, hrfq⟩ := h
  obtain ⟨row', hrow', hsame⟩ := hstands.quotations _ row hrow
  exact ⟨row', hrow', hsame.trans hrfq⟩

theorem PhaseOk.mono {j : ℕ} (h : PhaseOk call held db j p)
    (hstands : Stands held db db') : PhaseOk call held db' j p := by
  unfold PhaseOk at h ⊢
  split
  case h_1 hcall =>
    simp only [hcall] at h
    exact h.mono hstands
  case h_2 hcall =>
    simp only [hcall] at h
    exact ⟨h.1.mono hstands, h.2⟩
  case h_3 hcall =>
    simp only [hcall] at h
    exact h.mono hstands
  case h_4 hcall =>
    simp only [hcall] at h
    exact ⟨h.1, h.2.1.mono hstands, h.2.2⟩
  case h_5 hcall =>
    simp only [hcall] at h
    refine h.mono (fun _ _ _ _ _ => trivial) fun r hr => ?_
    obtain ⟨r', hr', -, hsame⟩ := hstands.rfqs _ r hr
    exact ⟨r', hr', trivial, hsame⟩
  case h_6 => trivial

theorem alongEdges_of_rfqs_eq (h : db'.rfqs = db.rfqs) : AlongEdges db db' := by
  intro id r r' hr hr' hne
  rw [h] at hr'
  exact absurd (congrArg PurchaseRfq.status (Option.some.inj (hr.symm.trans hr'))).symm hne

/-! ### A creation -/

structure Inserted (dto : CreateSupplierQuotationDto) (db db' : RfqDb) (q : SupplierQuotation) :
    Prop where
  rfqs : db'.rfqs = db.rfqs
  awards : db'.awards = db.awards
  nextId : db'.nextId = db.nextId + 1
  quotations : db'.quotations = db.quotations.save q
  id : q.id = db.nextId
  rfq : q.purchaseRfqId = dto.purchaseRfqId
  status : q.status = .Submitted
  items : q.items.map (·.purchaseRfqItemId) = dto.items.map (·.purchaseRfqItemId)

theorem insertQuotation_ok {companyId userId : Uuid} {dto : CreateSupplierQuotationDto} {year : ℕ}
    {rfq : PurchaseRfq} (h : insertQuotation companyId userId dto year rfq db = .ok db') :
    ∃ q, Inserted dto db db' q := by
  unfold insertQuotation at h
  dsimp only at h
  obtain ⟨rows, hrows, h⟩ := except_bind_eq_ok.1 h
  obtain ⟨_, -, h⟩ := except_bind_eq_ok.1 h
  cases h
  exact ⟨_, rfl, rfl, rfl, rfl, rfl, rfl, rfl, priceItems_ok hrows⟩

section

variable {dto : CreateSupplierQuotationDto} {q : SupplierQuotation} {rfq : PurchaseRfq}

theorem Inserted.new (h : Inserted dto db db' q) (hdb : Good db) :
    db.quotations.find? (key q) = none := by
  refine Table.find?_eq_none.2 fun r hr hkey => ?_
  have hlt := hdb.fresh r hr
  have hid : r.id = db.nextId := Eq.trans hkey h.id
  rw [hid] at hlt
  exact Nat.lt_irrefl _ hlt

theorem Inserted.rows (h : Inserted dto db db' q) (hdb : Good db) :
    db'.quotations.rows = db.quotations.rows ++ [q] := by
  rw [h.quotations, Table.rows_save_new (h.new hdb)]

theorem Inserted.stands (h : Inserted dto db db' q) (hdb : Good db) (held : Uuid → Prop) :
    Stands held db db' where
  quotations id r hr := by
    refine ⟨r, ?_, rfl⟩
    have hne : key q ≠ id := by
      intro hkey
      rw [← hkey, h.new hdb] at hr
      cases hr
    rw [h.quotations, Table.find?_save, if_neg hne]
    exact hr
  rfqs id r hr := ⟨r, by rw [h.rfqs]; exact hr, rfl, fun _ => rfl⟩

/-- The new quotation prices the RFQ exactly when it names no item twice. -/
theorem Inserted.pricesOnce_iff (h : Inserted dto db db' q)
    (hchecked : (∀ item ∈ dto.items, item.purchaseRfqItemId ∈ itemIds rfq) ∧
      dto.items.length = (itemIds rfq).length) {row : PurchaseRfq} (hitems : row.items = rfq.items) :
    PricesOnce row q ↔ (dto.items.map (·.purchaseRfqItemId)).Nodup := by
  have hids : itemIds row = itemIds rfq := by rw [itemIds, itemIds, hitems]
  refine RfqRace.pricesOnce_iff h.items (fun x hx => ?_) ?_
  · obtain ⟨item, hitem, rfl⟩ := List.mem_map.1 hx
    exact hids ▸ hchecked.1 item hitem
  · rw [List.length_map, hchecked.2, hids]

theorem Inserted.good (h : Inserted dto db db' q) (hdb : Good db)
    (hread : HasItems db dto.purchaseRfqId rfq)
    (hchecked : (∀ item ∈ dto.items, item.purchaseRfqItemId ∈ itemIds rfq) ∧
      dto.items.length = (itemIds rfq).length)
    (hnodup : (dto.items.map (·.purchaseRfqItemId)).Nodup) : Good db' := by
  obtain ⟨row, hrow, hitems⟩ := hread
  refine ⟨⟨?_, fun r hr hawarded => ?_⟩, fun r hr rfq' hrfq' => ?_, fun r hr => ?_,
    fun r hr => ?_, ?_⟩
  · rw [h.awards]
    exact hdb.awards.once
  · rw [h.rows hdb] at hr
    rw [h.awards]
    rcases List.mem_append.1 hr with hr | hr
    · exact hdb.awards.awarded r hr hawarded
    · rw [List.mem_singleton.1 hr, h.status] at hawarded
      cases hawarded
  · rw [h.rows hdb] at hr
    rw [h.rfqs] at hrfq'
    rcases List.mem_append.1 hr with hr | hr
    · exact hdb.prices r hr rfq' hrfq'
    · rw [List.mem_singleton.1 hr] at hrfq' ⊢
      rw [h.rfq, hrow] at hrfq'
      cases hrfq'
      exact (h.pricesOnce_iff hchecked hitems).2 hnodup
  · rw [h.rows hdb] at hr
    rw [h.nextId]
    rcases List.mem_append.1 hr with hr | hr
    · exact Nat.lt_succ_of_lt (hdb.fresh r hr)
    · rw [List.mem_singleton.1 hr, h.id]
      exact Nat.lt_succ_self _
  · rw [h.rows hdb] at hr
    rw [h.rfqs]
    rcases List.mem_append.1 hr with hr | hr
    · exact hdb.refs r hr
    · rw [List.mem_singleton.1 hr, h.rfq, hrow]
      rfl
  · rw [h.awards, h.rfqs]
    exact hdb.closed

end

/-! ### Changes in place -/

/-- Quotations and RFQs are changed in their places, and neither what a quotation is for or
prices nor the items of an RFQ. -/
structure Mapped (f : SupplierQuotation → SupplierQuotation) (g : PurchaseRfq → PurchaseRfq)
    (db db' : RfqDb) : Prop where
  id : ∀ row, (f row).id = row.id
  rfq : ∀ row, (f row).purchaseRfqId = row.purchaseRfqId
  rows : ∀ row, (f row).items = row.items
  items : ∀ rfq, (g rfq).items = rfq.items
  quotations : ∀ id, db'.quotations.find? id = (db.quotations.find? id).map f
  mem : ∀ row ∈ db'.quotations.rows, ∃ row₀ ∈ db.quotations.rows, row = f row₀
  rfqs : ∀ id, db'.rfqs.find? id = (db.rfqs.find? id).map g
  nextId : db'.nextId = db.nextId

section

variable {f : SupplierQuotation → SupplierQuotation} {g : PurchaseRfq → PurchaseRfq}

theorem Mapped.stands (h : Mapped f g db db')
    (hkept : ∀ id r, db.rfqs.find? id = some r → held id → g r = r) : Stands held db db' where
  quotations id q hq := ⟨f q, by rw [h.quotations, hq]; rfl, h.rfq q⟩
  rfqs id r hr := ⟨g r, by rw [h.rfqs, hr]; rfl, h.items r, hkept id r hr⟩

theorem Mapped.priced (h : Mapped f g db db') (hdb : Priced db) : Priced db' := by
  intro q hq rfq hrfq
  obtain ⟨q₀, hq₀, rfl⟩ := h.mem q hq
  rw [h.rfq, h.rfqs] at hrfq
  obtain ⟨rfq₀, hrfq₀, rfl⟩ := Option.map_eq_some_iff.1 hrfq
  intro item hitem
  rw [h.items] at hitem
  rw [h.rows]
  exact hdb q₀ hq₀ rfq₀ hrfq₀ item hitem

theorem Mapped.good (h : Mapped f g db db') (hdb : Good db) (hawards : AwardedOnce db')
    (hclosed : ∀ a ∈ db'.awards, ∀ rfq ∈ db'.rfqs.find? a.1, rfq.status = .Closed) : Good db' where
  awards := hawards
  prices := h.priced hdb.prices
  fresh q hq := by
    obtain ⟨q₀, hq₀, rfl⟩ := h.mem q hq
    rw [h.id, h.nextId]
    exact hdb.fresh q₀ hq₀
  refs q hq := by
    obtain ⟨q₀, hq₀, rfl⟩ := h.mem q hq
    rw [h.rfq, h.rfqs, Option.isSome_map]
    exact hdb.refs q₀ hq₀
  closed := hclosed

end

/-! ### A change of a quotation that is no award -/

section

variable {companyId userId : Uuid} {nextStatus : SupplierQuotationStatus}
  {quotation : SupplierQuotation}

theorem statusRow_same (row : SupplierQuotation) :
    (statusRow userId nextStatus quotation row).purchaseRfqId = row.purchaseRfqId ∧
      (statusRow userId nextStatus quotation row).items = row.items := by
  unfold statusRow
  split <;> exact ⟨rfl, rfl⟩

theorem mapped_changeStatus (userId : Uuid) (nextStatus : SupplierQuotationStatus)
    (quotation : SupplierQuotation) (db : RfqDb) :
    Mapped (statusRow userId nextStatus quotation) id db
      (changeStatus userId nextStatus quotation db) where
  id := statusRow_id userId nextStatus quotation
  rfq row := (statusRow_same row).1
  rows row := (statusRow_same row).2
  items _ := rfl
  quotations id := Table.find?_mapRows _ _ (statusRow_id userId nextStatus quotation) id
  mem row hrow := by
    obtain ⟨row₀, hrow₀, rfl⟩ := List.mem_map.1 hrow
    exact ⟨row₀, hrow₀, rfl⟩
  rfqs id := by rw [Option.map_id_fun]; rfl
  nextId := rfl

theorem awardedOnce_changeStatus (hnext : nextStatus ≠ .Awarded) (hdb : AwardedOnce db) :
    AwardedOnce (changeStatus userId nextStatus quotation db) := by
  refine ⟨hdb.once, fun q hq hawarded => ?_⟩
  obtain ⟨q₀, hq₀, rfl⟩ := List.mem_map.1 hq
  rw [(statusRow_same q₀).1, statusRow_id]
  refine hdb.awarded q₀ hq₀ ?_
  unfold statusRow at hawarded
  split at hawarded
  · exact absurd hawarded hnext
  · exact hawarded

/-! ### An award -/

theorem awardRow_same (row : SupplierQuotation) :
    (awardRow companyId userId quotation row).purchaseRfqId = row.purchaseRfqId ∧
      (awardRow companyId userId quotation row).items = row.items := by
  unfold awardRow
  split
  · exact ⟨rfl, rfl⟩
  · split <;> exact ⟨rfl, rfl⟩

theorem mapped_award (companyId userId : Uuid) (quotation : SupplierQuotation) (db : RfqDb) :
    Mapped (awardRow companyId userId quotation) (closeRow userId quotation) db
      (award companyId userId quotation db) where
  id := awardRow_id companyId userId quotation
  rfq row := (awardRow_same row).1
  rows row := (awardRow_same row).2
  items rfq := by
    unfold closeRow
    split <;> rfl
  quotations id := Table.find?_mapRows _ _ (awardRow_id companyId userId quotation) id
  mem row hrow := by
    obtain ⟨row₀, hrow₀, rfl⟩ := List.mem_map.1 hrow
    exact ⟨row₀, hrow₀, rfl⟩
  rfqs id := Table.find?_mapRows _ _ (closeRow_id userId quotation) id
  nextId := rfl

theorem awardRow_awarded {row : SupplierQuotation}
    (h : (awardRow companyId userId quotation row).status = .Awarded) :
    row.id = quotation.id ∨ row.status = .Awarded := by
  unfold awardRow at h
  split at h
  · exact .inl ‹_›
  · split at h
    · cases h
    · exact .inr h

theorem good_award (hdb : Good db) (hfor : IsFor db quotation)
    (hawardable : ∀ rfq ∈ db.rfqs.find? quotation.purchaseRfqId, Awardable db quotation rfq) :
    Good (award companyId userId quotation db) := by
  obtain ⟨own, hown, hrfq⟩ := hfor
  have hrefs := hdb.refs own (Table.mem_of_find? hown)
  rw [hrfq] at hrefs
  obtain ⟨rfq, hfind⟩ := Option.isSome_iff_exists.1 hrefs
  -- Nothing else has been awarded on the RFQ.
  have hnone : ∀ a ∈ db.awards, a.1 = quotation.purchaseRfqId → a.2 = quotation.id := by
    rcases hawardable rfq hfind with hsent | ⟨-, hnone⟩
    · intro a ha hsame
      have hclosed := hdb.closed a ha rfq (hsame ▸ hfind)
      rw [hsent] at hclosed
      cases hclosed
    · exact hnone
  refine (mapped_award companyId userId quotation db).good hdb ⟨?_, fun q hq hawarded => ?_⟩ ?_
  · intro a ha b hb hsame
    rcases List.mem_append.1 ha with ha | ha
    · rcases List.mem_append.1 hb with hb | hb
      · exact hdb.awards.once a ha b hb hsame
      · rw [List.mem_singleton.1 hb] at hsame ⊢
        exact hnone a ha hsame
    · rw [List.mem_singleton.1 ha] at hsame ⊢
      rcases List.mem_append.1 hb with hb | hb
      · exact (hnone b hb hsame.symm).symm
      · rw [List.mem_singleton.1 hb]
  · obtain ⟨q₀, hq₀, rfl⟩ := List.mem_map.1 hq
    rw [(awardRow_same q₀).1, awardRow_id]
    refine List.mem_append.2 ?_
    rcases awardRow_awarded hawarded with hid | hawarded
    · have hsame : q₀ = own := Table.eq_of_key hq₀ (Table.mem_of_find? hown)
        (Eq.trans hid (Table.key_of_find? hown).symm)
      rw [hid, hsame, hrfq]
      exact .inr (List.mem_singleton.2 rfl)
    · exact .inl (hdb.awards.awarded q₀ hq₀ hawarded)
  · intro a ha r hr
    rw [(mapped_award companyId userId quotation db).rfqs] at hr
    obtain ⟨r₀, hr₀, rfl⟩ := Option.map_eq_some_iff.1 hr
    unfold closeRow
    split
    · rfl
    · rename_i hne
      rcases List.mem_append.1 ha with ha | ha
      · exact hdb.closed a ha r₀ hr₀
      · rw [List.mem_singleton.1 ha] at hr₀
        exact absurd (Table.key_of_find? hr₀) hne

/-- The condition on an award is exact. -/
theorem awardable_iff (hdb : Good db) (hfor : IsFor db quotation) :
    (∀ rfq ∈ db.rfqs.find? quotation.purchaseRfqId, Awardable db quotation rfq) ↔
      AlongEdges db (award companyId userId quotation db) ∧
        AwardedOnce (award companyId userId quotation db) := by
  have hmapped := mapped_award companyId userId quotation db
  constructor
  · intro hawardable
    refine ⟨fun id r r' hr hr' hne => ?_, (good_award hdb hfor hawardable).awards⟩
    rw [hmapped.rfqs, hr] at hr'
    cases hr'
    unfold closeRow at hne ⊢
    split
    · rename_i hid
      rw [if_pos hid] at hne
      have hkey : r.id = id := Table.key_of_find? hr
      rcases hawardable r (by rw [← hid, hkey]; exact hr) with hsent | ⟨hclosed, -⟩
      · rw [hsent]
        exact List.mem_cons_self
      · exact absurd hclosed.symm hne
    · rename_i hid
      rw [if_neg hid] at hne
      exact absurd rfl hne
  · rintro ⟨hedges, hawards⟩ rfq hrfq
    have hclose : closeRow userId quotation rfq =
        PurchaseRfqsService.setStatus userId .Closed rfq := if_pos (Table.key_of_find? hrfq)
    have hafter : (award companyId userId quotation db).rfqs.find? quotation.purchaseRfqId =
        some (PurchaseRfqsService.setStatus userId .Closed rfq) := by
      rw [hmapped.rfqs, hrfq, ← hclose]
      rfl
    by_cases hclosed : rfq.status = .Closed
    · refine .inr ⟨hclosed, fun a ha hsame => ?_⟩
      exact hawards.once a (List.mem_append_left _ ha) (quotation.purchaseRfqId, quotation.id)
        (List.mem_append_right _ (List.mem_singleton.2 rfl)) hsame
    · have hedge := hedges _ _ _ hrfq hafter fun h => hclosed h.symm
      left
      cases hstatus : rfq.status with
      | Sent => rfl
      | Closed => exact absurd hstatus hclosed
      | Draft | Cancelled =>
        rw [hstatus] at hedge
        revert hedge
        show PurchaseRfqStatus.Closed ∈ _ → _
        decide

end

/-! ### A save of an RFQ -/

section

variable {id userId : Uuid} {nextStatus : PurchaseRfqStatus} {first seen current : PurchaseRfq}

open PurchaseRfqsService (rfqRow mergeRfq)

theorem find_put (entity : PurchaseRfq) (hfind : db.rfqs.find? id = some current) (j : Uuid) :
    ((rfqRow id).put (mergeRfq entity seen current) db).rfqs.find? j =
      if id = j then some (mergeRfq entity seen current) else db.rfqs.find? j := by
  have hid : current.id = id := Table.key_of_find? hfind
  have hkey : key (mergeRfq entity seen current) = id := hid
  show (db.rfqs.save (mergeRfq entity seen current)).find? j = _
  rw [Table.find?_save, hkey]

theorem merge_status :
    (mergeRfq (PurchaseRfqsService.setStatus userId nextStatus first) seen current).status =
      if seen.status = nextStatus then current.status else nextStatus := by
  show mergeCol nextStatus seen.status current.status = _
  rw [mergeCol]
  by_cases h : seen.status = nextStatus
  · rw [if_pos h, if_pos h.symm]
  · rw [if_neg h, if_neg fun e => h e.symm]

/-- The condition on a save is exact. -/
theorem current_iff (hfind : db.rfqs.find? id = some current) :
    Current nextStatus seen current ↔ AlongEdges db ((rfqRow id).put
      (mergeRfq (PurchaseRfqsService.setStatus userId nextStatus first) seen current) db) := by
  constructor
  · intro h j r r' hr hr' hne
    rw [find_put _ hfind] at hr'
    split at hr'
    · rename_i hj
      subst hj
      obtain rfl := Option.some.inj (hfind.symm.trans hr)
      cases hr'
      rw [merge_status] at hne ⊢
      rcases h with hseen | hsame | hedge
      · rw [if_pos hseen] at hne
        exact absurd rfl hne
      · rw [hsame, ite_self] at hne
        exact absurd rfl hne
      · split at hne
        · exact absurd rfl hne
        · rename_i hseen
          rw [if_neg hseen]
          exact hedge
    · exact absurd (congrArg PurchaseRfq.status (Option.some.inj (hr.symm.trans hr'))).symm hne
  · intro h
    have hrow := h id current _ hfind (by rw [find_put _ hfind, if_pos rfl])
    rw [merge_status] at hrow
    by_cases hseen : seen.status = nextStatus
    · exact .inl hseen
    · rw [if_neg hseen] at hrow
      by_cases hsame : current.status = nextStatus
      · exact .inr (.inl hsame)
      · exact .inr (.inr (hrow fun e => hsame e.symm))

theorem mapped_save (entity : PurchaseRfq) (hfind : db.rfqs.find? id = some current) :
    Mapped (fun q => q)
      (fun r => if r.id = id ∧ r.items = current.items then mergeRfq entity seen current else r) db
      ((rfqRow id).put (mergeRfq entity seen current) db) where
  id _ := rfl
  rfq _ := rfl
  rows _ := rfl
  items r := by
    split
    · rename_i h
      exact h.2.symm
    · rfl
  quotations j := by rw [Option.map_id']; rfl
  mem row hrow := ⟨row, hrow, rfl⟩
  rfqs j := by
    rw [find_put _ hfind]
    by_cases hj : id = j
    · subst hj
      rw [if_pos rfl, hfind, Option.map_some, if_pos ⟨Table.key_of_find? hfind, rfl⟩]
    · rw [if_neg hj]
      cases hr : db.rfqs.find? j with
      | none => rfl
      | some r =>
        have hkey : r.id = j := Table.key_of_find? hr
        rw [Option.map_some, if_neg fun h => hj (h.1.symm.trans hkey)]
  nextId := rfl

theorem good_save (hdb : Good db) (hfind : db.rfqs.find? id = some current)
    (hcurrent : Current nextStatus seen current) :
    Good ((rfqRow id).put
      (mergeRfq (PurchaseRfqsService.setStatus userId nextStatus first) seen current) db) := by
  refine (mapped_save _ hfind).good hdb ⟨hdb.awards.once, hdb.awards.awarded⟩ fun a ha r hr => ?_
  rw [find_put _ hfind] at hr
  split at hr
  · rename_i hid
    cases hr
    have hclosed := hdb.closed a ha current (hid ▸ hfind)
    rw [merge_status]
    split
    · exact hclosed
    · rename_i hseen
      rcases hcurrent with hsame | hsame | hedge
      · exact absurd hsame hseen
      · exact hsame.symm.trans hclosed
      · rw [hclosed] at hedge
        exact absurd hedge List.not_mem_nil
  · exact hdb.closed a ha r hr

end

/-! ## Steps and runs -/

/-- The moves of a request: one of the four commits, or nobody sees it. -/
inductive MoveCase (call : ℕ → Call) (held : Uuid → Prop) (db : RfqDb) (i : ℕ) :
    Label → Phase → Move RfqDb Uuid Phase → Prop
  | quiet {l p m} (hok : Shared.MoveOk (fun _ => False) (PhaseOk call) held db i m) :
    MoveCase call held db i l p m
  | inserted {companyId userId dto year rfq db' q} (hcall : call i = .create companyId userId dto year)
      (hread : HasItems db dto.purchaseRfqId rfq)
      (hchecked : (∀ item ∈ dto.items, item.purchaseRfqItemId ∈ itemIds rfq) ∧
        dto.items.length = (itemIds rfq).length)
      (hinsert : insertQuotation companyId userId dto year rfq db = .ok db')
      (hinserted : Inserted dto db db' q) :
    MoveCase call held db i .commit (.checked rfq) (.commit db' .returned)
  | changed {id companyId userId nextStatus quotation}
      (hcall : call i = .quotation id companyId userId nextStatus) (hnext : nextStatus ≠ .Awarded) :
    MoveCase call held db i .commit (.changing quotation)
      (.commit (changeStatus userId nextStatus quotation db) .returned)
  | awarded {id companyId userId nextStatus quotation}
      (hcall : call i = .quotation id companyId userId nextStatus) (hfor : IsFor db quotation)
      (hheld : held quotation.purchaseRfqId) :
    MoveCase call held db i .commit (.awarding quotation)
      (.commit (award companyId userId quotation db) .returned)
  | saved {id companyId userId nextStatus first seen current entity row}
      (hcall : call i = .rfq id companyId userId nextStatus)
      (hfind : db.rfqs.find? id = some current) (hheld : held id)
      (hrow : row = PurchaseRfqsService.mergeRfq
        (PurchaseRfqsService.setStatus userId nextStatus first) seen current) :
    MoveCase call held db i (.save .commit) (.saving (.updated entity seen row))
      (.commit ((PurchaseRfqsService.rfqRow id).put row db) .returned)

variable {l : Label}

theorem MoveCase.leave {q : Phase} (hq : q.Free) : MoveCase call held db i l p (.leave q) := by
  refine .quiet ?_
  show PhaseOk call (fun _ => False) db i q
  exact .of_free hq

theorem findRfq_ok {id companyId : Uuid} {rfq : PurchaseRfq}
    (h : PurchaseRfqsService.findByIdInCompany id companyId db = .ok rfq) :
    db.rfqs.find? id = some rfq :=
  (Option.filter_eq_some_iff.1 (orRefuse_eq_ok.1 h)).1

theorem openRfq_ok {companyId : Uuid} {dto : CreateSupplierQuotationDto} {rfq : PurchaseRfq}
    (h : openRfq companyId dto db = .ok rfq) : HasItems db dto.purchaseRfqId rfq := by
  obtain ⟨_, -, h⟩ := except_bind_eq_ok.1 h
  obtain ⟨_, -, h⟩ := except_bind_eq_ok.1 h
  obtain ⟨_, -, h⟩ := except_bind_eq_ok.1 h
  obtain ⟨found, hfound, h⟩ := except_bind_eq_ok.1 h
  -- past the status, the invitations and the payment term
  obtain ⟨_, -, h⟩ := except_bind_eq_ok.1 h
  obtain ⟨_, -, h⟩ := except_bind_eq_ok.1 h
  obtain ⟨_, -, h⟩ := except_bind_eq_ok.1 h
  obtain rfl := Except.ok.inj h
  exact ⟨found, findRfq_ok hfound, rfl⟩

theorem assertItems_ok {companyId : Uuid} {dto : CreateSupplierQuotationDto} {rfq : PurchaseRfq}
    {u : Unit} (h : assertItems companyId dto rfq db = .ok u) :
    (∀ item ∈ dto.items, item.purchaseRfqItemId ∈ itemIds rfq) ∧
      dto.items.length = (itemIds rfq).length := by
  obtain ⟨_, -, h⟩ := except_bind_eq_ok.1 h
  obtain ⟨_, hbelong, h⟩ := except_bind_eq_ok.1 h
  refine ⟨?_, not_not.1 (refuseIf_eq_ok.1 h)⟩
  unfold assertItemsBelong at hbelong
  split at hbelong
  · rename_i hnone
    intro item hitem
    simpa using List.find?_eq_none.1 hnone item hitem
  · cases hbelong

variable {m : Move RfqDb Uuid Phase}

theorem createMove_cases {companyId userId : Uuid} {dto : CreateSupplierQuotationDto}
    {year : ℕ} (hcall : call i = .create companyId userId dto year)
    (h : PhaseOk call held db i p) (hm : createMove companyId userId dto year l p db = some m) :
    MoveCase call held db i l p m := by
  unfold createMove at hm
  split at hm
  case h_1 =>
    split at hm
    · rename_i rfq hopen
      cases hm
      refine .quiet ?_
      simp only [Shared.MoveOk, PhaseOk, hcall]
      exact openRfq_ok hopen
    · cases hm
      exact .leave trivial
  case h_2 rfq =>
    simp only [PhaseOk, hcall] at h
    split at hm
    · rename_i hassert
      cases hm
      refine .quiet ?_
      simp only [Shared.MoveOk, PhaseOk, hcall]
      exact ⟨h, assertItems_ok hassert⟩
    · cases hm
      exact .leave trivial
  case h_3 rfq =>
    simp only [PhaseOk, hcall] at h
    split at hm
    · rename_i db' hinsert
      cases hm
      obtain ⟨q, hinserted⟩ := insertQuotation_ok hinsert
      exact .inserted hcall h.1 h.2 hinsert hinserted
    · cases hm
      exact .leave trivial
  case h_6 => cases hm
  all_goals
    cases hm
    exact .leave trivial

theorem quotationMove_cases {id companyId userId : Uuid} {nextStatus : SupplierQuotationStatus}
    (hcall : call i = .quotation id companyId userId nextStatus)
    (h : PhaseOk call held db i p) (hm : quotationMove id companyId userId nextStatus l p db = some m) :
    MoveCase call held db i l p m := by
  unfold quotationMove at hm
  split at hm
  case h_1 =>
    split at hm
    · rename_i quotation hread
      cases hm
      obtain ⟨found, hfound, hassert⟩ := except_bind_eq_ok.1 hread
      have hsame : found = quotation := by
        unfold assertTransition at hassert
        split at hassert
        · exact Except.ok.inj hassert
        · cases hassert
      subst hsame
      have hfind := (Option.filter_eq_some_iff.1 (orRefuse_eq_ok.1 hfound)).1
      have hid : found.id = id := Table.key_of_find? hfind
      refine .quiet ?_
      simp only [Shared.MoveOk, PhaseOk, hcall]
      exact ⟨found, hid ▸ hfind, rfl⟩
    · cases hm
      exact .leave trivial
  case h_2 quotation =>
    simp only [PhaseOk, hcall] at h
    split at hm
    · rename_i hnext
      cases hm
      refine .quiet ?_
      simp only [Shared.MoveOk, PhaseOk, hcall, true_or, and_true]
      exact ⟨hnext, h⟩
    · cases hm
  case h_3 quotation =>
    split at hm
    · cases hm
    · rename_i hnext
      cases hm
      exact .changed hcall hnext
  case h_4 quotation =>
    simp only [PhaseOk, hcall] at h
    cases hm
    exact .awarded hcall h.2.1 h.2.2
  case h_7 => cases hm
  all_goals
    cases hm
    exact .leave trivial

theorem rfqMove_cases {id companyId userId : Uuid} {nextStatus : PurchaseRfqStatus}
    (hcall : call i = .rfq id companyId userId nextStatus) (h : PhaseOk call held db i p)
    (hm : rfqMove id companyId userId nextStatus l p db = some m) :
    MoveCase call held db i l p m := by
  unfold rfqMove at hm
  split at hm
  case h_1 =>
    split at hm
    · rename_i entity hread
      cases hm
      obtain ⟨found, hfound, hupdate⟩ := except_bind_eq_ok.1 hread
      have hentity : entity = PurchaseRfqsService.setStatus userId nextStatus found := by
        unfold PurchaseRfqsService.updateStatus at hupdate
        split at hupdate
        · exact (Except.ok.inj hupdate).symm
        · cases hupdate
      refine .quiet ?_
      simp only [Shared.MoveOk, PhaseOk, hcall]
      exact ⟨found, found, hentity, findRfq_ok hfound, trivial⟩
    · cases hm
      exact .leave trivial
  case h_2 l p =>
    simp only [PhaseOk, hcall] at h
    rcases h.move (fun _ => trivial) hm with ⟨q, rfl, hq⟩ | ⟨q, rfl, hq⟩ |
      ⟨entity, seen, row, rfl, rfl, rfl⟩
    · refine .quiet ?_
      simp only [Shared.MoveOk, PhaseOk, hcall]
      exact hq
    · refine .quiet ?_
      simp only [Shared.MoveOk, PhaseOk, hcall]
      exact hq
    · obtain ⟨first, current, rfl, hfind, -, -, hheld, rfl⟩ := h
      exact .saved hcall hfind hheld rfl
  case h_3 =>
    cases hm
    exact .leave trivial
  case h_4 => cases hm

theorem protocol_cases (h : PhaseOk call held db i p)
    (hm : protocol call i l p db = some m) : MoveCase call held db i l p m := by
  unfold protocol at hm
  split at hm
  · exact createMove_cases ‹_› h hm
  · exact quotationMove_cases ‹_› h hm
  · exact rfqMove_cases ‹_› h hm

def Inv (call : ℕ → Call) (s : Shared RfqDb Uuid Phase) : Prop := s.Inv Good (PhaseOk call)

variable {s : Shared RfqDb Uuid Phase}

theorem respects_of_quiet (hm : protocol call i l (s.phase i) s.db = some m)
    (hquiet : ∀ db p, m ≠ .commit db p) : Respects call s (i, l) := by
  cases l with
  | commit =>
    simp only [Respects]
    split
    · rename_i companyId userId dto year rfq hcall hp
      intro hok
      simp only [protocol, hcall, hp, createMove] at hm
      split at hm
      · exact absurd (Option.some.inj hm).symm (hquiet _ _)
      · rename_i herror
        rw [herror] at hok
        cases hok
    · rename_i hcall hp
      simp only [protocol, hcall, hp, quotationMove, Option.some.injEq] at hm
      exact absurd hm.symm (hquiet _ _)
    · trivial
  | save l =>
    cases l with
    | commit =>
      simp only [Respects]
      split
      · rename_i hcall hp
        simp only [protocol, hcall, hp, rfqMove, RowAccess.saveMove, Option.some.injEq] at hm
        exact absurd hm.symm (hquiet _ _)
      · trivial
    | _ => trivial
  | _ => trivial

variable {s' : Shared RfqDb Uuid Phase}

/-- A step is lawful exactly when it meets the condition. -/
theorem lawful_iff_respects {l : ℕ × Label} (h : Inv call s)
    (hs : (machine call).step s l = some s') : Lawful s s' ↔ Respects call s l := by
  obtain ⟨i, l⟩ := l
  obtain ⟨m, hm, hmove⟩ := Shared.step_move hs
  have hi := h.phase i
  generalize hp : s.phase i = p at hi hm
  cases protocol_cases hi hm with
  | quiet hok =>
    have hdb := hok.db_eq hmove
    refine ⟨fun _ => respects_of_quiet (hp ▸ hm) fun db p hcommit => ?_, fun _ => ?_⟩
    · rw [hcommit] at hok
      exact hok.1
    · exact ⟨alongEdges_of_rfqs_eq (by rw [hdb]), hdb ▸ h.db.awards, hdb ▸ h.db.prices⟩
  | @inserted companyId userId dto year rfq db' q hcall hread hchecked hinsert hinserted =>
    cases hmove
    have hok : (insertQuotation companyId userId dto year rfq s.db).isOk = true := by
      rw [hinsert]
      rfl
    simp only [Respects, hcall, hp, hok, forall_true_left]
    constructor
    · intro hlawful
      obtain ⟨row, hrow, hitems⟩ := hread
      have hnew : q ∈ db'.quotations.rows := by
        rw [hinserted.rows h.db]
        exact List.mem_append_right _ (List.mem_singleton.2 rfl)
      refine (hinserted.pricesOnce_iff hchecked hitems).1 (hlawful.prices q hnew row ?_)
      show db'.rfqs.find? q.purchaseRfqId = some row
      rw [hinserted.rfqs, hinserted.rfq, hrow]
    · intro hnodup
      have hgood := hinserted.good h.db hread hchecked hnodup
      exact ⟨alongEdges_of_rfqs_eq hinserted.rfqs, hgood.awards, hgood.prices⟩
  | @changed id companyId userId nextStatus quotation hcall hnext =>
    cases hmove
    simp only [Respects, hcall, hp, iff_true]
    exact ⟨alongEdges_of_rfqs_eq rfl, awardedOnce_changeStatus hnext h.db.awards,
      (mapped_changeStatus userId nextStatus quotation s.db).priced h.db.prices⟩
  | @awarded id companyId userId nextStatus quotation hcall hfor hheld =>
    cases hmove
    simp only [Respects, hcall, hp]
    rw [awardable_iff h.db hfor]
    constructor
    · intro hlawful
      exact ⟨hlawful.edges, hlawful.awards⟩
    · rintro ⟨hedges, hawards⟩
      exact ⟨hedges, hawards, (mapped_award companyId userId quotation s.db).priced h.db.prices⟩
  | @saved id companyId userId nextStatus first seen current entity row hcall hfind hheld hrow =>
    cases hmove
    subst hrow
    simp only [Respects, hcall, hp]
    have hall : (∀ r ∈ s.db.rfqs.find? id, Current nextStatus seen r) ↔
        Current nextStatus seen current := by
      simp [hfind]
    rw [hall, current_iff hfind]
    constructor
    · intro hlawful
      exact hlawful.edges
    · intro hedges
      have hgood : Good ((PurchaseRfqsService.rfqRow id).put (PurchaseRfqsService.mergeRfq
          (PurchaseRfqsService.setStatus userId nextStatus first) seen current) s.db) :=
        good_save h.db hfind ((current_iff hfind).2 hedges)
      exact ⟨hedges, hgood.awards, hgood.prices⟩

theorem commit_ok {db' : RfqDb} {q : Phase} (h : Inv call s) (hc : Respects call s (i, l))
    (hm : protocol call i l (s.phase i) s.db = some (.commit db' q)) :
    Good db' ∧ q.Free ∧ Stands (fun k => ¬ s.Holds i k) s.db db' := by
  have hi := h.phase i
  generalize hp : s.phase i = p at hi hm
  generalize hmove : Move.commit db' q = m at hm
  cases protocol_cases hi hm with
  | quiet hok =>
    subst hmove
    exact hok.1.elim
  | @inserted companyId userId dto year rfq db₁ q hcall hread hchecked hinsert hinserted =>
    obtain ⟨rfl, rfl⟩ := Move.commit.inj hmove
    have hok : (insertQuotation companyId userId dto year rfq s.db).isOk = true := by
      rw [hinsert]
      rfl
    simp only [Respects, hcall, hp, hok, forall_true_left] at hc
    exact ⟨hinserted.good h.db hread hchecked hc, trivial, hinserted.stands h.db _⟩
  | @changed id companyId userId nextStatus quotation hcall hnext =>
    obtain ⟨rfl, rfl⟩ := Move.commit.inj hmove
    have hmapped := mapped_changeStatus userId nextStatus quotation s.db
    refine ⟨hmapped.good h.db (awardedOnce_changeStatus hnext h.db.awards) h.db.closed, trivial, ?_⟩
    exact hmapped.stands fun _ _ _ _ => rfl
  | @awarded id companyId userId nextStatus quotation hcall hfor hheld =>
    obtain ⟨rfl, rfl⟩ := Move.commit.inj hmove
    simp only [Respects, hcall, hp] at hc
    refine ⟨good_award h.db hfor hc, trivial, ?_⟩
    refine (mapped_award companyId userId quotation s.db).stands fun k r hr hk => ?_
    -- Others do not hold the RFQ this request has locked.
    refine if_neg fun hid => hk ?_
    have hkey : r.id = k := Table.key_of_find? hr
    rw [← hkey, hid]
    exact hheld
  | @saved id companyId userId nextStatus first seen current entity row hcall hfind hheld hrow =>
    obtain ⟨rfl, rfl⟩ := Move.commit.inj hmove
    subst hrow
    simp only [Respects, hcall, hp] at hc
    refine ⟨good_save h.db hfind (hc current hfind), trivial, ?_⟩
    refine (mapped_save _ hfind).stands fun k r hr hk => ?_
    refine if_neg fun hid => hk ?_
    have hkey : r.id = k := Table.key_of_find? hr
    rw [← hkey, hid.1]
    exact hheld

theorem inv_step {l : ℕ × Label} (h : Inv call s)
    (hc : Respects call s l) (hs : (machine call).step s l = some s') : Inv call s' := by
  obtain ⟨i, l⟩ := l
  refine h.step hs (fun m hm => ?_) fun db' p hm j _ held hapart hj => ?_
  · cases m with
    | commit db' q =>
      obtain ⟨hgood, hfree, -⟩ := commit_ok h hc hm
      exact ⟨hgood, .of_free hfree⟩
    | _ =>
      have hi := h.phase i
      generalize s.phase i = p at hi hm
      cases protocol_cases hi hm with
      | quiet hok => exact hok
  · obtain ⟨-, -, hstands⟩ := commit_ok h hc hm
    refine hj.mono ⟨hstands.quotations, fun id r hr => ?_⟩
    obtain ⟨r', hr', hitems, hsame⟩ := hstands.rfqs id r hr
    exact ⟨r', hr', hitems, fun hid => hsame (hapart id hid)⟩

/-- Awards, the status of RFQs and prices are as claimed in a run of any creations and
changes of status, on any RFQs, exactly when every award finds an RFQ it may close, every save of
an RFQ finds a status its target may follow, and every quotation that is inserted names no item
twice. -/
theorem awarded_once_iff (call : ℕ → Call) {db : RfqDb} {ls : List (ℕ × Label)}
    {s : Shared RfqDb Uuid Phase} (hdb : Good db)
    (hrun : (machine call).Run (.start db .called) ls s) :
    (machine call).RunWith ((machine call).Steps Lawful) (.start db .called) ls s ↔
      (machine call).RunWith (Respects call) (.start db .called) ls s := by
  have hstart : Inv call (.start db .called) :=
    Shared.inv_start hdb fun i held => .of_free trivial
  refine Machine.steps_iff_runWith (I := Inv call) (fun s l s' h hc hs => ?_)
    (fun s l s' h hs hlawful => (lawful_iff_respects h hs).1 hlawful) hstart hrun
  exact ⟨inv_step h hc hs, (lawful_iff_respects h hs).2 hc⟩

end

/-! Two suppliers quote for two items, and both quotations are awarded. -/

namespace RfqDemo

def item (id : Uuid) : PurchaseRfqItem :=
  { id, productVariantId := 60 + id, quantity := 2, reasonSnapshot := "Spring stock"
    productNameSnapshot := "Linen shirt", skuSnapshot := "LS-1" }

def rfq : PurchaseRfq :=
  { id := 5, rfqNumber := "RFQ-2026-0001", companyId := 10, title := "Shirts"
    requiredDate := { date := ⟨2026, 3, 31⟩, millis := 0 }, status := .Sent
    invitedSupplierIds := [1, 2], items := [item 6, item 7] }

def supplier (id : Uuid) : Supplier :=
  { id, companyId := 10, supplierCode := "SUP", payableAccountId := none, status := .Active }

def db : RfqDb :=
  { base :=
      { master :=
          { companies := .ofRows [{ id := 10, status := .Active, baseCurrency := "USD" }]
            suppliers := .ofRows [supplier 1, supplier 2] } }
    rfqs := .ofRows [rfq]
    nextId := 100 }

def quote (supplierId : Uuid) (unitCost : Cents) : CreateSupplierQuotationDto :=
  { purchaseRfqId := 5, supplierId, currency := "USD"
    items := [{ purchaseRfqItemId := 6, unitCost }, { purchaseRfqItemId := 7, unitCost }] }

def calls : ℕ → Call
  | 0 => .create 10 8 (quote 1 1500) 2026
  | 1 => .create 10 8 (quote 2 1400) 2026
  | 2 => .quotation 100 10 8 .Awarded
  | _ => .quotation 101 10 8 .Awarded

def quoteTwice : List (ℕ × Label) :=
  [(0, .read), (0, .check), (0, .commit), (1, .read), (1, .check), (1, .commit)]

def inTurn : List (ℕ × Label) := quoteTwice ++ [(2, .read), (2, .lock), (2, .commit), (3, .read)]

def atOnce : List (ℕ × Label) :=
  quoteTwice ++ [(2, .read), (3, .read), (2, .lock), (2, .commit), (3, .lock), (3, .commit)]

def statuses (s : Shared RfqDb Uuid Phase) : List SupplierQuotationStatus :=
  s.db.quotations.rows.map (·.status)

theorem good_db : Good db where
  awards := ⟨fun _ h => (List.not_mem_nil h).elim, fun _ h => (List.not_mem_nil h).elim⟩
  prices _ h := (List.not_mem_nil h).elim
  fresh _ h := (List.not_mem_nil h).elim
  refs _ h := (List.not_mem_nil h).elim
  closed _ h := (List.not_mem_nil h).elim

end RfqDemo

open RfqDemo in
/-- One award after the other: the second is refused. -/
theorem awarded_once_iff_in_turn :
    ∃ s, statuses s = [.Awarded, .Rejected] ∧
      (machine calls).RunWith ((machine calls).Steps Lawful) (.start db .called) inTurn s := by
  obtain ⟨s, hrun, hs⟩ := Machine.exists_runWith (machine calls) (Respects calls)
    (.start db .called) inTurn (fun s => statuses s = [.Awarded, .Rejected]) (by decide +kernel)
  exact ⟨s, of_decide_eq_true hs, (awarded_once_iff calls good_db hrun.run).2 hrun⟩

open RfqDemo in
theorem awarded_twice :
    ∃ s, (machine calls).Run (.start db .called) atOnce s ∧ statuses s = [.Awarded, .Awarded] ∧
      ¬ (machine calls).RunWith ((machine calls).Steps Lawful) (.start db .called) atOnce s := by
  obtain ⟨s, hrun, hs⟩ := Machine.exists_runWith (machine calls) (fun _ _ => True)
    (.start db .called) atOnce
    (fun s => statuses s = [.Awarded, .Awarded] ∧ s.db.awards = [(5, 100), (5, 101)])
    (by decide +kernel)
  obtain ⟨hstatuses, hawards⟩ := of_decide_eq_true hs
  refine ⟨s, hrun, hstatuses, fun hlawful => ?_⟩
  have hlast : atOnce = atOnce.dropLast ++ [(3, .commit)] := rfl
  rw [hlast] at hlawful
  obtain ⟨s₁, -, hstep⟩ := hlawful.split
  cases hstep with
  | step hQ hs hrest =>
    cases hrest
    have hsame := (hQ _ hs).awards.once (5, 100) (by simp [hawards]) (5, 101) (by simp [hawards]) rfl
    cases hsame

end FashionErp.RfqRace
