/-
Sale returns made and cancelled side by side.

`create` locks each sale item before it counts what has been returned of it, but the sum
is a plain read: it counts what its snapshot shows, and the snapshot is as old as the
read of the sale the transaction begins with.
-/
import FashionErp.Sales.SaleReturns
import FashionErp.Lib.LineTx
import Mathlib.Algebra.Order.Group.Int

namespace FashionErp

open Lib Lib.Tx

/-- The rows of `sale_items`. -/
def saleItems (db : Db) : List SaleItem := db.selling.sales.rows.flatMap (·.items)

/-- The primary key of `sale_items`. -/
def SaleItemsKeyed (db : Db) : Prop := ((saleItems db).map (·.id)).Nodup

namespace SaleReturnRace

open SaleReturnsService

/-- The arguments of a `SaleReturnsService.create`, and the time it is called. -/
structure Call where
  companyId : Uuid
  userId : Uuid
  now : Instant
  dto : CreateSaleReturnDto

inductive Request
  | create (c : Call)
  | cancel (id companyId : Uuid)

inductive Lock
  | saleItem (id : Uuid)
  | saleReturn (id : Uuid)
  deriving DecidableEq

/-- `create` line by line. The sale item is read as it is committed, what was
returned of it as the snapshot shows it. -/
def createTx (c : Call) : LineTx Db Lock CreateSaleReturnItemDto SaleReturnItem Failure where
  start db := do
    let _sale ← value (findReturnableSale c.companyId c.dto.saleId) db
    return c.dto.sortedItems
  lock line := .saleItem line.saleItemId
  check snapshot db rows line := do
    let sale ← value (findReturnableSale c.companyId c.dto.saleId) snapshot
    let saleItem ← value (lockSaleItem sale.id line.saleItemId) db
    let remaining ←
      value (getRemainingReturnableQuantity saleItem.id saleItem.quantity) snapshot
    value (acceptLine saleItem remaining rows line) db
  finish snapshot rows db := do
    let sale ← value (findReturnableSale c.companyId c.dto.saleId) snapshot
    result (insertReturn c.companyId c.userId c.now sale c.dto rows) db

/-- `cancel`, whose reads are under the lock of the return. -/
def cancelTx (id companyId : Uuid) : LineTx Db Lock Unit Unit Failure :=
  .locking (.saleReturn id) (result (cancel id companyId))

inductive Phase
  | called
  | creating (p : LinePhase Db CreateSaleReturnItemDto SaleReturnItem Failure)
  | cancelling (p : LinePhase Db Unit Unit Failure)

def protocol (request : ℕ → Request) : Protocol Db Lock Phase LineLabel := fun i l p db =>
  match request i, p with
  | .create c, .called => (createTx c).move .creating l .called db
  | .create c, .creating p => (createTx c).move .creating l p db
  | .cancel id companyId, .called => (cancelTx id companyId).move .cancelling l .called db
  | .cancel id companyId, .cancelling p => (cancelTx id companyId).move .cancelling l p db
  | _, _ => none

def machine (request : ℕ → Request) : Machine (Shared Db Lock Phase) (ℕ × LineLabel) :=
  concurrent (protocol request)

/-! ## What is claimed -/

def NotOverReturned (db : Db) : Prop :=
  ∀ item ∈ saleItems db, returnedQuantity db item.id ≤ item.quantity

def soldQuantity (db : Db) (id : Uuid) : ℤ :=
  (((saleItems db).find? fun item => item.id = id).map (·.quantity)).getD 0

def returnable (db : Db) (id : Uuid) : ℤ := soldQuantity db id - returnedQuantity db id

def ExposedLinesFit (s : Shared Db Lock Phase) : ℕ × LineLabel → Prop
  | (i, .commit) =>
    match s.phase i with
    | .creating (.checking snapshot rows []) =>
      s.db.selling.saleReturns.find? s.db.sequences.nextId = none → ∀ l ∈ draws rows,
        Exposed (returnable snapshot) (returnable s.db) (draws rows) l.1 →
          net (draws rows) l.1 ≤ returnable s.db l.1
    | _ => True
  | _ => True

instance (s : Shared Db Lock Phase) (l : ℕ × LineLabel) : Decidable (ExposedLinesFit s l) := by
  obtain ⟨i, l⟩ := l
  cases l with
  | commit =>
    unfold ExposedLinesFit
    dsimp only
    split <;> infer_instance
  | _ => exact isTrue trivial

/-! ## The invariant -/

structure Sound (db : Db) : Prop where
  keyed : SaleItemsKeyed db
  within : NotOverReturned db
  nonneg : ∀ r ∈ db.selling.saleReturns.rows, ∀ i ∈ r.items, 0 ≤ i.quantity

/-- What is known of the rows in memory: the sale could be opened in the snapshot,
nobody has changed a sale since, and each row names a sale item and fits what could be
returned of it in the snapshot. -/
structure RowsOk (c : Call) (snapshot db : Db) (rows : List SaleReturnItem) : Prop where
  opened : ∃ sale, Commits (findReturnableSale c.companyId c.dto.saleId) snapshot sale snapshot
  sales : db.selling.sales = snapshot.selling.sales
  drawn : Drawn (fun _ => True) (returnable snapshot) (draws rows)
  named : ∀ l ∈ draws rows, ∃ item ∈ saleItems db, item.id = l.1
  nonneg : ∀ r ∈ rows, 0 ≤ r.quantity

def PhaseOk (request : ℕ → Request) (held : Lock → Prop) (db : Db) (i : ℕ) (p : Phase) : Prop :=
  match request i, p with
  | .create c, .creating p => LineOk (createTx c) (fun _ => RowsOk c) held db p
  | .cancel id companyId, .cancelling p =>
    LineOk (cancelTx id companyId) (fun _ _ _ _ => True) held db p
  | _, _ => True

theorem soldQuantity_eq {db : Db} (hkeys : SaleItemsKeyed db) {item : SaleItem}
    (hitem : item ∈ saleItems db) : soldQuantity db item.id = item.quantity := by
  have hfind := (Table.mem_rows_iff ⟨saleItems db, hkeys⟩ item).1 hitem
  change ((saleItems db).find? fun i => i.id = item.id) = some item at hfind
  rw [soldQuantity, hfind]
  rfl

theorem Sound.returnable {db : Db} (h : Sound db) {item : SaleItem} (hitem : item ∈ saleItems db) :
    returnable db item.id = item.quantity - returnedQuantity db item.id ∧
      0 ≤ returnable db item.id := by
  have heq : SaleReturnRace.returnable db item.id =
      item.quantity - returnedQuantity db item.id := by
    rw [SaleReturnRace.returnable, soldQuantity_eq h.keyed hitem]
  refine ⟨heq, ?_⟩
  have hle := h.within item hitem
  omega

/-! ## What the commits do -/

structure Returned (db db' : Db) (rows : List SaleReturnItem) : Prop where
  fresh : db.selling.saleReturns.find? db.sequences.nextId = none
  sales : db'.selling.sales = db.selling.sales
  returned : ∀ id, returnedQuantity db' id = returnedQuantity db id + net (draws rows) id
  items : ∀ r ∈ db'.selling.saleReturns.rows, r ∈ db.selling.saleReturns.rows ∨ r.items = rows

structure Cancelled (db db' : Db) : Prop where
  sales : db'.selling.sales = db.selling.sales
  returned : ∀ id, returnedQuantity db' id ≤ returnedQuantity db id
  items : ∀ r ∈ db'.selling.saleReturns.rows, ∃ r₀ ∈ db.selling.saleReturns.rows,
    r.items = r₀.items

variable {db' snapshot : Db} {rows : List SaleReturnItem} {held : Lock → Prop}
  {m : Move Db Lock Phase}

theorem finish_spec {c : Call} {db : Db} (h : (createTx c).finish snapshot rows db = .ok db') :
    Returned db db' rows := by
  obtain ⟨sale, -, hinsert⟩ := except_bind_eq_ok.1 h
  obtain ⟨saleReturn, hinsert⟩ := result_eq_ok.1 hinsert
  obtain ⟨hid, hnew, hdb, hstatus, hitems, -, -⟩ := insertReturn_spec hinsert
  have hreturns : db'.selling.saleReturns = db.selling.saleReturns.save saleReturn := by rw [hdb]
  refine
    { fresh := hid ▸ hnew, sales := by rw [hdb], returned := fun id => ?_,
      items := fun r hr => ?_ }
  · rw [returnedQuantity_insert hnew hstatus hreturns, hitems]
  · rw [hreturns, Table.mem_save] at hr
    rcases hr with rfl | ⟨hr, -⟩
    · exact .inr hitems
    · exact .inl hr

theorem finish_succeeds {c : Call} {db : Db} (h : RowsOk c snapshot db rows)
    (hnew : db.selling.saleReturns.find? db.sequences.nextId = none) :
    ∃ db', (createTx c).finish snapshot rows db = .ok db' := by
  obtain ⟨sale, hopen⟩ := h.opened
  obtain ⟨saleReturn, db', hinsert, -⟩ :=
    insertReturn_succeeds c.companyId c.userId c.now sale c.dto rows hnew
  exact ⟨db', except_bind_eq_ok.2
    ⟨sale, value_eq_ok.2 ⟨_, hopen⟩, result_eq_ok.2 ⟨saleReturn, hinsert⟩⟩⟩

theorem cancelled_of_cancel {id companyId : Uuid} {db : Db} (hdb : Sound db)
    (h : result (cancel id companyId) db = .ok db') : Cancelled db db' := by
  obtain ⟨saleReturn, hcancel⟩ := result_eq_ok.1 h
  obtain ⟨draft, hfind, hstatus, rfl, rfl⟩ := cancel_spec hcancel
  have hdraft := Table.mem_of_find? hfind
  refine { sales := rfl, returned := fun itemId => ?_, items := fun r hr => ?_ }
  · rw [returnedQuantity_cancel hfind hstatus rfl]
    have hcounts : 0 ≤ net (draws draft.items) itemId := net_nonneg (fun p hp => by
      obtain ⟨i, hi, rfl⟩ := List.mem_map.1 hp
      exact hdb.nonneg draft hdraft i hi) itemId
    omega
  · rcases (Table.mem_save _ _ _).1 hr with rfl | ⟨hr, -⟩
    · exact ⟨draft, hdraft, rfl⟩
    · exact ⟨r, hr, rfl⟩

/-! ## Steps -/

variable {request : ℕ → Request}

theorem RowsOk.check {c : Call} {db : Db} {rows' : List SaleReturnItem}
    {line : CreateSaleReturnItemDto} (hdb : Sound db) (h : RowsOk c snapshot db rows)
    (hcheck : (createTx c).check snapshot db rows line = .ok rows') :
    RowsOk c snapshot db rows' := by
  obtain ⟨sale, -, hcheck⟩ := except_bind_eq_ok.1 hcheck
  obtain ⟨saleItem, hlock, hcheck⟩ := except_bind_eq_ok.1 hcheck
  obtain ⟨remaining, hremaining, haccept⟩ := except_bind_eq_ok.1 hcheck
  obtain ⟨_, hlock⟩ := value_eq_ok.1 hlock
  obtain ⟨_, hremaining⟩ := value_eq_ok.1 hremaining
  obtain ⟨_, haccept⟩ := value_eq_ok.1 haccept
  obtain ⟨-, row, rfl, hid, -, -, hnonneg, hfits, -, -⟩ := acceptLine_spec haccept
  obtain ⟨-, -, sale', hfind, hitem⟩ := lockSaleItem_spec hlock
  have hmem : saleItem ∈ saleItems db :=
    List.mem_flatMap.2 ⟨sale', Table.mem_of_find? hfind, hitem⟩
  have hsold : soldQuantity snapshot saleItem.id = saleItem.quantity := by
    rw [soldQuantity, saleItems, ← h.sales]
    exact soldQuantity_eq hdb.keyed hmem
  have hdraws : draws (rows ++ [row]) = draws rows ++ [(saleItem.id, row.quantity)] := by
    rw [draws, List.map_append, List.map_singleton, hid]
    rfl
  simp only [getRemainingReturnableQuantity, commits_bind, commits_get, commits_pure] at hremaining
  obtain ⟨_, _, ⟨rfl, rfl⟩, rfl, -⟩ := hremaining
  refine
    { opened := h.opened, sales := h.sales, drawn := ?_, named := fun l hl => ?_,
      nonneg := fun r hr => ?_ }
  · rw [hdraws]
    refine h.drawn.append trivial ?_
    rw [returnable, hsold]
    exact hfits
  · rw [hdraws] at hl
    rcases List.mem_append.1 hl with hl | hl
    · exact h.named l hl
    · obtain rfl := List.mem_singleton.1 hl
      exact ⟨saleItem, hmem, rfl⟩
  · rcases List.mem_append.1 hr with hr | hr
    · exact h.nonneg r hr
    · rwa [List.mem_singleton.1 hr]

theorem RowsOk.of_sales {c : Call} {db : Db} (h : RowsOk c snapshot db rows)
    (hsales : db'.selling.sales = db.selling.sales) : RowsOk c snapshot db' rows :=
  { h with
    sales := hsales.trans h.sales
    named := by
      rw [saleItems, hsales]
      exact h.named }

inductive MoveCase (request : ℕ → Request) (held : Lock → Prop) (db : Db) (i : ℕ) :
    LineLabel → Phase → Move Db Lock Phase → Prop
  | quiet {l p m} (hok : Shared.MoveOk (fun _ => False) (PhaseOk request) held db i m) :
    MoveCase request held db i l p m
  | inserted {c snapshot rows db'} (hrows : RowsOk c snapshot db rows)
      (hreturned : Returned db db' rows) :
    MoveCase request held db i .commit (.creating (.checking snapshot rows []))
      (.commit db' (.creating .returned))
  | cancelled {p db'} (hcancelled : Cancelled db db') :
    MoveCase request held db i .commit (.cancelling p) (.commit db' (.cancelling .returned))

variable {l : LineLabel} {i : ℕ}

theorem createMove_cases {db : Db} {c : Call}
    {p : LinePhase Db CreateSaleReturnItemDto SaleReturnItem Failure} (hdb : Sound db)
    (hrequest : request i = .create c) (h : LineOk (createTx c) (fun _ => RowsOk c) held db p)
    (hm : (createTx c).move .creating l p db = some m) :
    Shared.MoveOk (fun _ => False) (PhaseOk request) held db i m ∨
      ∃ snapshot rows db', p = .checking snapshot rows [] ∧ l = .commit ∧
        RowsOk c snapshot db rows ∧ Returned db db' rows ∧
          m = .commit db' (.creating .returned) := by
  refine (LineOk.move h hm (fun held q hq => ?_) (fun todo htodo => ?_) (fun _ _ _ hrows => hrows)
    (fun _ _ _ _ _ _ _ _ hrows hcheck => hrows.check hdb hcheck)).imp_right ?_
  · simp only [PhaseOk, hrequest]
    exact hq
  · obtain ⟨sale, hopen, -⟩ := except_bind_eq_ok.1 htodo
    obtain ⟨db', hopen⟩ := value_eq_ok.1 hopen
    obtain ⟨rfl, -⟩ := findReturnableSale_spec hopen
    exact { opened := ⟨sale, hopen⟩, sales := rfl, drawn := nofun, named := nofun, nonneg := nofun }
  · rintro ⟨snapshot, rows, db', rfl, rfl, hfinish, rfl⟩
    exact ⟨snapshot, rows, db', rfl, rfl, h, finish_spec hfinish, rfl⟩

theorem cancelMove_cases {db : Db} {id companyId : Uuid}
    {p : LinePhase Db Unit Unit Failure} (hdb : Sound db)
    (hrequest : request i = .cancel id companyId)
    (h : LineOk (cancelTx id companyId) (fun _ _ _ _ => True) held db p)
    (hm : (cancelTx id companyId).move .cancelling l p db = some m) :
    Shared.MoveOk (fun _ => False) (PhaseOk request) held db i m ∨
      ∃ db', l = .commit ∧ Cancelled db db' ∧ m = .commit db' (.cancelling .returned) := by
  refine (LineOk.move h hm (fun held q hq => ?_) (fun _ _ => trivial) (fun _ _ _ _ => trivial)
    (fun _ _ _ _ _ _ _ _ _ _ => trivial)).imp_right ?_
  · simp only [PhaseOk, hrequest]
    exact hq
  · rintro ⟨snapshot, rows, db', rfl, rfl, hfinish, rfl⟩
    exact ⟨db', rfl, cancelled_of_cancel hdb hfinish, rfl⟩

theorem protocol_cases {db : Db} {p : Phase} (hdb : Sound db)
    (h : PhaseOk request held db i p) (hm : protocol request i l p db = some m) :
    MoveCase request held db i l p m := by
  unfold protocol at hm
  split at hm
  case h_1 c hrequest =>
    rcases createMove_cases (p := .called) hdb hrequest trivial hm with hok | ⟨_, _, _, hp, -⟩
    · exact .quiet hok
    · cases hp
  case h_2 c p hrequest =>
    simp only [PhaseOk, hrequest] at h
    rcases createMove_cases hdb hrequest h hm with
      hok | ⟨snapshot, rows, db', rfl, rfl, hrows, hreturned, rfl⟩
    · exact .quiet hok
    · exact .inserted hrows hreturned
  case h_3 id companyId hrequest =>
    rcases cancelMove_cases (p := .called) hdb hrequest trivial hm with
      hok | ⟨db', rfl, -, rfl⟩
    · exact .quiet hok
    · cases hm
  case h_4 id companyId p hrequest =>
    simp only [PhaseOk, hrequest] at h
    rcases cancelMove_cases hdb hrequest h hm with hok | ⟨db', rfl, hcancelled, rfl⟩
    · exact .quiet hok
    · exact .cancelled hcancelled
  case h_5 => cases hm

/-- A return leaves the database sound exactly if its exposed lines fit. -/
theorem notOverReturned_iff {held : Uuid → Prop} {db : Db} (hdb : Sound db)
    (hdrawn : Drawn held (returnable snapshot) (draws rows))
    (hnamed : ∀ l ∈ draws rows, ∃ item ∈ saleItems db, item.id = l.1) (h : Returned db db' rows) :
    NotOverReturned db' ↔
      ∀ l ∈ draws rows, Exposed (returnable snapshot) (returnable db) (draws rows) l.1 →
        net (draws rows) l.1 ≤ returnable db l.1 := by
  have hitems : saleItems db' = saleItems db := by rw [saleItems, h.sales, saleItems]
  constructor
  · intro hwithin l hl _
    obtain ⟨item, hitem, hid⟩ := hnamed l hl
    have hle := hwithin item (by rw [hitems]; exact hitem)
    rw [h.returned] at hle
    rw [← hid, (hdb.returnable hitem).1]
    omega
  · intro hfit item hitem
    rw [hitems] at hitem
    have hle := hdrawn.net_le_of_exposed hfit (hdb.returnable hitem).2
    rw [(hdb.returnable hitem).1] at hle
    rw [h.returned]
    omega

theorem Cancelled.sound {db : Db} (h : Cancelled db db') (hdb : Sound db) : Sound db' where
  keyed := by
    rw [SaleItemsKeyed, saleItems, h.sales]
    exact hdb.keyed
  within item hitem := by
    rw [saleItems, h.sales] at hitem
    exact (h.returned item.id).trans (hdb.within item hitem)
  nonneg r hr i hi := by
    obtain ⟨r₀, hr₀, hitems⟩ := h.items r hr
    rw [hitems] at hi
    exact hdb.nonneg r₀ hr₀ i hi

theorem commit_of_checked {db : Db} (hnew : db.selling.saleReturns.find? db.sequences.nextId = none)
    (h : PhaseOk request held db i (.creating (.checking snapshot rows [])))
    (hm : protocol request i .commit (.creating (.checking snapshot rows [])) db = some m) :
    ∃ db', m = .commit db' (.creating .returned) := by
  cases hrequest : request i with
  | create c =>
    simp only [PhaseOk, hrequest] at h
    simp only [protocol, hrequest] at hm
    obtain ⟨db', hfinish⟩ := finish_succeeds h hnew
    exact ⟨db', Option.some.inj (hm.symm.trans (LineTx.move_commit hfinish))⟩
  | cancel id companyId =>
    simp only [protocol, hrequest] at hm
    cases hm

theorem notOverReturned_iff_exposedLinesFit {s s' : Shared Db Lock Phase} {l : ℕ × LineLabel}
    (h : s.Inv Sound (PhaseOk request)) (hs : (machine request).step s l = some s') :
    NotOverReturned s'.db ↔ ExposedLinesFit s l := by
  obtain ⟨i, l⟩ := l
  obtain ⟨m, hm, hmove⟩ := Shared.step_move hs
  have hi := h.phase i
  generalize hp : s.phase i = p at hi hm
  cases protocol_cases h.db hi hm with
  | quiet hok =>
    refine iff_of_true (by rw [hok.db_eq hmove]; exact h.db.within) ?_
    unfold ExposedLinesFit
    split
    · rename_i heq
      obtain ⟨rfl, rfl⟩ := Prod.mk.inj heq
      rw [hp]
      split
      · -- Only an id that is taken keeps a checked return from being inserted.
        intro hnew
        obtain ⟨db', rfl⟩ := commit_of_checked hnew hi hm
        exact hok.1.elim
      · trivial
    · trivial
  | inserted hrows hreturned =>
    cases hmove
    rw [notOverReturned_iff h.db hrows.drawn hrows.named hreturned]
    simp only [ExposedLinesFit, hp]
    exact ⟨fun hfit _ => hfit, fun hfit => hfit hreturned.fresh⟩
  | cancelled hcancelled =>
    cases hmove
    refine iff_of_true (hcancelled.sound h.db).within ?_
    simp only [ExposedLinesFit, hp]

theorem PhaseOk.of_sales {db : Db} {j : ℕ} {p : Phase} (hp : PhaseOk request held db j p)
    (hsales : db'.selling.sales = db.selling.sales) : PhaseOk request held db' j p := by
  unfold PhaseOk at hp ⊢
  split at hp
  · exact hp.mono fun _ _ hrows => hrows.of_sales hsales
  · exact hp.mono fun _ _ hrows => hrows
  · trivial

theorem inv_step {s s' : Shared Db Lock Phase} {l : ℕ × LineLabel}
    (h : s.Inv Sound (PhaseOk request)) (hs : (machine request).step s l = some s')
    (hwithin : NotOverReturned s'.db) : s'.Inv Sound (PhaseOk request) := by
  obtain ⟨i, l⟩ := l
  have hi := h.phase i
  generalize hp : s.phase i = p at hi
  have hdone : ∀ db, PhaseOk request (fun _ => False) db i (.creating .returned) ∧
      PhaseOk request (fun _ => False) db i (.cancelling .returned) := by
    intro db
    unfold PhaseOk
    cases request i <;> exact ⟨trivial, trivial⟩
  refine h.step hs (fun m hm => ?_) fun db' q hm j _ held hapart hj => ?_
  · obtain ⟨m', hm', hmove⟩ := Option.bind_eq_some_iff.1 hs
    obtain rfl := Option.some.inj (hm.symm.trans hm')
    rw [hp] at hm
    cases protocol_cases h.db hi hm with
    | quiet hok =>
      cases m with
      | commit db' q => exact hok.1.elim
      | _ => exact hok
    | inserted hrows hreturned =>
      cases hmove
      refine ⟨{ keyed := ?_, within := hwithin, nonneg := fun r hr i hi => ?_ }, (hdone _).1⟩
      · rw [SaleItemsKeyed, saleItems, hreturned.sales]
        exact h.db.keyed
      · rcases hreturned.items r hr with hr | hitems
        · exact h.db.nonneg r hr i hi
        · exact hrows.nonneg i (hitems ▸ hi)
    | cancelled hcancelled => exact ⟨hcancelled.sound h.db, (hdone _).2⟩
  · rw [hp] at hm
    cases protocol_cases h.db hi hm with
    | quiet hok => exact hok.1.elim
    | inserted _ hreturned => exact hj.of_sales hreturned.sales
    | cancelled hcancelled => exact hj.of_sales hcancelled.sales

/-! ## Runs -/

/-- Returned within what was sold. Any number of returns may be made and cancelled
side by side, each with any list of lines. No sale item is returned beyond its quantity in
any state of a run exactly when, for each return that is inserted, its lines on an item
fit what can still be returned of it wherever two of them name the item or others have
returned of it since the return's first read. -/
theorem not_over_returned_iff (request : ℕ → Request) {db : Db} (hdb : Sound db)
    {ls : List (ℕ × LineLabel)} {s : Shared Db Lock Phase}
    (hrun : (machine request).Run (.start db .called) ls s) :
    (∀ ks, ks <+: ls → ∀ s₁, (machine request).Run (.start db .called) ks s₁ →
        NotOverReturned s₁.db) ↔
      (machine request).RunWith ExposedLinesFit (.start db .called) ls s := by
  have hstart : (Shared.start db .called : Shared Db Lock Phase).Inv Sound (PhaseOk request) := by
    refine Shared.inv_start hdb fun i held => ?_
    unfold PhaseOk
    split <;> trivial
  refine Machine.prefixes_iff_runWith (fun s l s' h hc hs => ?_) (fun _ h => h.db.within)
    (fun _ _ _ h hs hwithin => (notOverReturned_iff_exposedLinesFit h hs).1 hwithin) hstart hrun
  exact inv_step h hs ((notOverReturned_iff_exposedLinesFit h hs).2 hc)

/-! A sale of ten pieces: returned, the return cancelled and made again, and returned by
two requests at once. -/

namespace ReturnDemo

def sale : Sale :=
  { id := 70, companyId := 10, customerId := 30, branchId := none, warehouseId := some 20,
    status := .Confirmed, grandTotal := 10000, paidAmount := 10000, balanceAmount := 0,
    currency := "MMK", fulfillmentStatus := none, shippedAt := none, deliveredAt := none,
    updatedBy := none
    items := [{ id := 71, productVariantId := 7, quantity := 10,
                baseQuantitySnapshot := some 10, unitPriceSnapshot := 1000 }] }

def db : Db where
  selling := { sales := .ofRows [sale] }

def giveBack (quantity : ℕ) : Call where
  companyId := 10
  userId := 99
  now := { date := ⟨2026, 3, 1⟩, millis := 0 }
  dto :=
    { saleId := 70, reason := none, notes := none
      items := [{ saleItemId := 71, quantity := quantity, discountAmount := none,
                  condition := none }] }

def requests (i : ℕ) : Request := if i = 0 then .cancel 0 10 else .create (giveBack 10)

def make (i : ℕ) : List (ℕ × LineLabel) := [(i, .start), (i, .lock), (i, .check), (i, .commit)]

theorem sound : Sound db where
  keyed := by
    unfold SaleItemsKeyed
    decide
  within := by
    unfold NotOverReturned
    decide
  nonneg r hr := absurd hr List.not_mem_nil

end ReturnDemo

open ReturnDemo in
theorem not_over_returned_iff_cancelled :
    ∃ s, (machine requests).Run (.start db .called) (make 1 ++ make 0 ++ make 2) s ∧
      returnedQuantity s.db 71 = 10 ∧ NotOverReturned s.db := by
  obtain ⟨s, hrun, hs⟩ := Machine.exists_runWith (machine requests) ExposedLinesFit
    (.start db .called) (make 1 ++ make 0 ++ make 2)
    (fun s => returnedQuantity s.db 71 = 10) (by decide +kernel)
  exact ⟨s, hrun.run, of_decide_eq_true hs,
    (not_over_returned_iff requests sound hrun.run).2 hrun _ (List.prefix_refl _) s hrun.run⟩

open ReturnDemo in
theorem waiting_request_over_returns :
    ∃ s, (machine requests).Run (.start db .called)
        [(1, .start), (2, .start), (1, .lock), (1, .check), (1, .commit), (2, .lock),
          (2, .check), (2, .commit)] s ∧
      returnedQuantity s.db 71 = 20 ∧ ¬ NotOverReturned s.db := by
  obtain ⟨s, hrun, hs⟩ := Machine.exists_runWith (machine requests) (fun _ _ => True)
    (.start db .called)
    [(1, .start), (2, .start), (1, .lock), (1, .check), (1, .commit), (2, .lock),
      (2, .check), (2, .commit)]
    (fun s => returnedQuantity s.db 71 = 20 &&
      (saleItems s.db).any fun item => item.id = 71 && item.quantity = 10)
    (by decide +kernel)
  simp only [Bool.and_eq_true, List.any_eq_true, decide_eq_true_eq] at hs
  obtain ⟨hreturned, item, hitem, hid, hquantity⟩ := hs
  refine ⟨s, hrun, hreturned, fun hwithin => ?_⟩
  have hle := hwithin item hitem
  rw [hid, hquantity, hreturned] at hle
  omega

end SaleReturnRace

end FashionErp
