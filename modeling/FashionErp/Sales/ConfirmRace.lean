/-
Concurrent `confirm` and `cancel` requests on one draft sale.

Each request reads the sale outside any transaction, checks the status it read, and
writes the whole entity back at the end.
-/
import FashionErp.Lib.Machine
import FashionErp.Sales.Sales

namespace FashionErp

open Lib Lib.Tx

namespace ConfirmRace

inductive Request
  | confirm (userId : Uuid)
  | cancel (userId : Uuid)

def Request.isConfirm : Request → Bool
  | .confirm _ => true
  | .cancel _ => false

structure Work where
  rows : JsMap Uuid WarehouseStock
  movements : List StockMovement

def Work.none : Work := ⟨∅, []⟩

inductive Phase
  | idle
  | locking (sale : Sale) (warehouseId : Uuid) (todo : List Uuid)
      (rows : JsMap Uuid WarehouseStock)
  /-- All lines passed the stock check; the lines still to deduct. -/
  | issuing (sale : Sale) (warehouseId : Uuid) (todo : List SaleItem) (work : Work)
  | changed (entity : Sale) (work : Work)
  /-- `save` has read the row again. -/
  | saving (entity seen : Sale) (work : Work)
  | updated (entity seen row : Sale) (work : Work)
  | committed
  | rejected

def Phase.isCommitted : Phase → Bool
  | .committed => true
  | _ => false

/-- The committed database, who holds which row, and every request. -/
structure State where
  db : Db
  stockLock : StockKey → Option ℕ
  saleLock : Option ℕ
  phase : ℕ → Phase

def State.setPhase (s : State) (i : ℕ) (p : Phase) : State :=
  { s with phase := Function.update s.phase i p }

def State.finish (s : State) (i : ℕ) (p : Phase) : State where
  db := s.db
  stockLock k := if s.stockLock k = some i then none else s.stockLock k
  saleLock := if s.saleLock = some i then none else s.saleLock
  phase := Function.update s.phase i p

/-- One step of request `i`. -/
inductive Label
  | read (i : ℕ)
  /-- `lockWarehouseStockRow` of the next variant. -/
  | lock (i : ℕ)
  /-- The sufficiency loop. -/
  | check (i : ℕ)
  | deduct (i : ℕ)
  | change (i : ℕ)
  /-- The read of `save`. -/
  | reread (i : ℕ)
  | update (i : ℕ)
  | commit (i : ℕ)
  /-- Any failure before the commit. -/
  | abort (i : ℕ)

variable (saleId companyId : Uuid) (request : ℕ → Request)

def readStep (s : State) (i : ℕ) : Option State :=
  match s.phase i with
  | .idle =>
    match (run (SalesService.findByIdInCompany saleId companyId) s.db).1 with
    | .error _ => some (s.finish i .rejected)
    | .ok sale =>
      match request i with
      | .confirm _ =>
        match (run (SalesService.confirmGuard sale) s.db).1 with
        | .error _ => some (s.finish i .rejected)
        | .ok warehouseId =>
          some (s.setPhase i (.locking sale warehouseId
            ((SalesService.sortedItems sale).map (·.productVariantId)) ∅))
      | .cancel userId =>
        match (run (SalesService.assertTransitionAllowed sale.status .Cancelled) s.db).1 with
        | .error _ => some (s.finish i .rejected)
        | .ok _ => some (s.setPhase i (.changed (SalesService.markCancelled userId sale) .none))
  | _ => none

def lockStep (s : State) (i : ℕ) : Option State :=
  match s.phase i with
  | .locking sale warehouseId (v :: todo) rows =>
    if v ∈ rows then
      some (s.setPhase i (.locking sale warehouseId todo rows))
    else
      match s.stockLock (stockKey warehouseId v) with
      | some _ => none
      | none =>
        let row := (s.db.stock.warehouseStock.find? (stockKey warehouseId v)).getD
          { warehouseId := warehouseId, productVariantId := v, onHandQuantity := 0,
            reservedQuantity := 0 }
        some { s.setPhase i (.locking sale warehouseId todo (rows.insert v row)) with
          stockLock := Function.update s.stockLock (stockKey warehouseId v) (some i) }
  | _ => none

def checkStep (s : State) (i : ℕ) : Option State :=
  match s.phase i with
  | .locking sale warehouseId [] rows =>
    match (run ((SalesService.sortedItems sale).forM (SalesService.assertSufficient rows)) s.db).1 with
    | .error _ => some (s.finish i .rejected)
    | .ok _ =>
      some (s.setPhase i (.issuing sale warehouseId (SalesService.sortedItems sale) ⟨rows, []⟩))
  | _ => none

def deductStep (s : State) (i : ℕ) : Option State :=
  match s.phase i, request i with
  | .issuing sale warehouseId (item :: todo) work, .confirm userId =>
    (work.rows.lookup item.productVariantId).map fun stock =>
      let newQuantity := stock.onHandQuantity - SalesService.baseQuantity item
      s.setPhase i (.issuing sale warehouseId todo
        { rows := work.rows.insert item.productVariantId { stock with onHandQuantity := newQuantity }
          movements := work.movements ++
            [SalesService.issueMovement userId sale.id warehouseId item newQuantity] })
  | _, _ => none

def changeStep (s : State) (i : ℕ) : Option State :=
  match s.phase i, request i with
  | .issuing sale _ [] work, .confirm userId =>
    some (s.setPhase i (.changed (SalesService.markConfirmed userId sale) work))
  | _, _ => none

/-- The read `save` makes of the latest committed row. -/
def rereadStep (s : State) (i : ℕ) : Option State :=
  match s.phase i with
  | .changed entity work =>
    (s.db.selling.sales.find? saleId).map fun seen => s.setPhase i (.saving entity seen work)
  | _ => none

/-- The update of `save`: not enabled while another request holds the sale row. -/
def updateStep (s : State) (i : ℕ) : Option State :=
  match s.phase i, s.saleLock with
  | .saving entity seen work, none =>
    (s.db.selling.sales.find? saleId).map fun row =>
      { s.setPhase i (.updated entity seen (entity.merge seen row) work) with saleLock := some i }
  | _, _ => none

def publishWork (db : Db) (work : Work) : Db :=
  (db.setStocks (work.rows.entries.foldl (fun stocks e => stocks.save e.2)
    db.stock.warehouseStock)).addMovements work.movements

/-- What the commit of request `i` makes visible. -/
def publish (db : Db) (row : Sale) (work : Work) : Request → Db
  | .cancel _ => { db with selling := { db.selling with sales := db.selling.sales.save row } }
  | .confirm userId =>
    let db := publishWork db work
    let db := { db with selling := { db.selling with sales := db.selling.sales.save row } }
    (run (LoyaltyService.earnForSale row.companyId row.customerId row.id row.grandTotal userId)
      db).2

def commitStep (s : State) (i : ℕ) : Option State :=
  match s.phase i with
  | .updated _ _ row work =>
    some ({ s with db := publish s.db row work (request i) }.finish i .committed)
  | _ => none

def abortStep (s : State) (i : ℕ) : Option State :=
  match s.phase i with
  | .idle | .committed | .rejected => none
  | _ => some (s.finish i .rejected)

/-- Confirm and cancel requests on one sale, in any order of their steps. -/
def machine : Machine State Label where
  step s
    | .read i => readStep saleId companyId request s i
    | .lock i => lockStep s i
    | .check i => checkStep s i
    | .deduct i => deductStep request s i
    | .change i => changeStep request s i
    | .reread i => rereadStep saleId s i
    | .update i => updateStep saleId s i
    | .commit i => commitStep request s i
    | .abort i => abortStep s i

/-! ## What one step can do -/

def EntityOk (entity : Sale) : Request → Prop
  | .confirm _ => entity.status = .Confirmed
  | .cancel _ => entity.status = .Cancelled

def Early (r : Request) : Phase → Prop
  | .idle | .locking .. | .issuing .. | .rejected => True
  | .changed entity _ => EntityOk entity r
  | .saving .. | .updated .. | .committed => False

/-- The four kinds of step. A quiet step leaves the committed database alone
and only moves its request between early phases, perhaps giving its locks back;
the other three are the steps of `save` and the commit. -/
inductive StepCase (s s' : State) : Label → Prop
  | quiet {l : Label} (i : ℕ) (p : Phase) (hdb : s'.db = s.db)
      (hphase : s'.phase = Function.update s.phase i p) (hbefore : (s.phase i).isCommitted = false)
      (hearly : Early (request i) p)
      (hlock : ∀ j, j ≠ i → (s.saleLock = some j → s'.saleLock = some j)) : StepCase s s' l
  | reread (i : ℕ) (entity seen : Sale) (work : Work) (hbefore : s.phase i = .changed entity work)
      (hseen : s.db.selling.sales.find? saleId = some seen)
      (hs' : s' = s.setPhase i (.saving entity seen work)) : StepCase s s' (.reread i)
  | update (i : ℕ) (entity seen row : Sale) (work : Work)
      (hbefore : s.phase i = .saving entity seen work) (hfree : s.saleLock = none)
      (hrow : s.db.selling.sales.find? saleId = some row)
      (hs' : s' = { s.setPhase i (.updated entity seen (entity.merge seen row) work) with
        saleLock := some i }) : StepCase s s' (.update i)
  | commit (i : ℕ) (entity seen row : Sale) (work : Work)
      (hbefore : s.phase i = .updated entity seen row work)
      (hs' : s' = { s with db := publish s.db row work (request i) }.finish i .committed) :
      StepCase s s' (.commit i)

variable {saleId companyId request}

variable {s s' : State} {l : Label} {i : ℕ} {p : Phase} {r : Request} {current : Sale} {db₀ : Db}

theorem StepCase.of_setPhase (hbefore : (s.phase i).isCommitted = false)
    (hearly : Early (request i) p) : StepCase saleId request s (s.setPhase i p) l :=
  .quiet i p rfl rfl hbefore hearly fun _ _ h => h

theorem StepCase.of_finish (hbefore : (s.phase i).isCommitted = false) :
    StepCase saleId request s (s.finish i .rejected) l := by
  refine .quiet i .rejected rfl rfl hbefore trivial fun j hj hlock => ?_
  show (if s.saleLock = some i then none else s.saleLock) = some j
  rw [hlock, if_neg]
  rintro ⟨⟩
  exact hj rfl

theorem readStep_cases (h : readStep saleId companyId request s i = some s') :
    StepCase saleId request s s' l := by
  unfold readStep at h
  split at h
  · rename_i hidle
    have hbefore : (s.phase i).isCommitted = false := by rw [hidle]; rfl
    split at h
    · cases h
      exact .of_finish hbefore
    · split at h
      · split at h
        · cases h
          exact .of_finish hbefore
        · cases h
          exact .of_setPhase hbefore trivial
      · rename_i hrequest
        split at h
        · cases h
          exact .of_finish hbefore
        · cases h
          refine .of_setPhase hbefore ?_
          rw [hrequest]
          rfl
  · cases h

theorem lockStep_cases (h : lockStep s i = some s') : StepCase saleId request s s' l := by
  unfold lockStep at h
  split at h
  · rename_i hlocking
    have hbefore : (s.phase i).isCommitted = false := by rw [hlocking]; rfl
    split at h
    · cases h
      exact .of_setPhase hbefore trivial
    · split at h
      · cases h
      · cases h
        exact .quiet i _ rfl rfl hbefore trivial fun _ _ hlock => hlock
  · cases h

theorem checkStep_cases (h : checkStep s i = some s') : StepCase saleId request s s' l := by
  unfold checkStep at h
  split at h
  · rename_i hlocking
    have hbefore : (s.phase i).isCommitted = false := by rw [hlocking]; rfl
    split at h
    · cases h
      exact .of_finish hbefore
    · cases h
      exact .of_setPhase hbefore trivial
  · cases h

theorem deductStep_cases (h : deductStep request s i = some s') :
    StepCase saleId request s s' l := by
  unfold deductStep at h
  split at h
  · rename_i hissuing _
    have hbefore : (s.phase i).isCommitted = false := by rw [hissuing]; rfl
    obtain ⟨stock, -, rfl⟩ := Option.map_eq_some_iff.1 h
    exact .of_setPhase hbefore trivial
  · cases h

theorem changeStep_cases (h : changeStep request s i = some s') :
    StepCase saleId request s s' l := by
  unfold changeStep at h
  split at h
  · rename_i hissuing hrequest
    have hbefore : (s.phase i).isCommitted = false := by rw [hissuing]; rfl
    cases h
    refine .of_setPhase hbefore ?_
    rw [hrequest]
    rfl
  · cases h

theorem abortStep_cases (h : abortStep s i = some s') : StepCase saleId request s s' l := by
  unfold abortStep at h
  split at h
  · cases h
  · cases h
  · cases h
  · rename_i hcommitted _
    cases h
    refine .of_finish ?_
    cases hphase : s.phase i with
    | committed => exact absurd hphase hcommitted
    | _ => rfl

theorem commitStep_spec (h : commitStep request s i = some s') :
    ∃ entity seen row work, s.phase i = .updated entity seen row work ∧
      s' = { s with db := publish s.db row work (request i) }.finish i .committed := by
  unfold commitStep at h
  split at h
  · rename_i entity seen row work hupdated
    exact ⟨entity, seen, row, work, hupdated, (Option.some.inj h).symm⟩
  · cases h

theorem step_cases (h : (machine saleId companyId request).step s l = some s') :
    StepCase saleId request s s' l := by
  cases l with
  | read i => exact readStep_cases h
  | lock i => exact lockStep_cases h
  | check i => exact checkStep_cases h
  | deduct i => exact deductStep_cases h
  | change i => exact changeStep_cases h
  | abort i => exact abortStep_cases h
  | reread i =>
    change rereadStep saleId s i = some s' at h
    unfold rereadStep at h
    split at h
    · rename_i entity work hchanged
      obtain ⟨seen, hseen, rfl⟩ := Option.map_eq_some_iff.1 h
      exact .reread i entity seen work hchanged hseen rfl
    · cases h
  | update i =>
    change updateStep saleId s i = some s' at h
    unfold updateStep at h
    split at h
    · rename_i entity seen work hsaving hfree
      obtain ⟨row, hrow, rfl⟩ := Option.map_eq_some_iff.1 h
      exact .update i entity seen row work hsaving hfree hrow rfl
    · cases h
  | commit i =>
    obtain ⟨entity, seen, row, work, hupdated, hs'⟩ := commitStep_spec h
    exact .commit i entity seen row work hupdated hs'

/-! ## What a commit publishes -/

theorem publish_sales (db : Db) (row : Sale) (work : Work) (r : Request) :
    (publish db row work r).selling.sales = db.selling.sales.save row := by
  cases r with
  | cancel userId => rfl
  | confirm userId =>
    obtain ⟨_, hloyal⟩ := (LoyaltyService.earnForSale_succeeds row.companyId row.customerId row.id
      row.grandTotal userId { publishWork db work with
        selling := { db.selling with sales := db.selling.sales.save row } }).run
    have hsales := congrArg (fun db' : Db => db'.selling.sales) hloyal
    exact hsales

theorem publish_stock_of_cancel (db : Db) (row : Sale) (work : Work) (hr : r.isConfirm = false) :
    (publish db row work r).stock = db.stock := by
  cases r with
  | cancel userId => rfl
  | confirm userId => cases hr

/-! ## Runs -/

variable (saleId request)

/-- Request `i` is a confirmation and its deductions and movements are committed. -/
def ConfirmCommitted (s : State) (i : ℕ) : Prop :=
  (s.phase i).isCommitted = true ∧ (request i).isConfirm = true

/-- Stock leaves at most once: no two confirmations have committed, and while
the sale is `CANCELLED` none has and no stock table has changed. -/
def StockLeavesOnce (db₀ : Db) (s : State) : Prop :=
  (∀ i j, ConfirmCommitted request s i → ConfirmCommitted request s j → i = j) ∧
    ∀ sale, s.db.selling.sales.find? saleId = some sale → sale.status = .Cancelled →
      (∀ i, ¬ ConfirmCommitted request s i) ∧ s.db.stock = db₀.stock

/-- The step does not commit a save over a `CONFIRMED` sale, unless it is the
save of a cancellation that read the sale as `CANCELLED` and so leaves the status
column alone. -/
def NoOverwrite (s : State) : Label → Prop
  | .commit i =>
    match s.phase i, s.db.selling.sales.find? saleId with
    | .updated _ seen _ _, some current =>
      current.status = .Confirmed → (request i).isConfirm = false ∧ seen.status = .Cancelled
    | _, _ => True
  | _ => True

instance (s : State) (l : Label) : Decidable (NoOverwrite saleId request s l) := by
  unfold NoOverwrite
  split
  · split <;> infer_instance
  · infer_instance

variable {saleId request}

/-- What the committed row `current` and the row lock say about request `i`. -/
def PhaseOk (lock : Option ℕ) (current : Sale) (r : Request) (i : ℕ) : Phase → Prop
  | .changed entity _ => EntityOk entity r
  | .saving entity seen _ =>
    EntityOk entity r ∧ (seen.status = .Confirmed → current.status = .Confirmed)
  | .updated entity seen row _ =>
    EntityOk entity r ∧ (seen.status = .Confirmed → current.status = .Confirmed) ∧
      lock = some i ∧ row = entity.merge seen current
  | _ => True

theorem PhaseOk.mono {lock lock' : Option ℕ} {current' : Sale} (h : PhaseOk lock current r i p)
    (hconfirmed : current.status = .Confirmed → current'.status = .Confirmed)
    (hlock : lock = some i → lock' = some i ∧ current' = current) :
    PhaseOk lock' current' r i p := by
  cases p with
  | changed entity work => exact h
  | saving entity seen work => exact ⟨h.1, fun hseen => hconfirmed (h.2 hseen)⟩
  | updated entity seen row work =>
    obtain ⟨hentity, hseen, hheld, hrow⟩ := h
    obtain ⟨hheld', rfl⟩ := hlock hheld
    exact ⟨hentity, hseen, hheld', hrow⟩
  | _ => trivial

theorem PhaseOk.of_early {lock : Option ℕ} (h : Early r p) : PhaseOk lock current r i p := by
  cases p with
  | changed entity work => exact h
  | saving entity seen work => exact h.elim
  | updated entity seen row work => exact h.elim
  | _ => trivial

theorem Early.not_committed (h : Early r p) : p.isCommitted = false := by
  cases p with
  | committed => exact h.elim
  | _ => rfl

/-- What holds of every state of a run that meets `NoOverwrite`, the committed
sale being `current`. -/
structure Inv (saleId : Uuid) (request : ℕ → Request) (db₀ : Db) (current : Sale)
    (s : State) : Prop where
  found : s.db.selling.sales.find? saleId = some current
  phases : ∀ i, PhaseOk s.saleLock current (request i) i (s.phase i)
  confirmed : ∀ i, ConfirmCommitted request s i → current.status = .Confirmed
  once : ∀ i j, ConfirmCommitted request s i → ConfirmCommitted request s j → i = j
  source : current.status = .Confirmed → ∃ i, ConfirmCommitted request s i
  untouched : (∀ i, ¬ ConfirmCommitted request s i) → s.db.stock = db₀.stock

theorem Inv.stockLeavesOnce (h : Inv saleId request db₀ current s) :
    StockLeavesOnce saleId request db₀ s := by
  refine ⟨h.once, fun sale hsale hcancelled => ?_⟩
  obtain rfl : current = sale := Option.some.inj (h.found.symm.trans hsale)
  have hnone : ∀ i, ¬ ConfirmCommitted request s i := by
    intro i hi
    have hconfirmed := h.confirmed i hi
    rw [hcancelled] at hconfirmed
    cases hconfirmed
  exact ⟨hnone, h.untouched hnone⟩

variable (request) in
theorem confirmCommitted_iff (hphase : s'.phase = Function.update s.phase i p)
    (hp : p.isCommitted = (s.phase i).isCommitted) (j : ℕ) :
    ConfirmCommitted request s' j ↔ ConfirmCommitted request s j := by
  unfold ConfirmCommitted
  rw [hphase]
  by_cases hj : j = i
  · subst hj
    rw [Function.update_self, hp]
  · rw [Function.update_of_ne hj]

theorem Inv.of_same_db (h : Inv saleId request db₀ current s) (hdb : s'.db = s.db)
    (hphase : s'.phase = Function.update s.phase i p) (hp : p.isCommitted = (s.phase i).isCommitted)
    (hok : PhaseOk s'.saleLock current (request i) i p)
    (hlock : ∀ j, j ≠ i → s.saleLock = some j → s'.saleLock = some j) :
    Inv saleId request db₀ current s' := by
  have hcommitted := confirmCommitted_iff request hphase hp
  refine ⟨by rw [hdb]; exact h.found, ?_, ?_, ?_, ?_, ?_⟩
  · rw [hphase]
    exact forall_update hok fun j hj =>
      (h.phases j).mono id fun hheld => ⟨hlock j hj hheld, rfl⟩
  · intro j hj
    exact h.confirmed j ((hcommitted j).1 hj)
  · intro j k hj hk
    exact h.once j k ((hcommitted j).1 hj) ((hcommitted k).1 hk)
  · intro hconfirmed
    obtain ⟨j, hj⟩ := h.source hconfirmed
    exact ⟨j, (hcommitted j).2 hj⟩
  · intro hnone
    rw [hdb]
    exact h.untouched fun j hj => hnone j ((hcommitted j).2 hj)

theorem merge_status_confirmed {entity seen : Sale} (hentity : EntityOk entity r)
    (hseen : seen.status = .Confirmed → current.status = .Confirmed)
    (hclean : current.status = .Confirmed → r.isConfirm = false ∧ seen.status = .Cancelled) :
    (current.status = .Confirmed → (entity.merge seen current).status = .Confirmed) ∧
      (r.isConfirm = true → current.status ≠ .Confirmed ∧
        (entity.merge seen current).status = .Confirmed) ∧
      (r.isConfirm = false → (entity.merge seen current).status = .Confirmed →
        current.status = .Confirmed) := by
  refine ⟨?_, ?_, ?_⟩
  · intro hcurrent
    obtain ⟨hcancel, hseen'⟩ := hclean hcurrent
    cases r with
    | confirm userId => cases hcancel
    | cancel userId =>
      have hsame : entity.status = seen.status := Eq.trans hentity hseen'.symm
      exact (mergeCol_of_eq hsame _).trans hcurrent
  · intro hconfirm
    have hcurrent : current.status ≠ .Confirmed := by
      intro hcurrent
      rw [(hclean hcurrent).1] at hconfirm
      cases hconfirm
    cases r with
    | cancel userId => cases hconfirm
    | confirm userId =>
      have hne : entity.status ≠ seen.status := by
        intro heq
        exact hcurrent (hseen (heq.symm.trans hentity))
      exact ⟨hcurrent, (mergeCol_of_ne hne _).trans hentity⟩
  · intro hcancel hmerged
    cases r with
    | confirm userId => cases hcancel
    | cancel userId =>
      rcases mergeCol_cases entity.status seen.status current.status with h | h
      · have hcancelled : SaleStatus.Confirmed = .Cancelled := hmerged.symm.trans (h.trans hentity)
        cases hcancelled
      · exact h.symm.trans hmerged

variable (request) in
theorem confirmCommitted_commit (db : Db) (hbefore : (s.phase i).isCommitted = false) (j : ℕ) :
    ConfirmCommitted request ({ s with db := db }.finish i .committed) j ↔
      j = i ∧ (request i).isConfirm = true ∨ ConfirmCommitted request s j := by
  show (Function.update s.phase i .committed j).isCommitted = true ∧ _ ↔ _
  by_cases hj : j = i
  · subst hj
    rw [Function.update_self, ConfirmCommitted, hbefore]
    simp [Phase.isCommitted]
  · rw [Function.update_of_ne hj, ConfirmCommitted]
    simp [hj]

/-- A commit that meets `NoOverwrite` keeps the invariant. -/
theorem Inv.commit {entity seen row : Sale} {work : Work} (h : Inv saleId request db₀ current s)
    (hbefore : s.phase i = .updated entity seen row work)
    (hclean : current.status = .Confirmed → (request i).isConfirm = false ∧ seen.status = .Cancelled) :
    Inv saleId request db₀ row
      ({ s with db := publish s.db row work (request i) }.finish i .committed) := by
  have hi := h.phases i
  rw [hbefore] at hi
  obtain ⟨hentity, hseen, hheld, rfl⟩ := hi
  obtain ⟨hstays, hconfirms, hcancels⟩ := merge_status_confirmed hentity hseen hclean
  have hcommitted := confirmCommitted_commit request
    (publish s.db (entity.merge seen current) work (request i)) (by rw [hbefore]; rfl)
  refine ⟨?_, ?_, ?_, ?_, ?_, ?_⟩
  · show (publish s.db (entity.merge seen current) work (request i)).selling.sales.find? saleId = _
    have hid : key current = saleId := Table.key_of_find? h.found
    rw [publish_sales, ← hid]
    exact Table.find?_save_self _ (entity.merge seen current)
  · refine forall_update trivial fun j hj => (h.phases j).mono hstays fun hheld' => ?_
    exact absurd (Option.some.inj (hheld'.symm.trans hheld)) hj
  · intro j hj
    rcases (hcommitted j).1 hj with ⟨-, hconfirm⟩ | hj
    · exact (hconfirms hconfirm).2
    · exact hstays (h.confirmed j hj)
  · intro j k hj hk
    rcases (hcommitted j).1 hj with ⟨rfl, hconfirm⟩ | hj'
    · rcases (hcommitted k).1 hk with ⟨rfl, -⟩ | hk'
      · rfl
      · exact absurd (h.confirmed k hk') (hconfirms hconfirm).1
    · rcases (hcommitted k).1 hk with ⟨rfl, hconfirm⟩ | hk'
      · exact absurd (h.confirmed j hj') (hconfirms hconfirm).1
      · exact h.once j k hj' hk'
  · intro hmerged
    cases hr : (request i).isConfirm with
    | true => exact ⟨i, (hcommitted i).2 (.inl ⟨rfl, hr⟩)⟩
    | false =>
      obtain ⟨j, hj⟩ := h.source (hcancels hr hmerged)
      exact ⟨j, (hcommitted j).2 (.inr hj)⟩
  · intro hnone
    have hcancel : (request i).isConfirm = false := by
      by_contra hconfirm
      exact hnone i ((hcommitted i).2 (.inl ⟨rfl, by simpa using hconfirm⟩))
    show (publish s.db (entity.merge seen current) work (request i)).stock = db₀.stock
    rw [publish_stock_of_cancel _ _ _ hcancel]
    exact h.untouched fun j hj => hnone j ((hcommitted j).2 (.inr hj))

theorem Inv.step (h : Inv saleId request db₀ current s) (hclean : NoOverwrite saleId request s l)
    (hs : (machine saleId companyId request).step s l = some s') :
    ∃ current', Inv saleId request db₀ current' s' := by
  cases step_cases hs with
  | quiet i p hdb hphase hbefore hearly hlock =>
    exact ⟨current, h.of_same_db hdb hphase (by rw [hbefore, hearly.not_committed])
      (.of_early hearly) hlock⟩
  | reread i entity seen work hbefore hseen hs' =>
    subst hs'
    have hi := h.phases i
    rw [hbefore] at hi
    obtain rfl : current = seen := Option.some.inj (h.found.symm.trans hseen)
    exact ⟨current, h.of_same_db rfl rfl (by rw [hbefore]; rfl) ⟨hi, id⟩ fun _ _ hheld => hheld⟩
  | update i entity seen row work hbefore hfree hrow hs' =>
    subst hs'
    have hi := h.phases i
    rw [hbefore] at hi
    obtain rfl : current = row := Option.some.inj (h.found.symm.trans hrow)
    refine ⟨current, h.of_same_db rfl rfl (by rw [hbefore]; rfl) ⟨hi.1, hi.2, rfl, rfl⟩ ?_⟩
    intro j _ hheld
    rw [hfree] at hheld
    cases hheld
  | commit i entity seen row work hbefore hs' =>
    subst hs'
    refine ⟨row, h.commit hbefore ?_⟩
    simpa only [NoOverwrite, hbefore, h.found] using hclean

/-- The condition is exact. A step after which stock has still left at most
once meets `NoOverwrite`. -/
theorem Inv.noOverwrite (h : Inv saleId request db₀ current s)
    (hs : (machine saleId companyId request).step s l = some s')
    (honce : StockLeavesOnce saleId request db₀ s') : NoOverwrite saleId request s l := by
  cases l with
  | commit i =>
    obtain ⟨entity, seen, row, work, hbefore, rfl⟩ := commitStep_spec hs
    simp only [NoOverwrite, hbefore, h.found]
    intro hcurrent
    obtain ⟨j, hj⟩ := h.source hcurrent
    have hcommitted := confirmCommitted_commit request
      (publish s.db row work (request i)) (by rw [hbefore]; rfl)
    have hj' := (hcommitted j).2 (.inr hj)
    have hcancel : (request i).isConfirm = false := by
      by_contra hconfirm
      have hi := (hcommitted i).2 (.inl ⟨rfl, by simpa using hconfirm⟩)
      obtain rfl := honce.1 i j hi hj'
      -- Request `i` was still saving, so it was not the one committed before.
      rw [ConfirmCommitted, hbefore] at hj
      cases hj.1
    refine ⟨hcancel, ?_⟩
    by_contra hne
    have hi := h.phases i
    rw [hbefore] at hi
    obtain ⟨hentity, -, -, rfl⟩ := hi
    have hstatus : (entity.merge seen current).status = .Cancelled := by
      cases hr : request i with
      | confirm userId =>
        rw [hr] at hcancel
        cases hcancel
      | cancel userId =>
        rw [hr] at hentity
        have hchanged : entity.status ≠ seen.status := fun heq => hne (heq.symm.trans hentity)
        exact (mergeCol_of_ne hchanged _).trans hentity
    refine (honce.2 (entity.merge seen current) ?_ hstatus).1 j hj'
    show (publish s.db (entity.merge seen current) work (request i)).selling.sales.find? saleId = _
    have hid : key current = saleId := Table.key_of_find? h.found
    rw [publish_sales, ← hid]
    exact Table.find?_save_self _ (entity.merge seen current)
  | _ => trivial

def start (db : Db) : State where
  db := db
  stockLock _ := none
  saleLock := none
  phase _ := .idle

theorem inv_start {db : Db} {sale : Sale} (hsale : db.selling.sales.find? saleId = some sale)
    (hdraft : sale.status = .Draft) : Inv saleId request db sale (start db) := by
  have hnone : ∀ i, ¬ ConfirmCommitted request (start db) i := fun i hi => by cases hi.1
  refine ⟨hsale, fun _ => trivial, fun i hi => absurd hi (hnone i),
    fun i _ hi => absurd hi (hnone i), fun hconfirmed => ?_, fun _ => rfl⟩
  rw [hdraft] at hconfirmed
  cases hconfirmed

/-- When the stock of a draft sale leaves at most once. Along a run of confirm
and cancel requests it does so in every state exactly when no step commits a save
over the confirmed sale. -/
theorem stock_leaves_once_iff {db : Db} {sale : Sale}
    (hsale : db.selling.sales.find? saleId = some sale) (hdraft : sale.status = .Draft)
    {ls : List Label} {s : State}
    (hrun : (machine saleId companyId request).Run (start db) ls s) :
    (∀ ks, ks <+: ls → ∀ s₁, (machine saleId companyId request).Run (start db) ks s₁ →
      StockLeavesOnce saleId request db s₁) ↔
    (machine saleId companyId request).RunWith (NoOverwrite saleId request) (start db) ls s :=
  Machine.prefixes_iff_runWith (I := fun s => ∃ current, Inv saleId request db current s)
    (fun _ _ _ ⟨_, h⟩ hclean hs => h.step hclean hs) (fun _ ⟨_, h⟩ => h.stockLeavesOnce)
    (fun _ _ _ ⟨_, h⟩ hs honce => h.noOverwrite hs honce) ⟨sale, inv_start hsale hdraft⟩ hrun

/-! Two units of a variant on a draft sale, five on the shelf. -/

def draftSale : Sale :=
  { id := 100, companyId := 10, customerId := 20, branchId := some 2, warehouseId := some 1,
    status := .Draft, grandTotal := 6000, paidAmount := 0, balanceAmount := 6000,
    currency := "MMK", fulfillmentStatus := none, shippedAt := none, deliveredAt := none,
    updatedBy := none,
    items := [{ id := 101, productVariantId := 7, quantity := 2, baseQuantitySnapshot := some 2 }] }

def shelfStock : WarehouseStock :=
  { warehouseId := 1, productVariantId := 7, onHandQuantity := 5, reservedQuantity := 0 }

def shelfDb : Db where
  stock := { warehouseStock := .ofRows [shelfStock] }
  selling := { sales := .ofRows [draftSale] }

/-- Request `0` confirms, the others do what `second` says. -/
def confirmThen (second : Request) (i : ℕ) : Request :=
  if i = 0 then .confirm 98 else second

def confirmLabels (i : ℕ) : List Label :=
  [.lock i, .check i, .deduct i, .change i, .reread i, .update i, .commit i]

theorem stock_leaves_once_iff_shelf :
    ∃ s, (machine 100 10 (confirmThen (.cancel 99))).RunWith
        (NoOverwrite 100 (confirmThen (.cancel 99))) (start shelfDb)
        (.read 0 :: confirmLabels 0 ++ [.read 1]) s ∧
      StockLeavesOnce 100 (confirmThen (.cancel 99)) shelfDb s := by
  obtain ⟨s, hrun, -⟩ := Machine.exists_runWith (machine 100 10 (confirmThen (.cancel 99)))
    (NoOverwrite 100 (confirmThen (.cancel 99))) (start shelfDb)
    (.read 0 :: confirmLabels 0 ++ [.read 1]) (fun _ => true) (by decide +kernel)
  have hsale : shelfDb.selling.sales.find? 100 = some draftSale := by decide +kernel
  refine ⟨s, hrun, ?_⟩
  exact (stock_leaves_once_iff hsale rfl hrun.run).2 hrun _ (List.prefix_refl _) s hrun.run

/-- Two requests read the draft sale before either saves: two confirmations both
issue its stock, and a cancellation turns a sale whose stock has left `CANCELLED`. -/
theorem confirm_race_issues_twice :
    (∃ s, (machine 100 10 (confirmThen (.confirm 99))).Run (start shelfDb)
        (.read 0 :: .read 1 :: confirmLabels 0 ++ confirmLabels 1) s ∧
      onHandIn s.db.stock.warehouseStock (stockKey 1 7) = 1 ∧
      ¬ StockLeavesOnce 100 (confirmThen (.confirm 99)) shelfDb s) ∧
    ∃ s, (machine 100 10 (confirmThen (.cancel 99))).Run (start shelfDb)
        (.read 0 :: .read 1 :: confirmLabels 0 ++ [.reread 1, .update 1, .commit 1]) s ∧
      onHandIn s.db.stock.warehouseStock (stockKey 1 7) = 3 ∧
      ¬ StockLeavesOnce 100 (confirmThen (.cancel 99)) shelfDb s := by
  constructor
  · obtain ⟨s, hrun, hs⟩ := Machine.exists_runWith (machine 100 10 (confirmThen (.confirm 99)))
      (fun _ _ => True) (start shelfDb)
      (.read 0 :: .read 1 :: confirmLabels 0 ++ confirmLabels 1)
      (fun s => onHandIn s.db.stock.warehouseStock (stockKey 1 7) = 1 &&
        (s.phase 0).isCommitted && (s.phase 1).isCommitted)
      (by decide +kernel)
    simp only [Bool.and_eq_true, decide_eq_true_eq] at hs
    obtain ⟨⟨hstock, h0⟩, h1⟩ := hs
    refine ⟨s, hrun, hstock, fun honce => ?_⟩
    exact absurd (honce.1 0 1 ⟨h0, rfl⟩ ⟨h1, rfl⟩) (by decide)
  · obtain ⟨s, hrun, hs⟩ := Machine.exists_runWith (machine 100 10 (confirmThen (.cancel 99)))
      (fun _ _ => True) (start shelfDb)
      (.read 0 :: .read 1 :: confirmLabels 0 ++ [.reread 1, .update 1, .commit 1])
      (fun s => onHandIn s.db.stock.warehouseStock (stockKey 1 7) = 3 &&
        (s.phase 0).isCommitted &&
        (s.db.selling.sales.find? 100).any fun sale => sale.status = .Cancelled)
      (by decide +kernel)
    simp only [Bool.and_eq_true, decide_eq_true_eq, Option.any_eq_true] at hs
    obtain ⟨⟨hstock, h0⟩, sale, hsale, hcancelled⟩ := hs
    exact ⟨s, hrun, hstock, fun honce => (honce.2 sale hsale hcancelled).1 0 ⟨h0, rfl⟩⟩

end ConfirmRace

end FashionErp
