/-
The calls that change the status of a purchase order, beside each other and beside goods
receipts.

A call reads the order without a lock, makes its checks on what it has read (`cancel` and
`close` read the receipts then), and saves the whole entity, which takes the row lock only
for the update.
-/
import FashionErp.Inventory.ReceiptRace
import FashionErp.Lib.Column
import FashionErp.Lib.SaveEntity
import FashionErp.Purchase.PurchaseOrders

namespace FashionErp.OrderRace

open Lib Lib.Tx PurchaseOrdersService PurchaseInvoicesService

/-- A call of one of the six, or of `GoodsReceiptsService.create`. -/
inductive Call
  | change (t : Transition) (id companyId userId : Uuid) (now : Instant)
  | receive (c : ReceiptRace.Call)

inductive Lock
  | purchaseOrder (id : Uuid)
  | orderItem (id : Uuid)
  deriving DecidableEq

/-- `save`: the row with the columns in which the entity differs from what was read. -/
def mergeOrder (entity seen row : PurchaseOrder) : PurchaseOrder where
  id := row.id
  purchaseOrderNumber :=
    mergeCol entity.purchaseOrderNumber seen.purchaseOrderNumber row.purchaseOrderNumber
  supplierId := mergeCol entity.supplierId seen.supplierId row.supplierId
  companyId := mergeCol entity.companyId seen.companyId row.companyId
  branchId := mergeCol entity.branchId seen.branchId row.branchId
  warehouseId := mergeCol entity.warehouseId seen.warehouseId row.warehouseId
  status := mergeCol entity.status seen.status row.status
  grandTotal := mergeCol entity.grandTotal seen.grandTotal row.grandTotal
  paidAmount := mergeCol entity.paidAmount seen.paidAmount row.paidAmount
  balanceAmount := mergeCol entity.balanceAmount seen.balanceAmount row.balanceAmount
  currency := mergeCol entity.currency seen.currency row.currency
  updatedBy := mergeCol entity.updatedBy seen.updatedBy row.updatedBy
  submittedAt := mergeCol entity.submittedAt seen.submittedAt row.submittedAt
  submittedBy := mergeCol entity.submittedBy seen.submittedBy row.submittedBy
  approvedAt := mergeCol entity.approvedAt seen.approvedAt row.approvedAt
  approvedBy := mergeCol entity.approvedBy seen.approvedBy row.approvedBy
  rejectedAt := mergeCol entity.rejectedAt seen.rejectedAt row.rejectedAt
  rejectedBy := mergeCol entity.rejectedBy seen.rejectedBy row.rejectedBy
  rejectedReason := mergeCol entity.rejectedReason seen.rejectedReason row.rejectedReason
  closedAt := mergeCol entity.closedAt seen.closedAt row.closedAt
  closedBy := mergeCol entity.closedBy seen.closedBy row.closedBy
  closeReason := mergeCol entity.closeReason seen.closeReason row.closeReason
  items := row.items

def orderRow (id : Uuid) : RowAccess Db PurchaseOrder where
  find db := db.buying.purchaseOrders.find? id
  put row db := { db with buying := { db.buying with
    purchaseOrders := db.buying.purchaseOrders.save row } }
  merge := mergeOrder

def receiveTx (c : ReceiptRace.Call) :
    LineTx Db Lock GoodsReceiptsService.CreateGoodsReceiptItemDto GoodsReceiptItem Failure :=
  (ReceiptRace.receiptTx c).mapLock .orderItem

inductive Phase
  | called
  | read (order : PurchaseOrder)
  | saving (p : SavePhase PurchaseOrder)
  | receiving (p : ReceiptRace.Phase)
  | returned
  | rejected (error : Failure)
  /-- The connection is lost. -/
  | aborted

inductive Label
  | read
  | check
  | save (l : SaveLabel)
  | receive (l : LineLabel)
  | abort

def changeMove (t : Transition) (id companyId userId : Uuid) (now : Instant) :
    Label → Phase → Db → Option (Move Db Lock Phase)
  | .read, .called, db =>
    match value (findByIdInCompany id companyId) db with
    | .ok order => some (.goto (.read order))
    | .error error => some (.leave (.rejected error))
  | .check, .read order, db =>
    match value (t.check companyId order) db with
    | .ok _ => some (.goto (.saving (.changed (t.mark userId now order))))
    | .error error => some (.leave (.rejected error))
  | .save l, .saving p, db =>
    (orderRow id).saveMove (.purchaseOrder id) .saving .returned l p db
  | .abort, .read _, _ => some (.leave .aborted)
  | .abort, .saving _, _ => some (.leave .aborted)
  | _, _, _ => none

def protocol (call : ℕ → Call) : Protocol Db Lock Phase Label := fun i l p db =>
  match call i, l, p with
  | .change t id companyId userId now, l, p => changeMove t id companyId userId now l p db
  | .receive c, .receive l, .called => (receiveTx c).move .receiving l .called db
  | .receive c, .receive l, .receiving p => (receiveTx c).move .receiving l p db
  | _, _, _ => none

def machine (call : ℕ → Call) : Machine (Shared Db Lock Phase) (ℕ × Label) :=
  concurrent (protocol call)

/-! ## What is claimed -/

/-- Every status that is another one afterwards may follow the one before. -/
def AlongEdges (db db' : Db) : Prop :=
  ∀ id o o', db.buying.purchaseOrders.find? id = some o →
    db'.buying.purchaseOrders.find? id = some o' →
      o'.status ≠ o.status → o'.status ∈ ALLOWED_TRANSITIONS o.status

def NoGoods (db : Db) : Prop :=
  ∀ r ∈ db.stock.goodsReceipts, ∀ o, db.buying.purchaseOrders.find? r.purchaseOrderId = some o →
    o.status ≠ .Cancelled ∧ o.status ≠ .Rejected

def Lawful (s s' : Shared Db Lock Phase) : Prop := AlongEdges s.db s'.db ∧ NoGoods s'.db

def Current (t : Transition) (seen row : PurchaseOrder) : Prop :=
  seen.status = t.target ∨ row.status = t.target ∨ t.target ∈ ALLOWED_TRANSITIONS row.status

instance (t : Transition) (seen row : PurchaseOrder) : Decidable (Current t seen row) :=
  inferInstanceAs (Decidable (_ ∨ _))

/-- The check of a call still passes on the row its save writes over. -/
def Respects (call : ℕ → Call) (s : Shared Db Lock Phase) : ℕ × Label → Prop
  | (i, .save .commit) =>
    match call i, s.phase i with
    | .change t id .., .saving (.updated _ seen _) =>
      ∀ row ∈ s.db.buying.purchaseOrders.find? id, Current t seen row
    | _, _ => True
  | _ => True

instance (call : ℕ → Call) (s : Shared Db Lock Phase) (l : ℕ × Label) :
    Decidable (Respects call s l) := by
  unfold Respects
  split
  · split <;> infer_instance
  · infer_instance

/-! ## The invariant -/

def ReceivedReleased (db : Db) : Prop :=
  ∀ r ∈ db.stock.goodsReceipts, ∀ o, db.buying.purchaseOrders.find? r.purchaseOrderId = some o →
    isReleasedPurchaseOrder o.status = true

theorem ReceivedReleased.noGoods {db : Db} (h : ReceivedReleased db) : NoGoods db := by
  intro r hr o ho
  have hreleased := h r hr o ho
  constructor
  · intro hstatus
    rw [hstatus] at hreleased
    cases hreleased
  · intro hstatus
    rw [hstatus] at hreleased
    cases hreleased

theorem released_of_edge {status status' : PurchaseOrderStatus}
    (h : isReleasedPurchaseOrder status = true) (hedge : status' ∈ ALLOWED_TRANSITIONS status) :
    isReleasedPurchaseOrder status' = true := by
  cases status <;> cases status' <;> revert h hedge <;> decide

def Open (db : Db) (orderId : Uuid) : Prop :=
  ∀ o, db.buying.purchaseOrders.find? orderId = some o → isReleasedPurchaseOrder o.status = true

def PhaseOk (call : ℕ → Call) (held : Lock → Prop) (db : Db) (i : ℕ) (p : Phase) : Prop :=
  match call i, p with
  | .change _ id .., .read _ => (db.buying.purchaseOrders.find? id).isSome
  | .change t id _ userId now, .saving p =>
    SaveOk (orderRow id) (.purchaseOrder id) (fun _ _ => True) (t.mark userId now) held db p
  | .receive c, .receiving p =>
    LineOk (receiveTx c) (fun _ _ db _ => Open db c.dto.purchaseOrderId) held db p
  | _, _ => True

/-! ## What the commits do -/

/-- What becomes of the orders across a commit that meets the condition: each was
there before, with the same status or one that its status may follow. -/
def Follows (db db' : Db) : Prop :=
  ∀ id o', db'.buying.purchaseOrders.find? id = some o' →
    ∃ o, db.buying.purchaseOrders.find? id = some o ∧
      (o'.status = o.status ∨ o'.status ∈ ALLOWED_TRANSITIONS o.status)

variable {db' : Db} {held : Lock → Prop}

theorem Follows.alongEdges {db : Db} (h : Follows db db') : AlongEdges db db' := by
  intro id o o' ho ho' hne
  obtain ⟨o₁, ho₁, hstatus⟩ := h id o' ho'
  obtain rfl := Option.some.inj (ho.symm.trans ho₁)
  exact hstatus.resolve_left hne

theorem Follows.open {db : Db} (h : Follows db db') {id : Uuid} (hopen : Open db id) :
    Open db' id := by
  intro o' ho'
  obtain ⟨o, ho, hstatus⟩ := h id o' ho'
  have hreleased := hopen o ho
  rcases hstatus with hsame | hedge
  · rw [hsame]
    exact hreleased
  · exact released_of_edge hreleased hedge

theorem Follows.of_same {db : Db} (h : db'.buying = db.buying) : Follows db db' := by
  intro id o' ho'
  rw [h] at ho'
  exact ⟨o', ho', .inl rfl⟩

section

variable {id : Uuid} {db : Db} {current : PurchaseOrder}

theorem find_put (entity seen : PurchaseOrder)
    (hfind : db.buying.purchaseOrders.find? id = some current) (j : Uuid) :
    ((orderRow id).put (mergeOrder entity seen current) db).buying.purchaseOrders.find? j =
      if id = j then some (mergeOrder entity seen current)
      else db.buying.purchaseOrders.find? j := by
  have hid : current.id = id := Table.key_of_find? hfind
  have hkey : key (mergeOrder entity seen current) = id := hid
  show (db.buying.purchaseOrders.save (mergeOrder entity seen current)).find? j = _
  rw [Table.find?_save, hkey]

variable {first seen : PurchaseOrder} {now : Instant} {userId : Uuid} {t : Transition}

theorem merge_status {row : PurchaseOrder} :
    (mergeOrder (t.mark userId now first) seen row).status =
      if seen.status = t.target then row.status else t.target := by
  show mergeCol (t.mark userId now first).status seen.status row.status = _
  rw [Transition.mark_status, mergeCol]
  by_cases h : seen.status = t.target
  · rw [if_pos h, if_pos h.symm]
  · rw [if_neg h, if_neg fun e => h e.symm]

/-- A save whose check still passes follows the table. -/
theorem Current.follows (h : Current t seen current)
    (hfind : db.buying.purchaseOrders.find? id = some current) :
    Follows db ((orderRow id).put (mergeOrder (t.mark userId now first) seen current) db) := by
  intro j o' ho'
  rw [find_put _ _ hfind] at ho'
  split at ho'
  · rename_i hj
    cases ho'
    refine ⟨current, hj ▸ hfind, ?_⟩
    rw [merge_status]
    rcases h with hseen | hsame | hedge
    · rw [if_pos hseen]
      exact .inl rfl
    · rw [hsame, ite_self]
      exact .inl rfl
    · split
      · exact .inl rfl
      · exact .inr hedge
  · exact ⟨o', ho', .inl rfl⟩

theorem current_of_alongEdges (hfind : db.buying.purchaseOrders.find? id = some current)
    (h : AlongEdges db ((orderRow id).put (mergeOrder (t.mark userId now first) seen current) db)) :
    Current t seen current := by
  have hrow := h id current _ hfind (by rw [find_put _ _ hfind, if_pos rfl])
  rw [merge_status] at hrow
  by_cases hseen : seen.status = t.target
  · exact .inl hseen
  · rw [if_neg hseen] at hrow
    by_cases hsame : current.status = t.target
    · exact .inr (.inl hsame)
    · exact .inr (.inr (hrow fun e => hsame e.symm))

structure Received (orderId : Uuid) (db db' : Db) : Prop where
  buying : db'.buying = db.buying
  receipts : ∀ r ∈ db'.stock.goodsReceipts,
    r ∈ db.stock.goodsReceipts ∨ r.purchaseOrderId = orderId

theorem received_of_finish {c : ReceiptRace.Call} {snapshot db : Db} {rows : List GoodsReceiptItem}
    (h : (receiveTx c).finish snapshot rows db = .ok db') :
    Received c.dto.purchaseOrderId db db' := by
  obtain ⟨order, -, hsave⟩ := except_bind_eq_ok.1 h
  obtain ⟨receipt, hsave⟩ := result_eq_ok.1 hsave
  obtain ⟨hbuying, hreceipts, -, horder⟩ :=
    (ReceiptRace.saveReceipt_succeeds c order rows db).of_commits hsave
  refine ⟨hbuying, fun r hr => ?_⟩
  rw [hreceipts] at hr
  rcases List.mem_append.1 hr with hr | hr
  · exact .inl hr
  · obtain rfl := List.mem_singleton.1 hr
    exact .inr horder

theorem Received.receivedReleased {orderId : Uuid} (h : Received orderId db db')
    (hopen : Open db orderId) (hdb : ReceivedReleased db) : ReceivedReleased db' := by
  intro r hr o ho
  rw [h.buying] at ho
  rcases h.receipts r hr with hold | horder
  · exact hdb r hold o ho
  · rw [horder] at ho
    exact hopen o ho

theorem open_of_openOrder {companyId : Uuid} {dto : GoodsReceiptsService.CreateGoodsReceiptDto}
    {order : PurchaseOrder} {db : Db}
    (h : Commits (ReceiptRace.openOrder companyId dto) db order db') :
    Open db dto.purchaseOrderId := by
  simp only [ReceiptRace.openOrder, WarehousesService.findById, assertWarehouseUsable,
    commits_bind, commits_get, commits_orReject, commits_rejectIf, commits_pure, not_or] at h
  obtain ⟨warehouse, _, ⟨_, _, ⟨rfl, rfl⟩, -, rfl⟩, _, _, ⟨_, _, ⟨-, rfl⟩, -, rfl⟩, _, _,
    ⟨rfl, rfl⟩, found, _, ⟨hfind, rfl⟩, _, _, ⟨⟨hdraft, hsubmitted⟩, rfl⟩, _, _,
    ⟨⟨hcancelled, hrejected, -⟩, rfl⟩, -⟩ := h
  intro o ho
  obtain rfl := Option.some.inj (ho.symm.trans (Option.filter_eq_some_iff.1 hfind).1)
  cases hstatus : o.status with
  | Draft => exact absurd hstatus hdraft
  | Submitted => exact absurd hstatus hsubmitted
  | Cancelled => exact absurd hstatus hcancelled
  | Rejected => exact absurd hstatus hrejected
  | _ => rfl

/-! ## Steps and runs -/

variable {call : ℕ → Call}

inductive MoveCase (call : ℕ → Call) (held : Lock → Prop) (db : Db) (i : ℕ) :
    Label → Phase → Move Db Lock Phase → Prop
  | quiet {l p m} (hok : Shared.MoveOk (fun _ => False) (PhaseOk call) held db i m) :
    MoveCase call held db i l p m
  | saved {t id companyId userId now first seen current entity row}
      (hcall : call i = .change t id companyId userId now)
      (hfind : db.buying.purchaseOrders.find? id = some current)
      (hheld : held (.purchaseOrder id))
      (hrow : row = mergeOrder (t.mark userId now first) seen current) :
    MoveCase call held db i (.save .commit) (.saving (.updated entity seen row))
      (.commit ((orderRow id).put row db) .returned)
  | received {c p db'} (hcall : call i = .receive c) (hopen : Open db c.dto.purchaseOrderId)
      (hreceived : Received c.dto.purchaseOrderId db db') :
    MoveCase call held db i (.receive .commit) (.receiving p)
      (.commit db' (.receiving .returned))

theorem phaseOk_rejected (held : Lock → Prop) (db : Db) (i : ℕ) (error : Failure) :
    PhaseOk call held db i (.rejected error) := by
  unfold PhaseOk
  split <;> trivial

theorem phaseOk_aborted (held : Lock → Prop) (db : Db) (i : ℕ) :
    PhaseOk call held db i .aborted := by
  unfold PhaseOk
  split <;> trivial

variable {m : Move Db Lock Phase}

theorem changeMove_cases {i : ℕ} {l : Label} {id companyId : Uuid} {p : Phase}
    (hcall : call i = .change t id companyId userId now) (h : PhaseOk call held db i p)
    (hm : changeMove t id companyId userId now l p db = some m) :
    MoveCase call held db i l p m := by
  unfold changeMove at hm
  split at hm
  case h_1 =>
    split at hm
    · rename_i order hread
      cases hm
      obtain ⟨_, hread⟩ := value_eq_ok.1 hread
      obtain ⟨⟨hfind, -⟩, -⟩ := (commits_findByIdInCompany _ _ _ _ _).1 hread
      refine .quiet ?_
      simp only [Shared.MoveOk, PhaseOk, hcall, hfind, Option.isSome_some]
    · cases hm
      exact .quiet (phaseOk_rejected ..)
  case h_2 order =>
    split at hm
    · cases hm
      simp only [PhaseOk, hcall] at h
      obtain ⟨current, hfind⟩ := Option.isSome_iff_exists.1 h
      refine .quiet ?_
      simp only [Shared.MoveOk, PhaseOk, hcall]
      exact ⟨order, current, rfl, hfind, trivial⟩
    · cases hm
      exact .quiet (phaseOk_rejected ..)
  case h_3 l p =>
    simp only [PhaseOk, hcall] at h
    rcases h.move (fun _ => trivial) hm with ⟨q, rfl, hq⟩ | ⟨q, rfl, hq⟩ |
      ⟨entity, seen, row, rfl, rfl, rfl⟩
    · refine .quiet ?_
      simp only [Shared.MoveOk, PhaseOk, hcall]
      exact hq
    · refine .quiet ?_
      simp only [Shared.MoveOk, PhaseOk, hcall]
      exact hq
    · obtain ⟨first, current, rfl, hfind, -, -, hheld, rfl⟩ := h
      exact .saved hcall hfind hheld rfl
  case h_6 => cases hm
  all_goals
    cases hm
    exact .quiet (phaseOk_aborted ..)

theorem receiveMove_cases {i : ℕ} {l : LineLabel} {c : ReceiptRace.Call} {p : ReceiptRace.Phase} (hcall : call i = .receive c)
    (h : LineOk (receiveTx c) (fun _ _ db _ => Open db c.dto.purchaseOrderId) held db p)
    (hm : (receiveTx c).move .receiving l p db = some m) :
    Shared.MoveOk (fun _ => False) (PhaseOk call) held db i m ∨
      ∃ snapshot rows db', p = .checking snapshot rows [] ∧ l = .commit ∧
        Open db c.dto.purchaseOrderId ∧ Received c.dto.purchaseOrderId db db' ∧
          m = .commit db' (.receiving .returned) := by
  refine (LineOk.move h hm (fun held q hq => ?_) (fun todo htodo => ?_) (fun _ _ _ hrows => hrows)
    (fun _ _ _ _ _ _ _ _ hrows _ => hrows)).imp_right ?_
  · simp only [PhaseOk, hcall]
    exact hq
  · obtain ⟨order, hopen, -⟩ := except_bind_eq_ok.1 htodo
    obtain ⟨_, hopen⟩ := value_eq_ok.1 hopen
    exact open_of_openOrder hopen
  · rintro ⟨snapshot, rows, db', rfl, rfl, hfinish, rfl⟩
    exact ⟨snapshot, rows, db', rfl, rfl, h, received_of_finish hfinish, rfl⟩

theorem protocol_cases {i : ℕ} {l : Label} {p : Phase}
    (h : PhaseOk call held db i p) (hm : protocol call i l p db = some m) :
    MoveCase call held db i l p m := by
  unfold protocol at hm
  split at hm
  case h_1 t id companyId userId now hcall => exact changeMove_cases hcall h hm
  case h_2 c l hcall =>
    rcases receiveMove_cases (p := .called) hcall trivial hm with hok | ⟨_, _, _, hp, -⟩
    · exact .quiet hok
    · cases hp
  case h_3 c l p hcall =>
    simp only [PhaseOk, hcall] at h
    rcases receiveMove_cases hcall h hm with hok | ⟨_, _, _, rfl, rfl, hopen, hreceived, rfl⟩
    · exact .quiet hok
    · exact .received hcall hopen hreceived
  case h_4 => cases hm

theorem PhaseOk.mono {j : ℕ} {p : Phase} (h : PhaseOk call held db j p) (hfollows : Follows db db')
    (hkept : ∀ id o, db.buying.purchaseOrders.find? id = some o → ∃ o', db'.buying.purchaseOrders.find? id = some o' ∧ (held (.purchaseOrder id) → o' = o)) :
    PhaseOk call held db' j p := by
  unfold PhaseOk at h ⊢
  split
  case h_1 hcall =>
    simp only [hcall] at h
    obtain ⟨o, ho⟩ := Option.isSome_iff_exists.1 h
    obtain ⟨o', ho', -⟩ := hkept _ o ho
    rw [ho']
    rfl
  case h_2 hcall =>
    simp only [hcall] at h
    refine h.mono (fun _ _ _ _ _ => trivial) fun o ho => ?_
    obtain ⟨o', ho', hsame⟩ := hkept _ o ho
    exact ⟨o', ho', trivial, hsame⟩
  case h_3 hcall =>
    simp only [hcall] at h
    exact h.mono fun _ _ hopen => hfollows.open hopen
  case h_4 => trivial

/-- A step keeps the invariant if the check of a save that commits still passes. -/
theorem inv_step {s s' : Shared Db Lock Phase} {l : ℕ × Label}
    (h : s.Inv ReceivedReleased (PhaseOk call)) (hc : Respects call s l)
    (hs : (machine call).step s l = some s') :
    s'.Inv ReceivedReleased (PhaseOk call) ∧ Lawful s s' := by
  obtain ⟨i, l⟩ := l
  -- What the moving process does, with the condition at its commit.
  have hcurrent : ∀ {t id companyId userId now entity seen row current},
      call i = .change t id companyId userId now →
      s.phase i = .saving (.updated entity seen row) → l = .save .commit →
      s.db.buying.purchaseOrders.find? id = some current → Current t seen current := by
    intro t id companyId userId now entity seen row current hcall hp hl hfind
    subst hl
    simp only [Respects, hcall, hp] at hc
    exact hc current hfind
  have hcommit : ∀ db' p, protocol call i l (s.phase i) s.db = some (.commit db' p) →
      Follows s.db db' ∧ ReceivedReleased db' ∧ PhaseOk call (fun _ => False) db' i p ∧
        ∀ id o, s.db.buying.purchaseOrders.find? id = some o →
          ∃ o', db'.buying.purchaseOrders.find? id = some o' ∧
            (¬ s.Holds i (.purchaseOrder id) → o' = o) := by
    intro db' p hm
    generalize hp : s.phase i = q at hm
    have hi := h.phase i
    rw [hp] at hi
    cases protocol_cases hi hm with
    | quiet hok => exact hok.1.elim
    | @saved t id companyId userId now first seen current entity row hcall hfind hheld hrow =>
      subst hrow
      have hfollows : Follows s.db ((orderRow id).put
          (mergeOrder (t.mark userId now first) seen current) s.db) :=
        (hcurrent hcall hp rfl hfind).follows hfind
      refine ⟨hfollows, fun r hr o ho => ?_, ?_, fun j o ho => ?_⟩
      · exact hfollows.open (h.db r hr) o ho
      · simp only [PhaseOk, hcall]
      · rw [find_put _ _ hfind]
        by_cases hj : id = j
        · rw [if_pos hj]
          exact ⟨_, rfl, fun hnot => absurd (hj ▸ hheld) hnot⟩
        · rw [if_neg hj]
          exact ⟨o, ho, fun _ => rfl⟩
    | received hcall hopen hreceived =>
      refine ⟨.of_same hreceived.buying, hreceived.receivedReleased hopen h.db, ?_,
        fun j o ho => ⟨o, ?_, fun _ => rfl⟩⟩
      · simp only [PhaseOk, hcall]
        trivial
      · rw [hreceived.buying]
        exact ho
  constructor
  · refine h.step hs (fun m hm => ?_) fun db' p hm j _ held hapart hj => ?_
    · cases m with
      | commit db' p =>
        obtain ⟨-, hdb, hok, -⟩ := hcommit db' p hm
        exact ⟨hdb, hok⟩
      | _ =>
        generalize hp : s.phase i = q at hm
        have hi := h.phase i
        rw [hp] at hi
        cases protocol_cases hi hm with
        | quiet hok => exact hok
    · obtain ⟨hfollows, -, -, hkept⟩ := hcommit db' p hm
      refine hj.mono hfollows fun id o ho => ?_
      obtain ⟨o', ho', hsame⟩ := hkept id o ho
      exact ⟨o', ho', fun hheld => hsame (hapart _ hheld)⟩
  · rcases Shared.step_db hs with hsame | ⟨p, hm⟩
    · rw [Lawful, hsame]
      exact ⟨(Follows.of_same rfl).alongEdges, h.db.noGoods⟩
    · obtain ⟨hfollows, hdb, -⟩ := hcommit s'.db p hm
      exact ⟨hfollows.alongEdges, hdb.noGoods⟩

theorem respects_of_lawful {s s' : Shared Db Lock Phase} {l : ℕ × Label}
    (h : s.Inv ReceivedReleased (PhaseOk call)) (hs : (machine call).step s l = some s')
    (hlawful : Lawful s s') : Respects call s l := by
  unfold Respects
  split
  · rename_i i
    split
    · rename_i t id companyId userId now entity seen row hcall hp
      intro current hfind
      have hi := h.phase i
      simp only [PhaseOk, hcall, hp] at hi
      obtain ⟨first, current', rfl, hfind', -, -, -, rfl⟩ := hi
      obtain rfl := Option.some.inj (hfind.symm.trans hfind')
      obtain ⟨m, hm, hmove⟩ := Option.bind_eq_some_iff.1 hs
      simp only [protocol, hcall, hp, changeMove, RowAccess.saveMove, Option.some.injEq] at hm
      subst hm
      cases hmove
      exact current_of_alongEdges hfind hlawful.1
    · trivial
  · trivial

end

/-! A draft for ten pieces: one process cancels it, one confirms it, one receives four
pieces. -/

namespace OrderDemo

def draft : PurchaseOrder := { ReceiptRace.ReceiptDemo.order with status := .Draft }

def db : Db :=
  { ReceiptRace.ReceiptDemo.db with buying := { purchaseOrders := .ofRows [draft] } }

def now : Instant := { date := ⟨2026, 3, 1⟩, millis := 0 }

def calls : ℕ → Call
  | 0 => .change .cancel 70 10 99 now
  | 1 => .change .confirm 70 10 99 now
  | _ => .receive (ReceiptRace.ReceiptDemo.receive [ReceiptRace.ReceiptDemo.line 4])

/-- The save of process `i`. -/
def save (i : ℕ) : List (ℕ × Label) :=
  [(i, .save .reread), (i, .save .update), (i, .save .commit)]

def receive : List (ℕ × Label) :=
  [(2, .receive .start), (2, .receive .lock), (2, .receive .check), (2, .receive .commit)]

def status (s : Shared Db Lock Phase) : Option PurchaseOrderStatus :=
  (s.db.buying.purchaseOrders.find? 70).map (·.status)

def inTurn : List (ℕ × Label) :=
  [(1, .read), (1, .check)] ++ save 1 ++ receive ++ [(0, .read), (0, .check)]

def overtaken : List (ℕ × Label) :=
  [(0, .read), (0, .check), (1, .read), (1, .check)] ++ save 1 ++ receive ++ save 0

theorem receivedReleased : ReceivedReleased db := fun _ hr => absurd hr List.not_mem_nil

end OrderDemo

end FashionErp.OrderRace
