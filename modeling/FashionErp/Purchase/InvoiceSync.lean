/-
`PurchaseInvoicesService.syncEligibleInvoices` in the requests that start with it.

A list, a detail, a `post` and a `void` first make the invoices that are missing: the released
orders are read, then their goods receipts and their invoices, and the drafts of the orders in
between are inserted.
-/
import FashionErp.Inventory.GoodsReceipts
import FashionErp.Lib.Concurrent
import FashionErp.Purchase.VoidRace

namespace FashionErp.InvoiceSync

open Lib Lib.Tx PurchaseInvoicesService

/-! ## The parts of the synchronisation -/

def releasedOrders (db : Db) (companyId : Uuid) (supplierId : Option Uuid) : List PurchaseOrder :=
  db.buying.purchaseOrders.rows.filter fun order =>
    order.companyId = companyId && isReleasedPurchaseOrder order.status &&
      supplierId.all fun s => order.supplierId = s

def receiptsOf (db : Db) (companyId : Uuid) (orders : List PurchaseOrder) : List GoodsReceipt :=
  db.stock.goodsReceipts.filter fun r =>
    r.companyId = companyId && orders.any fun order => r.purchaseOrderId = order.id

def invoicesOf (db : Db) (companyId : Uuid) (orders : List PurchaseOrder) : List PurchaseInvoice :=
  db.buying.purchaseInvoices.rows.filter fun i =>
    i.companyId = companyId && orders.any fun order => i.purchaseOrderId = order.id

def newOrders (orders : List PurchaseOrder) (receipts : List GoodsReceipt)
    (invoices : List PurchaseInvoice) : List PurchaseOrder :=
  orders.filter fun order => receipts.any (fun r => r.purchaseOrderId = order.id) &&
    !invoices.any fun i => i.purchaseOrderId = order.id

def Admits (db : Db) (orders : List PurchaseOrder) : Prop :=
  (∀ order ∈ orders, ∀ i ∈ db.buying.purchaseInvoices.rows, i.companyId = order.companyId →
    i.invoiceNumber ≠ deriveInvoiceNumber order.purchaseOrderNumber) ∧
  (orders.map fun order =>
    (order.companyId, deriveInvoiceNumber order.purchaseOrderNumber)).Nodup

instance (db : Db) (orders : List PurchaseOrder) : Decidable (Admits db orders) :=
  inferInstanceAs (Decidable ((∀ order ∈ orders, ∀ i ∈ _, _ → _) ∧ _))

def Drawn (db : Db) (orders : List PurchaseOrder) (idOf : Uuid → Uuid) : Prop :=
  (∀ order ∈ orders, (db.buying.purchaseInvoices.find? (idOf order.id)).isNone) ∧
    (orders.map fun order => idOf order.id).Nodup

instance (db : Db) (orders : List PurchaseOrder) (idOf : Uuid → Uuid) :
    Decidable (Drawn db orders idOf) := inferInstanceAs (Decidable (_ ∧ _))

def drafts (orders : List PurchaseOrder) (idOf : Uuid → Uuid) : List PurchaseInvoice :=
  orders.map fun order => draftInvoice (idOf order.id) order

/-- `save(newInvoices)`. -/
def insertDrafts (db : Db) (orders : List PurchaseOrder) (idOf : Uuid → Uuid) : Db :=
  { db with buying := { db.buying with
      purchaseInvoices := db.buying.purchaseInvoices.saveAll (drafts orders idOf) } }

inductive Call
  | list (companyId : Uuid) (supplierId : Option Uuid)
  | detail (id companyId : Uuid)
  | post (id companyId userId : Uuid) (now : Instant)
  | void (id companyId userId : Uuid) (now : Instant) (reason : String)
  /-- A goods receipt is created, in a transaction of its own. -/
  | receive (companyId userId : Uuid) (now : Instant)
      (dto : GoodsReceiptsService.CreateGoodsReceiptDto)

def Call.scope : Call → Option (Uuid × Option Uuid)
  | .list companyId supplierId => some (companyId, supplierId)
  | .detail _ companyId => some (companyId, none)
  | .post _ companyId _ _ => some (companyId, none)
  | .void _ companyId _ _ _ => some (companyId, none)
  | .receive .. => none

inductive After
  | ready
  | posting (invoice : PurchaseInvoice)
  | changed (entity : PurchaseInvoice)
  /-- `save` has read the row again. -/
  | saving (entity seen : PurchaseInvoice)
  | returned
  | failed (error : Failure)

/-- Where a call stands; `started` is the database at its start. -/
inductive Phase
  | called
  | begun (started : Db)
  | reading (started : Db) (orders : List PurchaseOrder) (receipts : Option (List GoodsReceipt))
      (invoices : Option (List PurchaseInvoice))
  | synced (started : Db) (after : After)
  | refused (error : Failure)
  | received
  /-- The connection is lost, or the database gives up. -/
  | aborted

inductive Label
  | start
  | readOrders
  | readReceipts
  | readInvoices
  /-- `save(newInvoices)`, if there are any. -/
  | insert (idOf : Uuid → Uuid)
  | read
  | check
  | reread
  | write
  | receive
  | abort

/-- The moves of `syncEligibleInvoices`. -/
def syncMove (companyId : Uuid) (supplierId : Option Uuid) :
    Label → Phase → Db → Option (Move Db Unit Phase)
  | .start, .called, db => some (.goto (.begun db))
  | .readOrders, .begun started, db =>
    let orders := releasedOrders db companyId supplierId
    if orders = [] then some (.goto (.synced started .ready))
    else some (.goto (.reading started orders none none))
  | .readReceipts, .reading started orders none invoices, db =>
    some (.goto (.reading started orders (some (receiptsOf db companyId orders)) invoices))
  | .readInvoices, .reading started orders receipts none, db =>
    some (.goto (.reading started orders receipts (some (invoicesOf db companyId orders))))
  | .insert idOf, .reading started orders (some receipts) (some invoices), db =>
    let new := newOrders orders receipts invoices
    if new = [] then some (.goto (.synced started .ready))
    else if ¬ Admits db new then
      some (.leave (.refused (.duplicateEntry "purchase_invoices.company_id_invoice_number")))
    else if Drawn db new idOf then
      some (.commit (insertDrafts db new idOf) (.synced started .ready))
    else none
  | .abort, .begun _, _ => some (.leave .aborted)
  | .abort, .reading .., _ => some (.leave .aborted)
  | _, _, _ => none

def afterMove (call : Call) : Label → After → Db → Option (Move Db Unit After)
  | .read, .ready, db =>
    match call with
    | .list _ _ => some (.goto .returned)
    | .detail id companyId =>
      match (run (findEntity id companyId) db).1 with
      | .ok _ => some (.goto .returned)
      | .error error => some (.leave (.failed error))
    | .post id companyId _ _ =>
      match (run (readToPost id companyId) db).1 with
      | .ok invoice => some (.goto (.posting invoice))
      | .error error => some (.leave (.failed error))
    | .void id companyId userId now reason =>
      match (run (readToVoid id companyId) db).1 with
      | .ok invoice => some (.goto (.changed (markVoided userId now reason invoice)))
      | .error error => some (.leave (.failed error))
    | .receive .. => none
  | .check, .posting invoice, db =>
    match call with
    | .post _ companyId userId now =>
      match (run (checkOrder invoice companyId) db).1 with
      | .ok _ => some (.goto (.changed (markPosted userId now invoice)))
      | .error error => some (.leave (.failed error))
    | _ => none
  | .reread, .changed entity, db =>
    (db.buying.purchaseInvoices.find? entity.id).map fun seen => .goto (.saving entity seen)
  | .write, .saving entity seen, db =>
    (db.buying.purchaseInvoices.find? entity.id).map fun row =>
      .commit (VoidRace.saveInvoice entity seen row db) .returned
  | _, _, _ => none

def receiveMove (call : Call) : Label → Phase → Db → Option (Move Db Unit Phase)
  | .receive, .called, db =>
    match call with
    | .receive companyId userId now dto =>
      some (.commit (run (GoodsReceiptsService.create companyId userId now dto) db).2 .received)
    | _ => none
  | _, _, _ => none

def protocol (call : ℕ → Call) : Protocol Db Unit Phase Label := fun i l p db =>
  match (call i).scope, p with
  | none, p => receiveMove (call i) l p db
  | some _, .synced started after => (afterMove (call i) l after db).map (Move.map (.synced started))
  | some (companyId, supplierId), p => syncMove companyId supplierId l p db

def machine (call : ℕ → Call) : Machine (Shared Db Unit Phase) (ℕ × Label) :=
  concurrent (protocol call)

/-! ## The claim and the condition -/

def Served (call : Call) (started db : Db) : Prop :=
  ∀ companyId supplierId, call.scope = some (companyId, supplierId) →
    ∀ order ∈ releasedOrders started companyId supplierId,
      goodsReceiptsOf started companyId order.id ≠ [] → hasInvoice db companyId order.id = true

/-- The claim, of a state. -/
structure Exact (call : ℕ → Call) (s : Shared Db Unit Phase) : Prop where
  atMostOne : ∀ i ∈ s.db.buying.purchaseInvoices.rows, ∀ j ∈ s.db.buying.purchaseInvoices.rows,
    i.purchaseOrderId = j.purchaseOrderId → i = j
  received : ∀ i ∈ s.db.buying.purchaseInvoices.rows, ∃ r ∈ s.db.stock.goodsReceipts,
    r.companyId = i.companyId ∧ r.purchaseOrderId = i.purchaseOrderId
  served : ∀ k started after, s.phase k = .synced started after → Served (call k) started s.db
  notRefused : ∀ k error, s.phase k ≠ .refused error

/-- The condition on a step. No order that a draft is inserted for has got an invoice since
the invoices were read. -/
def Unraced (s : Shared Db Unit Phase) : ℕ × Label → Prop
  | (k, .insert _) =>
    match s.phase k with
    | .reading _ orders (some receipts) (some invoices) =>
      ∀ order ∈ newOrders orders receipts invoices,
        hasInvoice s.db order.companyId order.id = false
    | _ => True
  | _ => True

instance (s : Shared Db Unit Phase) (l : ℕ × Label) : Decidable (Unraced s l) := by
  unfold Unraced
  split
  · split <;> infer_instance
  · infer_instance

structure Good (db : Db) : Prop where
  orderNumber : ∀ o ∈ db.buying.purchaseOrders.rows, ∃ rest,
    o.purchaseOrderNumber.toList = 'P' :: 'O' :: '-' :: rest
  orderUnique : ∀ o ∈ db.buying.purchaseOrders.rows, ∀ o' ∈ db.buying.purchaseOrders.rows,
    o.companyId = o'.companyId → o.purchaseOrderNumber = o'.purchaseOrderNumber → o = o'
  invoiceUnique : ∀ i ∈ db.buying.purchaseInvoices.rows, ∀ j ∈ db.buying.purchaseInvoices.rows,
    i.companyId = j.companyId → i.invoiceNumber = j.invoiceNumber → i = j
  ofOrder : ∀ i ∈ db.buying.purchaseInvoices.rows, ∃ o,
    db.buying.purchaseOrders.find? i.purchaseOrderId = some o ∧ i.companyId = o.companyId ∧
      i.invoiceNumber = deriveInvoiceNumber o.purchaseOrderNumber
  received : ∀ i ∈ db.buying.purchaseInvoices.rows, ∃ r ∈ db.stock.goodsReceipts,
    r.companyId = i.companyId ∧ r.purchaseOrderId = i.purchaseOrderId

/-! ## What stands -/

structure SameDocument (i j : PurchaseInvoice) : Prop where
  company : i.companyId = j.companyId
  order : i.purchaseOrderId = j.purchaseOrderId
  number : i.invoiceNumber = j.invoiceNumber

theorem SameDocument.refl (i : PurchaseInvoice) : SameDocument i i := ⟨rfl, rfl, rfl⟩

theorem SameDocument.trans {i j k : PurchaseInvoice} (h : SameDocument i j)
    (h' : SameDocument j k) : SameDocument i k :=
  ⟨h.company.trans h'.company, h.order.trans h'.order, h.number.trans h'.number⟩

structure Stands (db db' : Db) : Prop where
  orders : db'.buying.purchaseOrders = db.buying.purchaseOrders
  receipts : ∀ r ∈ db.stock.goodsReceipts, r ∈ db'.stock.goodsReceipts
  invoices : ∀ id i, db.buying.purchaseInvoices.find? id = some i →
    ∃ i', db'.buying.purchaseInvoices.find? id = some i' ∧ SameDocument i i'

theorem Stands.refl (db : Db) : Stands db db :=
  ⟨rfl, fun _ hr => hr, fun _ i hi => ⟨i, hi, .refl i⟩⟩

theorem Stands.trans {db db₁ db₂ : Db} (h : Stands db db₁) (h' : Stands db₁ db₂) :
    Stands db db₂ := by
  refine ⟨h'.orders.trans h.orders, fun r hr => h'.receipts r (h.receipts r hr), fun id i hi => ?_⟩
  obtain ⟨i₁, hi₁, hsame⟩ := h.invoices id i hi
  obtain ⟨i₂, hi₂, hsame'⟩ := h'.invoices id i₁ hi₁
  exact ⟨i₂, hi₂, hsame.trans hsame'⟩

variable {companyId : Uuid} {started : Db} {orders : List PurchaseOrder} {supplierId : Option Uuid}

section

variable {call : ℕ → Call} {s s' : Shared Db Unit Phase} {k : ℕ} {l : Label} {db db' : Db}

theorem hasInvoice_iff {purchaseOrderId : Uuid} :
    hasInvoice db companyId purchaseOrderId = true ↔ ∃ i ∈ db.buying.purchaseInvoices.rows,
      i.companyId = companyId ∧ i.purchaseOrderId = purchaseOrderId := by
  simp only [hasInvoice, List.any_eq_true, decide_eq_true_eq]

theorem Stands.hasInvoice (h : Stands db db') {purchaseOrderId : Uuid}
    (hi : hasInvoice db companyId purchaseOrderId = true) :
    PurchaseInvoicesService.hasInvoice db' companyId purchaseOrderId = true := by
  obtain ⟨i, hi, hcompany, horder⟩ := hasInvoice_iff.1 hi
  obtain ⟨i', hi', hsame⟩ := h.invoices _ i ((Table.mem_rows_iff _ i).1 hi)
  exact hasInvoice_iff.2 ⟨i', Table.mem_of_find? hi', hsame.company.symm.trans hcompany,
    hsame.order.symm.trans horder⟩

theorem Stands.served {c : Call} (h : Stands db db') (hserved : Served c started db) :
    Served c started db' :=
  fun companyId supplierId hscope order horder hreceipt =>
    h.hasInvoice (hserved companyId supplierId hscope order horder hreceipt)

theorem Stands.releasedOrders (h : Stands db db') (companyId : Uuid) (supplierId : Option Uuid) :
    InvoiceSync.releasedOrders db' companyId supplierId =
      InvoiceSync.releasedOrders db companyId supplierId := by
  unfold InvoiceSync.releasedOrders
  rw [h.orders]

theorem deriveInvoiceNumber_inj {number number' : String} {rest rest' : List Char}
    (h : number.toList = 'P' :: 'O' :: '-' :: rest) (h' : number'.toList = 'P' :: 'O' :: '-' :: rest')
    (heq : deriveInvoiceNumber number = deriveInvoiceNumber number') : number = number' := by
  unfold deriveInvoiceNumber at heq
  rw [h, h'] at heq
  have hlists := congrArg String.toList heq
  simp only [String.toList_append, String.toList_ofList, List.append_cancel_left_eq] at hlists
  apply String.toList_inj.1
  rw [h, h', hlists]

theorem Good.atMostOne (h : Good db) {i j : PurchaseInvoice}
    (hi : i ∈ db.buying.purchaseInvoices.rows) (hj : j ∈ db.buying.purchaseInvoices.rows)
    (horder : i.purchaseOrderId = j.purchaseOrderId) : i = j := by
  obtain ⟨o, ho, hcompany, hnumber⟩ := h.ofOrder i hi
  obtain ⟨o', ho', hcompany', hnumber'⟩ := h.ofOrder j hj
  rw [horder, ho'] at ho
  cases ho
  exact h.invoiceUnique i hi j hj (hcompany.trans hcompany'.symm) (hnumber.trans hnumber'.symm)

/-- The unique index lets the drafts in exactly if none of the orders has an invoice. -/
theorem Good.admits_iff (h : Good db) (hsub : orders.Sublist db.buying.purchaseOrders.rows) :
    Admits db orders ↔ ∀ order ∈ orders, hasInvoice db order.companyId order.id = false := by
  have hmem : ∀ order ∈ orders, order ∈ db.buying.purchaseOrders.rows := fun _ ho => hsub.subset ho
  have hsame : ∀ o ∈ orders, ∀ o' ∈ db.buying.purchaseOrders.rows, o'.companyId = o.companyId →
      deriveInvoiceNumber o'.purchaseOrderNumber = deriveInvoiceNumber o.purchaseOrderNumber →
      o' = o := by
    intro o ho o' ho' hcompany hnumber
    obtain ⟨rest, hrest⟩ := h.orderNumber o (hmem o ho)
    obtain ⟨rest', hrest'⟩ := h.orderNumber o' ho'
    exact h.orderUnique o' ho' o (hmem o ho) hcompany (deriveInvoiceNumber_inj hrest' hrest hnumber)
  constructor
  · intro hadmits order ho
    rw [Bool.eq_false_iff]
    intro hinvoice
    obtain ⟨i, hi, hcompany, horder⟩ := hasInvoice_iff.1 hinvoice
    obtain ⟨o', ho', -, hnumber⟩ := h.ofOrder i hi
    rw [horder, show order.id = key order from rfl,
      (Table.mem_rows_iff _ order).1 (hmem order ho)] at ho'
    cases ho'
    exact hadmits.1 order ho i hi hcompany hnumber
  · intro hnone
    refine ⟨fun order ho i hi hcompany hnumber => ?_, ?_⟩
    · obtain ⟨o', ho', hcompany', hnumber'⟩ := h.ofOrder i hi
      have heq := hsame order ho o' (Table.mem_of_find? ho') (hcompany'.symm.trans hcompany)
        (hnumber'.symm.trans hnumber)
      subst heq
      have hinvoice : hasInvoice db o'.companyId o'.id = true :=
        hasInvoice_iff.2 ⟨i, hi, hcompany, (Table.key_of_find? ho').symm⟩
      rw [hnone o' ho] at hinvoice
      cases hinvoice
    · refine (List.Nodup.of_map key (db.buying.purchaseOrders.nodup.sublist (hsub.map key))).map_on ?_
      intro o ho o' ho' heq
      exact hsame o' ho' o (hmem o ho) (congrArg Prod.fst heq) (congrArg Prod.snd heq)

theorem Good.of_same (h : Good db) (hstands : Stands db db')
    (hold : ∀ i' ∈ db'.buying.purchaseInvoices.rows, ∃ i ∈ db.buying.purchaseInvoices.rows,
      i.id = i'.id ∧ SameDocument i i') : Good db' := by
  refine ⟨?_, ?_, fun i' hi' j' hj' hcompany hnumber => ?_, fun i' hi' => ?_, fun i' hi' => ?_⟩
  · rw [hstands.orders]
    exact h.orderNumber
  · rw [hstands.orders]
    exact h.orderUnique
  · obtain ⟨i, hi, hid, hsame⟩ := hold i' hi'
    obtain ⟨j, hj, hid', hsame'⟩ := hold j' hj'
    have heq := h.invoiceUnique i hi j hj
      (hsame.company.trans (hcompany.trans hsame'.company.symm))
      (hsame.number.trans (hnumber.trans hsame'.number.symm))
    exact Table.eq_of_key hi' hj' (hid.symm.trans ((congrArg PurchaseInvoice.id heq).trans hid'))
  · obtain ⟨i, hi, -, hsame⟩ := hold i' hi'
    obtain ⟨o, ho, hcompany, hnumber⟩ := h.ofOrder i hi
    refine ⟨o, ?_, hsame.company.symm.trans hcompany, hsame.number.symm.trans hnumber⟩
    rw [hstands.orders, ← hsame.order, ho]
  · obtain ⟨i, hi, -, hsame⟩ := hold i' hi'
    obtain ⟨r, hr, hcompany, horder⟩ := h.received i hi
    exact ⟨r, hstands.receipts r hr, hcompany.trans hsame.company, horder.trans hsame.order⟩

/-! ## What the commits do -/

theorem receive_stands (companyId userId : Uuid) (now : Instant)
    (dto : GoodsReceiptsService.CreateGoodsReceiptDto) (db : Db) :
    let db' := (run (GoodsReceiptsService.create companyId userId now dto) db).2
    Stands db db' ∧ db'.buying = db.buying := by
  intro db'
  rcases run_cases (GoodsReceiptsService.create companyId userId now dto) db with
    ⟨receipt, db₁, hc, hrun⟩ | ⟨_, -, hrun⟩
  · have hdb' : db' = db₁ := congrArg Prod.snd hrun
    obtain ⟨_, -, -, -, -, -, hbuying, hreceipts⟩ := GoodsReceiptsService.create_spec hc
    rw [hdb']
    refine ⟨⟨by rw [hbuying], fun r hr => ?_, fun id i hi => ⟨i, ?_, .refl i⟩⟩, hbuying⟩
    · rw [hreceipts]
      exact List.mem_append_left _ hr
    · rw [hbuying]
      exact hi
  · have hdb' : db' = db := congrArg Prod.snd hrun
    rw [hdb']
    exact ⟨.refl db, rfl⟩

theorem save_stands {entity seen row : PurchaseInvoice}
    (hrow : db.buying.purchaseInvoices.find? entity.id = some row) (hsame : SameDocument entity row) :
    Stands db (VoidRace.saveInvoice entity seen row db) ∧
      ∀ i' ∈ (VoidRace.saveInvoice entity seen row db).buying.purchaseInvoices.rows,
        ∃ i ∈ db.buying.purchaseInvoices.rows, i.id = i'.id ∧ SameDocument i i' := by
  have hmerged : SameDocument row (VoidRace.mergeInvoice entity seen row) :=
    ⟨(VoidRace.mergeCol_of_both (P := (· = row.companyId)) hsame.company rfl).symm,
      (VoidRace.mergeCol_of_both (P := (· = row.purchaseOrderId)) hsame.order rfl).symm,
      (VoidRace.mergeCol_of_both (P := (· = row.invoiceNumber)) hsame.number rfl).symm⟩
  have hid : row.id = entity.id := Table.key_of_find? hrow
  refine ⟨⟨rfl, fun _ hr => hr, fun id i hi => ?_⟩, fun i' hi' => ?_⟩
  · show ∃ i', (db.buying.purchaseInvoices.save _).find? id = some i' ∧ _
    rw [Table.find?_save]
    split
    · rename_i hkey
      have hkey' : entity.id = id := hid.symm.trans hkey
      rw [← hkey', hrow] at hi
      cases hi
      exact ⟨_, rfl, hmerged⟩
    · exact ⟨i, hi, .refl i⟩
  · rcases (Table.mem_save _ _ _).1 hi' with rfl | ⟨hi', -⟩
    · exact ⟨row, Table.mem_of_find? hrow, rfl, hmerged⟩
    · exact ⟨i', hi', rfl, .refl i'⟩

variable {idOf : Uuid → Uuid}

theorem mem_insertDrafts (hdrawn : Drawn db orders idOf) (i : PurchaseInvoice) :
    i ∈ (insertDrafts db orders idOf).buying.purchaseInvoices.rows ↔
      (∃ order ∈ orders, i = draftInvoice (idOf order.id) order) ∨
        i ∈ db.buying.purchaseInvoices.rows := by
  have hkeys : ∀ x ∈ drafts orders idOf, ∀ y ∈ drafts orders idOf, key x = key y → x = y := by
    intro x hx y hy hkey
    obtain ⟨o, ho, rfl⟩ := List.mem_map.1 hx
    obtain ⟨o', ho', rfl⟩ := List.mem_map.1 hy
    rw [List.inj_on_of_nodup_map hdrawn.2 ho ho' hkey]
  refine (Table.mem_saveAll _ hkeys i).trans (or_congr ?_ (and_iff_left_of_imp fun hi x hx hkey => ?_))
  · unfold drafts
    rw [List.mem_map]
    exact exists_congr fun o => and_congr_right fun _ => eq_comm
  · obtain ⟨o, ho, rfl⟩ := List.mem_map.1 hx
    have hnone := Option.isNone_iff_eq_none.1 (hdrawn.1 o ho)
    exact Table.find?_eq_none.1 hnone i hi hkey

theorem insert_stands (hdrawn : Drawn db orders idOf) :
    Stands db (insertDrafts db orders idOf) := by
  refine ⟨rfl, fun _ hr => hr, fun id i hi => ⟨i, ?_, .refl i⟩⟩
  have hid : key i = id := Table.key_of_find? hi
  rw [← hid]
  exact (Table.mem_rows_iff _ i).1 ((mem_insertDrafts hdrawn i).2 (.inr (Table.mem_of_find? hi)))

/-- An insertion the index lets in leaves the tables good, if each order has a receipt. -/
theorem Good.insertDrafts (h : Good db)
    (hmem : ∀ order ∈ orders, order ∈ db.buying.purchaseOrders.rows)
    (hreceipt : ∀ order ∈ orders, ∃ r ∈ db.stock.goodsReceipts, r.companyId = order.companyId ∧ r.purchaseOrderId = order.id)
    (hadmits : Admits db orders) (hdrawn : Drawn db orders idOf) :
    Good (InvoiceSync.insertDrafts db orders idOf) := by
  have hrows := mem_insertDrafts hdrawn
  refine ⟨h.orderNumber, h.orderUnique, fun i hi j hj hcompany hnumber => ?_, fun i hi => ?_,
    fun i hi => ?_⟩
  · rcases (hrows i).1 hi with ⟨o, ho, rfl⟩ | hi
    · rcases (hrows j).1 hj with ⟨o', ho', rfl⟩ | hj
      · rw [List.inj_on_of_nodup_map hadmits.2 ho ho' (Prod.ext hcompany hnumber)]
      · exact absurd hnumber.symm (hadmits.1 o ho j hj hcompany.symm)
    · rcases (hrows j).1 hj with ⟨o', ho', rfl⟩ | hj
      · exact absurd hnumber (hadmits.1 o' ho' i hi hcompany)
      · exact h.invoiceUnique i hi j hj hcompany hnumber
  · rcases (hrows i).1 hi with ⟨o, ho, rfl⟩ | hi
    · exact ⟨o, (Table.mem_rows_iff _ o).1 (hmem o ho), rfl, rfl⟩
    · exact h.ofOrder i hi
  · rcases (hrows i).1 hi with ⟨o, ho, rfl⟩ | hi
    · exact hreceipt o ho
    · exact h.received i hi

/-! ## What a call relies on -/

structure ReadingOk (companyId : Uuid) (supplierId : Option Uuid) (started db : Db)
    (orders : List PurchaseOrder) (receipts : Option (List GoodsReceipt))
    (invoices : Option (List PurchaseInvoice)) : Prop where
  stands : Stands started db
  released : orders = releasedOrders started companyId supplierId
  seen : ∀ rs ∈ receipts, ∀ order ∈ orders, goodsReceiptsOf started companyId order.id ≠ [] →
    ∃ r ∈ rs, r.purchaseOrderId = order.id
  receipts : ∀ rs ∈ receipts, ∀ r ∈ rs, r ∈ db.stock.goodsReceipts ∧ r.companyId = companyId
  invoices : ∀ is ∈ invoices, ∀ i ∈ is, hasInvoice db companyId i.purchaseOrderId = true

def AfterOk (db : Db) : After → Prop
  | .posting entity | .changed entity | .saving entity _ =>
    ∃ row, db.buying.purchaseInvoices.find? entity.id = some row ∧ SameDocument entity row
  | _ => True

def PhaseOk (call : ℕ → Call) (_ : Unit → Prop) (db : Db) (k : ℕ) : Phase → Prop
  | .begun started => Stands started db
  | .reading started orders receipts invoices => ∃ companyId supplierId,
      (call k).scope = some (companyId, supplierId) ∧
        ReadingOk companyId supplierId started db orders receipts invoices
  | .synced started after => Served (call k) started db ∧ AfterOk db after
  | .refused _ => False
  | _ => True

theorem afterOk_stands {after : After} (h : AfterOk db after) (hs : Stands db db') :
    AfterOk db' after := by
  cases after with
  | posting entity | changed entity | saving entity _ =>
    obtain ⟨row, hrow, hsame⟩ := h
    obtain ⟨row', hrow', hsame'⟩ := hs.invoices _ row hrow
    exact ⟨row', hrow', hsame.trans hsame'⟩
  | _ => trivial

theorem readingOk_stands {receipts : Option (List GoodsReceipt)}
    {invoices : Option (List PurchaseInvoice)}
    (h : ReadingOk companyId supplierId started db orders receipts invoices) (hs : Stands db db') :
    ReadingOk companyId supplierId started db' orders receipts invoices := by
  refine ⟨h.stands.trans hs, h.released, h.seen, fun rs hrs r hr => ?_, fun is his i hi => ?_⟩
  · exact ⟨hs.receipts r (h.receipts rs hrs r hr).1, (h.receipts rs hrs r hr).2⟩
  · exact hs.hasInvoice (h.invoices is his i hi)

variable {p : Phase} {held : Unit → Prop}

theorem phaseOk_stands {held' : Unit → Prop} (h : PhaseOk call held db k p)
    (hs : Stands db db') : PhaseOk call held' db' k p := by
  cases p with
  | begun started => exact Stands.trans h hs
  | reading started orders receipts invoices =>
    obtain ⟨companyId, supplierId, hscope, hok⟩ := h
    exact ⟨companyId, supplierId, hscope, readingOk_stands hok hs⟩
  | synced started after => exact ⟨hs.served h.1, afterOk_stands h.2 hs⟩
  | refused error => exact h
  | _ => trivial

theorem ReadingOk.newOrders {rs : List GoodsReceipt} {is : List PurchaseInvoice}
    (h : ReadingOk companyId supplierId started db orders (some rs) (some is)) :
    (newOrders orders rs is).Sublist db.buying.purchaseOrders.rows ∧
      ∀ order ∈ InvoiceSync.newOrders orders rs is, order.companyId = companyId ∧
        ∃ r ∈ db.stock.goodsReceipts, r.companyId = order.companyId ∧
          r.purchaseOrderId = order.id := by
  constructor
  · refine List.filter_sublist.trans ?_
    rw [h.released, ← h.stands.releasedOrders]
    exact List.filter_sublist
  · intro order horder
    obtain ⟨hin, hkeep⟩ := List.mem_filter.1 horder
    have hcompany : order.companyId = companyId := by
      rw [h.released] at hin
      have hcond := (List.mem_filter.1 hin).2
      rw [Bool.and_eq_true, Bool.and_eq_true] at hcond
      exact of_decide_eq_true hcond.1.1
    rw [Bool.and_eq_true] at hkeep
    obtain ⟨r, hr, hid⟩ := List.any_eq_true.1 hkeep.1
    obtain ⟨hrow, hr'⟩ := h.receipts rs rfl r hr
    exact ⟨hcompany, r, hrow, hr'.trans hcompany.symm, of_decide_eq_true hid⟩

theorem ReadingOk.served {rs : List GoodsReceipt} {is : List PurchaseInvoice} {c : Call}
    (h : ReadingOk companyId supplierId started db orders (some rs) (some is))
    (hscope : c.scope = some (companyId, supplierId)) (hs : Stands db db')
    (hnew : ∀ order ∈ InvoiceSync.newOrders orders rs is, hasInvoice db' companyId order.id = true) :
    Served c started db' := by
  intro companyId' supplierId' hscope' order horder hreceipt
  obtain ⟨rfl, rfl⟩ := Prod.mk.inj (Option.some.inj (hscope.symm.trans hscope'))
  have hin : order ∈ orders := h.released ▸ horder
  obtain ⟨r, hr, hid⟩ := h.seen rs rfl order hin hreceipt
  by_cases hinvoice : (is.any fun i => i.purchaseOrderId = order.id) = true
  · obtain ⟨i, hi, horderId⟩ := List.any_eq_true.1 hinvoice
    rw [← of_decide_eq_true horderId]
    exact hs.hasInvoice (h.invoices is rfl i hi)
  · refine hnew order (List.mem_filter.2 ⟨hin, ?_⟩)
    rw [Bool.and_eq_true, Bool.not_eq_true']
    exact ⟨List.any_eq_true.2 ⟨r, hr, decide_eq_true hid⟩, Bool.eq_false_iff.2 hinvoice⟩

/-! ## The moves -/

def Leaves (call : ℕ → Call) (db : Db) (k : ℕ) (m : Move Db Unit Phase) : Prop :=
  Shared.MoveOk Good (PhaseOk call) (fun _ => False) db k m ∧
    ∀ db' q, m = .commit db' q → Stands db db'

theorem leaves_goto (h : PhaseOk call (fun _ => False) db k p) : Leaves call db k (.goto p) :=
  ⟨h, fun _ _ heq => by cases heq⟩

theorem leaves_leave (h : PhaseOk call (fun _ => False) db k p) : Leaves call db k (.leave p) :=
  ⟨h, fun _ _ heq => by cases heq⟩

/-- The synchronisation, where the index lets its drafts in. -/
theorem syncMove_leaves {m : Move Db Unit Phase}
    (hscope : (call k).scope = some (companyId, supplierId)) (hgood : Good db)
    (hok : PhaseOk call held db k p) (hm : syncMove companyId supplierId l p db = some m)
    (hadmits : ∀ started orders rs is idOf, p = .reading started orders (some rs) (some is) → l = .insert idOf → Admits db (newOrders orders rs is)) :
    Leaves call db k m := by
  unfold syncMove at hm
  split at hm
  case h_1 =>
    cases hm
    exact leaves_goto (.refl db)
  case h_2 started =>
    have hstands : Stands started db := hok
    dsimp only at hm
    split at hm
    · rename_i hnone
      cases hm
      refine leaves_goto ⟨fun companyId' supplierId' hscope' order horder _ => ?_, trivial⟩
      obtain ⟨rfl, rfl⟩ := Prod.mk.inj (Option.some.inj (hscope.symm.trans hscope'))
      rw [← hstands.releasedOrders, hnone] at horder
      cases horder
    · cases hm
      refine leaves_goto ⟨companyId, supplierId, hscope, hstands, hstands.releasedOrders _ _, ?_, ?_, ?_⟩
      all_goals
        intro _ h
        cases h
  case h_3 started orders invoices =>
    cases hm
    obtain ⟨companyId', supplierId', hscope', hread⟩ := hok
    obtain ⟨rfl, rfl⟩ := Prod.mk.inj (Option.some.inj (hscope.symm.trans hscope'))
    refine leaves_goto ⟨companyId, supplierId, hscope, hread.stands, hread.released, ?_, ?_,
      hread.invoices⟩
    · intro rs hrs order horder hreceipt
      cases hrs
      obtain ⟨r, hr⟩ := List.exists_mem_of_ne_nil _ hreceipt
      obtain ⟨hr, hfor⟩ := List.mem_filter.1 hr
      obtain ⟨hcompany, hid⟩ := of_decide_eq_true hfor
      refine ⟨r, List.mem_filter.2 ⟨hread.stands.receipts r hr, ?_⟩, hid⟩
      rw [Bool.and_eq_true]
      exact ⟨decide_eq_true hcompany, List.any_eq_true.2 ⟨order, horder, decide_eq_true hid⟩⟩
    · intro rs hrs r hr
      cases hrs
      obtain ⟨hr, hfor⟩ := List.mem_filter.1 hr
      rw [Bool.and_eq_true] at hfor
      exact ⟨hr, of_decide_eq_true hfor.1⟩
  case h_4 started orders receipts =>
    cases hm
    obtain ⟨companyId', supplierId', hscope', hread⟩ := hok
    obtain ⟨rfl, rfl⟩ := Prod.mk.inj (Option.some.inj (hscope.symm.trans hscope'))
    refine leaves_goto ⟨companyId, supplierId, hscope, hread.stands, hread.released, hread.seen,
      hread.receipts, fun is his i hi => ?_⟩
    cases his
    obtain ⟨hi, hfor⟩ := List.mem_filter.1 hi
    rw [Bool.and_eq_true] at hfor
    exact hasInvoice_iff.2 ⟨i, hi, of_decide_eq_true hfor.1, rfl⟩
  case h_5 idOf started orders receipts invoices =>
    obtain ⟨companyId', supplierId', hscope', hread⟩ := hok
    obtain ⟨rfl, rfl⟩ := Prod.mk.inj (Option.some.inj (hscope.symm.trans hscope'))
    have hin := hadmits started orders receipts invoices idOf rfl rfl
    dsimp only at hm
    split at hm
    · rename_i hnone
      cases hm
      refine leaves_goto ⟨hread.served hscope (.refl db) fun order horder => ?_, trivial⟩
      rw [hnone] at horder
      cases horder
    · obtain ⟨hdrawn, hm⟩ := Option.ite_none_right_eq_some.1 hm
      cases hm
      obtain ⟨hsub, hnew⟩ := hread.newOrders
      have hstands := insert_stands hdrawn
      refine ⟨⟨hgood.insertDrafts (fun o ho => hsub.subset ho) (fun o ho => (hnew o ho).2) hin hdrawn,
        hread.served hscope hstands fun order horder => ?_, trivial⟩, fun db' q heq => ?_⟩
      · exact hasInvoice_iff.2 ⟨_, (mem_insertDrafts hdrawn _).2 (.inl ⟨order, horder, rfl⟩),
          (hnew order horder).1, rfl⟩
      · obtain ⟨rfl, -⟩ := Move.commit.inj heq
        exact hstands
  case h_6 =>
    cases hm
    exact leaves_leave trivial
  case h_7 =>
    cases hm
    exact leaves_leave trivial
  case h_8 => cases hm

theorem read_found {id : Uuid} {invoice : PurchaseInvoice}
    (h : (run (readToPost id companyId) db).1 = .ok invoice ∨ (run (readToVoid id companyId) db).1 = .ok invoice) :
    db.buying.purchaseInvoices.find? invoice.id = some invoice := by
  have hfind : db.buying.purchaseInvoices.find? id = some invoice := by
    rcases h with h | h
    · rcases run_cases (readToPost id companyId) db with ⟨found, db', hc, hrun⟩ | ⟨_, -, hrun⟩
      · rw [hrun] at h
        cases h
        simp only [readToPost, commits_bind, commits_findEntity, commits_rejectIf,
          commits_pure] at hc
        obtain ⟨_, _, ⟨⟨hfind, -⟩, rfl⟩, _, _, ⟨-, rfl⟩, rfl, rfl⟩ := hc
        exact hfind
      · rw [hrun] at h
        cases h
    · rcases run_cases (readToVoid id companyId) db with ⟨found, db', hc, hrun⟩ | ⟨_, -, hrun⟩
      · rw [hrun] at h
        cases h
        simp only [readToVoid, commits_bind, commits_findEntity, commits_rejectIf,
          commits_pure] at hc
        obtain ⟨_, _, ⟨⟨hfind, -⟩, rfl⟩, _, _, ⟨-, rfl⟩, _, _, ⟨-, rfl⟩, rfl, rfl⟩ := hc
        exact hfind
      · rw [hrun] at h
        cases h
  have hid : invoice.id = id := Table.key_of_find? hfind
  rw [hid]
  exact hfind

/-- What follows the synchronisation writes no other document. -/
theorem afterMove_leaves {after : After} {m : Move Db Unit After} (hgood : Good db)
    (hserved : Served (call k) started db) (hok : AfterOk db after)
    (hm : afterMove (call k) l after db = some m) : Leaves call db k (m.map (.synced started)) := by
  unfold afterMove at hm
  split at hm
  case h_1 =>
    split at hm
    case h_1 =>
      cases hm
      exact leaves_goto ⟨hserved, trivial⟩
    case h_2 =>
      split at hm
      · cases hm
        exact leaves_goto ⟨hserved, trivial⟩
      · cases hm
        exact leaves_leave ⟨hserved, trivial⟩
    case h_3 =>
      split at hm
      · rename_i hread
        cases hm
        exact leaves_goto ⟨hserved, _, read_found (.inl hread), .refl _⟩
      · cases hm
        exact leaves_leave ⟨hserved, trivial⟩
    case h_4 =>
      split at hm
      · rename_i hread
        cases hm
        have hfind := read_found (.inr hread)
        exact leaves_goto ⟨hserved, _, hfind, ⟨rfl, rfl, rfl⟩⟩
      · cases hm
        exact leaves_leave ⟨hserved, trivial⟩
    case h_5 => cases hm
  case h_2 =>
    split at hm
    case h_1 =>
      split at hm
      · cases hm
        obtain ⟨row, hrow, hsame⟩ := hok
        exact leaves_goto ⟨hserved, row, hrow, ⟨hsame.company, hsame.order, hsame.number⟩⟩
      · cases hm
        exact leaves_leave ⟨hserved, trivial⟩
    case h_2 => cases hm
  case h_3 =>
    obtain ⟨seen, -, rfl⟩ := Option.map_eq_some_iff.1 hm
    exact leaves_goto ⟨hserved, hok⟩
  case h_4 =>
    obtain ⟨row, hrow, rfl⟩ := Option.map_eq_some_iff.1 hm
    obtain ⟨row', hrow', hsame⟩ := hok
    obtain rfl := Option.some.inj (hrow.symm.trans hrow')
    obtain ⟨hstands, hold⟩ := save_stands hrow hsame
    refine ⟨⟨hgood.of_same hstands hold, hstands.served hserved, trivial⟩, fun db' q heq => ?_⟩
    obtain ⟨rfl, -⟩ := Move.commit.inj heq
    exact hstands
  case h_5 => cases hm

theorem move_leaves {m : Move Db Unit Phase} (hgood : Good db)
    (hok : PhaseOk call held db k p) (hm : protocol call k l p db = some m)
    (hadmits : ∀ started orders rs is idOf, p = .reading started orders (some rs) (some is) →
      l = .insert idOf → Admits db (newOrders orders rs is)) : Leaves call db k m := by
  unfold protocol at hm
  split at hm
  case h_1 =>
    unfold receiveMove at hm
    split at hm
    · split at hm
      · rename_i companyId userId now dto _
        cases hm
        obtain ⟨hstands, hbuying⟩ := receive_stands companyId userId now dto db
        refine ⟨⟨hgood.of_same hstands fun i hi => ?_, trivial⟩, fun db' q heq => ?_⟩
        · rw [hbuying] at hi
          exact ⟨i, hi, rfl, .refl i⟩
        · obtain ⟨rfl, -⟩ := Move.commit.inj heq
          exact hstands
      · cases hm
    · cases hm
  case h_2 =>
    obtain ⟨m', hm', rfl⟩ := Option.map_eq_some_iff.1 hm
    exact afterMove_leaves hgood hok.1 hok.2 hm'
  case h_3 companyId supplierId hscope hnot =>
    exact syncMove_leaves hscope hgood hok hm hadmits

/-- A step that meets the condition keeps the invariant. -/
theorem inv_step (hinv : s.Inv Good (PhaseOk call)) (hunraced : Unraced s (k, l))
    (hs : (machine call).step s (k, l) = some s') : s'.Inv Good (PhaseOk call) := by
  have hleaves : ∀ m, protocol call k l (s.phase k) s.db = some m → Leaves call s.db k m := by
    intro m hm
    have hok := hinv.phase k
    refine move_leaves hinv.db hok hm fun started orders rs is idOf hp hl => ?_
    subst hl
    rw [hp] at hok
    simp only [Unraced, hp] at hunraced
    obtain ⟨companyId, supplierId, -, hread⟩ := hok
    exact (hinv.db.admits_iff hread.newOrders.1).2 hunraced
  refine hinv.step hs (fun m hm => ?_) fun db' q hm j _ held _ hj => ?_
  · have hown := (hleaves m hm).1
    cases m with
    | goto p => exact hown
    | acquire key p => exact hown
    | commit db' p => exact hown
    | leave p => exact hown
  · exact phaseOk_stands hj ((hleaves _ hm).2 db' q rfl)

theorem exact_of_inv (hinv : s.Inv Good (PhaseOk call)) : Exact call s := by
  refine ⟨fun i hi j hj horder => hinv.db.atMostOne hi hj horder, hinv.db.received,
    fun k started after hp => ?_, fun k error hp => ?_⟩
  · have hok := hinv.phase k
    rw [hp] at hok
    exact hok.1
  · have hok := hinv.phase k
    rw [hp] at hok
    exact hok

/-- An insertion for an order that has got its invoice is refused. -/
theorem unraced_of_exact (hinv : s.Inv Good (PhaseOk call))
    (hs : (machine call).step s (k, l) = some s') (hexact : Exact call s') :
    Unraced s (k, l) := by
  have hok := hinv.phase k
  unfold Unraced
  split
  case h_2 => trivial
  case h_1 k' idOf heq =>
    obtain ⟨rfl, rfl⟩ := Prod.mk.inj heq
    split
    case h_2 => trivial
    case h_1 started orders rs is hp =>
      rw [hp] at hok
      obtain ⟨companyId, supplierId, hscope, hread⟩ := hok
      refine (hinv.db.admits_iff hread.newOrders.1).1 ?_
      by_contra hnot
      obtain ⟨m, hm, hphase⟩ := Shared.step_phase hs
      have hnonempty : newOrders orders rs is ≠ [] := by
        intro hnil
        rw [hnil] at hnot
        exact hnot ⟨fun _ h => (List.not_mem_nil h).elim, List.nodup_nil⟩
      have hm' : syncMove companyId supplierId (.insert idOf) (.reading started orders rs is) s.db =
          some m := by
        rw [hp] at hm
        unfold protocol at hm
        rw [hscope] at hm
        exact hm
      simp only [syncMove, if_neg hnonempty, if_pos hnot] at hm'
      cases hm'
      have hrefused : s'.phase k =
          .refused (.duplicateEntry "purchase_invoices.company_id_invoice_number") := by
        rw [hphase, Function.update_self]
        rfl
      exact hexact.notRefused k _ hrefused

/-- The synchronisation is exact exactly when no order gets its invoice between the read of the
invoices and the insertion of one for it. -/
theorem sync_iff (call : ℕ → Call) (hgood : Good db) {ls : List (ℕ × Label)}
    (hrun : (machine call).Run (.start db .called) ls s) :
    (∀ ks, ks <+: ls → ∀ s₁, (machine call).Run (.start db .called) ks s₁ → Exact call s₁) ↔
      (machine call).RunWith Unraced (.start db .called) ls s :=
  Machine.prefixes_iff_runWith (fun _ _ _ hinv hunraced hs => inv_step hinv hunraced hs)
    (fun _ hinv => exact_of_inv hinv)
    (fun _ _ _ hinv hs hexact => unraced_of_exact hinv hs hexact)
    (Shared.inv_start hgood fun _ _ => trivial) hrun

end

namespace SyncDemo

def order : PurchaseOrder :=
  { id := 50, purchaseOrderNumber := "PO-2026-000001", supplierId := 20, companyId := 10
    branchId := none, warehouseId := none, status := .Approved, grandTotal := 10000
    paidAmount := 0, balanceAmount := 10000, currency := "MMK", updatedBy := none, items := [] }

def receipt : GoodsReceipt :=
  { id := 70, receiptNumber := "GR-2026-000001", purchaseOrderId := 50, warehouseId := 30
    supplierId := 20, companyId := 10, receiptDate := ⟨⟨2026, 3, 1⟩, 0⟩, receivedBy := 7, items := [] }

def database : Db where
  stock := { goodsReceipts := [receipt] }
  buying := { purchaseOrders := .ofRows [order] }

def calls (i : ℕ) : Call :=
  if i = 2 then .post 900 10 7 ⟨⟨2026, 3, 2⟩, 0⟩ else .list 10 none

def reads (i : ℕ) : List (ℕ × Label) :=
  [(i, .start), (i, .readOrders), (i, .readReceipts), (i, .readInvoices)]

def inTurn : List (ℕ × Label) :=
  reads 0 ++ (0, .insert fun _ => 900) :: (0, .read) :: reads 2 ++
    [(2, .insert id), (2, .read), (2, .check), (2, .reread), (2, .write)]

def together : List (ℕ × Label) :=
  reads 0 ++ reads 1 ++ [(0, .insert fun _ => 900), (1, .insert fun _ => 901)]

theorem database_good : Good database := by
  refine ⟨fun o ho => ?_, fun o ho o' ho' _ _ => ?_, ?_, ?_, ?_⟩
  · obtain rfl := List.mem_singleton.1 ho
    exact ⟨"2026-000001".toList, by decide⟩
  · rw [List.mem_singleton.1 ho, List.mem_singleton.1 ho']
  all_goals
    intro i hi
    cases hi

def isRefused : Phase → Bool
  | .refused _ => true
  | _ => false

end SyncDemo

open SyncDemo in
theorem sync_iff_in_turn :
    ∃ s, (machine calls).Run (.start database .called) inTurn s ∧
      (s.db.buying.purchaseInvoices.rows.map fun i => (i.id, i.invoiceNumber, i.status)) =
        [(900, "PINV-2026-000001", .Posted)] ∧ Exact calls s := by
  obtain ⟨s, hrun, hs⟩ := Machine.exists_runWith (machine calls) Unraced (.start database .called)
    inTurn
    (fun s => (s.db.buying.purchaseInvoices.rows.map fun i => (i.id, i.invoiceNumber, i.status)) =
      [(900, "PINV-2026-000001", .Posted)]) (by decide +kernel)
  exact ⟨s, hrun.run, of_decide_eq_true hs,
    (sync_iff calls database_good hrun.run).2 hrun _ List.prefix_rfl s hrun.run⟩

open SyncDemo in
/-- Two lists that both find the invoice missing: the second to insert it fails. -/
theorem second_list_refused :
    ∃ s, (machine calls).Run (.start database .called) together s ∧ ¬ Exact calls s := by
  obtain ⟨s, hrun, hs⟩ := Machine.exists_runWith (machine calls) (fun _ _ => True)
    (.start database .called) together (fun s => isRefused (s.phase 1)) (by decide +kernel)
  refine ⟨s, hrun.run, fun hexact => ?_⟩
  cases hp : s.phase 1 with
  | refused error => exact hexact.notRefused 1 error hp
  | _ =>
    rw [hp] at hs
    cases hs

end FashionErp.InvoiceSync
