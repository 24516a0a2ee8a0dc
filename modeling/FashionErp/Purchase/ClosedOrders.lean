/-
Closed purchase orders, over whole runs.

`close` asks that everything ordered has been received or rejected and nothing is owed.
-/
import FashionErp.Payments.PayablesRun
import FashionErp.Purchase.PurchaseOrders

namespace FashionErp

open Lib Lib.Tx

/-! ## Orders and invoices that only differ in what is paid -/

structure SameShape (tables tables' : PurchaseTables) : Prop where
  orders : ∀ id o', tables'.purchaseOrders.find? id = some o' →
    ∃ o, tables.purchaseOrders.find? id = some o ∧ o'.status = o.status ∧ o'.items = o.items ∧
      o'.companyId = o.companyId ∧ o'.grandTotal = o.grandTotal
  kept : ∀ id i, tables.purchaseInvoices.find? id = some i →
    ∃ i', tables'.purchaseInvoices.find? id = some i' ∧ i'.purchaseOrderId = i.purchaseOrderId ∧
      i'.grandTotal = i.grandTotal ∧ i'.creditedAmount = i.creditedAmount
  invoices : ∀ id i', tables'.purchaseInvoices.find? id = some i' →
    ∃ i, tables.purchaseInvoices.find? id = some i ∧ i'.purchaseOrderId = i.purchaseOrderId
  returns : tables'.purchaseReturns = tables.purchaseReturns

theorem SameShape.refl (tables : PurchaseTables) : SameShape tables tables where
  orders _ o' ho' := ⟨o', ho', rfl, rfl, rfl, rfl⟩
  kept _ i hi := ⟨i, hi, rfl, rfl, rfl⟩
  invoices _ i' hi' := ⟨i', hi', rfl⟩
  returns := rfl

variable {t : PurchaseTables}

theorem SameShape.trans {t₁ t₂ : PurchaseTables} (h₁ : SameShape t t₁) (h₂ : SameShape t₁ t₂) :
    SameShape t t₂ where
  orders id o₂ ho₂ := by
    obtain ⟨o₁, ho₁, hstatus₂, hitems₂, hcompany₂, htotal₂⟩ := h₂.orders id o₂ ho₂
    obtain ⟨o, ho, hstatus₁, hitems₁, hcompany₁, htotal₁⟩ := h₁.orders id o₁ ho₁
    exact ⟨o, ho, hstatus₂.trans hstatus₁, hitems₂.trans hitems₁, hcompany₂.trans hcompany₁,
      htotal₂.trans htotal₁⟩
  kept id i hi := by
    obtain ⟨i₁, hi₁, horder₁, htotal₁, hcredited₁⟩ := h₁.kept id i hi
    obtain ⟨i₂, hi₂, horder₂, htotal₂, hcredited₂⟩ := h₂.kept id i₁ hi₁
    exact ⟨i₂, hi₂, horder₂.trans horder₁, htotal₂.trans htotal₁, hcredited₂.trans hcredited₁⟩
  invoices id i₂ hi₂ := by
    obtain ⟨i₁, hi₁, horder₂⟩ := h₂.invoices id i₂ hi₂
    obtain ⟨i, hi, horder₁⟩ := h₁.invoices id i₁ hi₁
    exact ⟨i, hi, horder₂.trans horder₁⟩
  returns := h₂.returns.trans h₁.returns

variable {i : PurchaseInvoice} {tables : PurchaseTables} {o : PurchaseOrder} {id : Uuid}

theorem SameShape.settle (userId : Uuid) (paid : Cents) (hi : t.purchaseInvoices.find? id = some i)
    (ho : t.purchaseOrders.find? i.purchaseOrderId = some o) :
    SameShape t (PurchaseInvoicesService.settle userId paid i o t) := by
  have hikey : key (PurchaseInvoicesService.settledInvoice userId paid i) = key i := rfl
  have hokey : key (PurchaseInvoicesService.settledOrder userId paid i o) = key o := rfl
  refine ⟨fun j o' ho' => ?_, fun j x hx => ?_, fun j x hx => ?_, rfl⟩
  · rcases Table.find?_save_over ho hokey ho' with ⟨rfl, rfl⟩ | ⟨-, hold⟩
    · exact ⟨o, ho, rfl, rfl, rfl, rfl⟩
    · exact ⟨o', hold, rfl, rfl, rfl, rfl⟩
  · by_cases hj : j = id
    · subst hj
      obtain rfl := Option.some.inj (hi.symm.trans hx)
      refine ⟨PurchaseInvoicesService.settledInvoice userId paid i, ?_, rfl, rfl, rfl⟩
      have hid : i.id = j := Table.key_of_find? hi
      have hkey : key (PurchaseInvoicesService.settledInvoice userId paid i) = j := hid
      show (t.purchaseInvoices.save _).find? j = _
      rw [Table.find?_save, if_pos hkey]
    · refine ⟨x, ?_, rfl, rfl, rfl⟩
      have hkey : key (PurchaseInvoicesService.settledInvoice userId paid i) ≠ j := by
        intro e
        exact hj (e.symm.trans (hikey.trans (Table.key_of_find? hi)))
      show (t.purchaseInvoices.save _).find? j = _
      rw [Table.find?_save_ne _ _ _ hkey]
      exact hx
  · rcases Table.find?_save_over hi hikey hx with ⟨rfl, rfl⟩ | ⟨-, hold⟩
    · exact ⟨i, hi, rfl⟩
    · exact ⟨x, hold, rfl⟩

/-! ## What an order owes -/

structure PurchaseInvoice.Owed (i : PurchaseInvoice) (orders : Table PurchaseOrder) : Prop where
  nonneg : 0 ≤ i.balanceAmount
  order : ∃ o, orders.find? i.purchaseOrderId = some o ∧
    o.balanceAmount = i.grandTotal - i.paidAmount - i.creditedAmount ∧
    i.balanceAmount ≤ o.balanceAmount

structure Accounted (tables : PurchaseTables) : Prop where
  agrees : ∃ paidOn, Agrees paidOn tables
  owed : ∀ i ∈ tables.purchaseInvoices.rows, i.Owed tables.purchaseOrders

/-- Writing an invoice and its order leaves the other invoices alone: no two share an
order. -/
theorem Accounted.owed_rewrite (i' : PurchaseInvoice)
    (o' : PurchaseOrder) (h : Accounted tables) (hi : tables.purchaseInvoices.find? id = some i)
    (ho : tables.purchaseOrders.find? i.purchaseOrderId = some o) (hsame : i'.SameDocument i)
    (hoid : o'.id = o.id) (hnonneg : 0 ≤ i'.balanceAmount)
    (hbalance : o'.balanceAmount = i'.grandTotal - i'.paidAmount - i'.creditedAmount)
    (hle : i'.balanceAmount ≤ o'.balanceAmount) :
    ∀ x ∈ (tables.purchaseInvoices.save i').rows, x.Owed (tables.purchaseOrders.save o') := by
  obtain ⟨paidOn, hagrees⟩ := h.agrees
  have hokey : key o' = i.purchaseOrderId := hoid.trans (Table.key_of_find? ho)
  intro x hx
  rcases (Table.mem_save _ _ _).1 hx with rfl | ⟨hx, hne⟩
  · refine ⟨hnonneg, o', ?_, hbalance, hle⟩
    rw [hsame.order, Table.find?_save, if_pos hokey]
  · obtain ⟨hxnonneg, y, hy, hybalance, hyle⟩ := h.owed x hx
    refine ⟨hxnonneg, y, ?_, hybalance, hyle⟩
    rw [Table.find?_save_ne]
    · exact hy
    · intro e
      have hxi := hagrees.oneInvoice x hx i (Table.mem_of_find? hi) (e.symm.trans hokey)
      exact hne (hxi.trans hsame.id.symm)

/-- Paying and taking back keep the account, up to what the invoice has room for. -/
theorem Accounted.settle {amount : Cents} (userId : Uuid)
    (h : Accounted tables) (hi : tables.purchaseInvoices.find? id = some i)
    (ho : tables.purchaseOrders.find? i.purchaseOrderId = some o)
    (hroom : i.paidAmount + amount ≤ i.grandTotal - i.creditedAmount) :
    Accounted (PurchaseInvoicesService.settle userId (i.paidAmount + amount) i o tables) := by
  obtain ⟨paidOn, hagrees⟩ := h.agrees
  refine ⟨⟨_, hagrees.settle userId hi ho fun _ => hroom⟩, ?_⟩
  refine h.owed_rewrite (PurchaseInvoicesService.settledInvoice userId (i.paidAmount + amount) i)
    (PurchaseInvoicesService.settledOrder userId (i.paidAmount + amount) i o) hi ho
    ⟨rfl, rfl, rfl⟩ rfl (Int.sub_nonneg_of_le hroom) ?_ le_rfl
  show i.grandTotal - i.creditedAmount - (i.paidAmount + amount) =
    i.grandTotal - (i.paidAmount + amount) - i.creditedAmount
  abel

theorem Accounted.paid_le (h : Accounted tables) (hi : tables.purchaseInvoices.find? id = some i) :
    i.paidAmount ≤ i.grandTotal - i.creditedAmount := by
  obtain ⟨hnonneg, o, -, hbalance, hle⟩ := h.owed i (Table.mem_of_find? hi)
  lia

/-! ## The loops of the payment services -/

structure Reckoned (tables tables' : PurchaseTables) : Prop where
  accounted : Accounted tables'
  shape : SameShape tables tables'

theorem Reckoned.refl (h : Accounted tables) : Reckoned tables tables :=
  ⟨h, .refl tables⟩

theorem Reckoned.trans {t₁ t₂ : PurchaseTables} (h₁ : Reckoned t t₁) (h₂ : Reckoned t₁ t₂) :
    Reckoned t t₂ :=
  ⟨h₂.accounted, h₁.shape.trans h₂.shape⟩

theorem forM_reckoned {α : Type} {body : α → DbTx Unit} {xs : List α} {db db' : Db} {u : Unit}
    (hbody : ∀ x ∈ xs, ∀ db db', Accounted db.buying → Commits (body x) db ⟨⟩ db' →
      Reckoned db.buying db'.buying)
    (h : Accounted db.buying) (hc : Commits (xs.forM body) db u db') :
    Reckoned db.buying db'.buying := by
  refine forM_invariant (fun _ s => Reckoned db.buying s.buying)
    (fun done x rest s s' heq hI hstep => ?_) (.refl h) hc
  have hx : x ∈ xs := by
    rw [heq]
    exact List.mem_append_right _ List.mem_cons_self
  exact hI.trans (hbody x hx s s' hI.accounted hstep)

namespace PaymentsService

variable {companyId userId : Uuid}

theorem applyPayment_reckoned {amount : Cents} {db db' : Db} {u : Unit} (h : Accounted db.buying)
    (hc : Commits (PurchaseInvoicesService.applyPayment id companyId amount userId) db u db') :
    Reckoned db.buying db'.buying := by
  obtain ⟨i, o, hfound, -, hroom, rfl⟩ :=
    (PurchaseInvoicesService.commits_applyPayment _ _ _ _ _ _ _).1 hc
  exact ⟨h.settle userId hfound.row hfound.order hroom, .settle userId _ hfound.row hfound.order⟩

theorem applyTarget_reckoned {allocations : List PaymentAllocation} {t : AllocationTarget}
    (ht : t.1 ≠ .PurchaseOrder) {db db' : Db} (h : Accounted db.buying)
    (hc : Commits (applyTarget companyId userId allocations t) db ⟨⟩ db') :
    Reckoned db.buying db'.buying := by
  obtain ⟨type, id⟩ := t
  cases type with
  | PurchaseOrder => exact absurd rfl ht
  | PurchaseInvoice => exact applyPayment_reckoned h hc
  | Sale =>
    obtain ⟨sale, -, -, -, rfl⟩ := (SalesService.commits_applyPayment _ _ _ _ _ _ _).1 hc
    exact .refl h
  | SaleReturn =>
    simp only [applyTarget, SaleReturnsService.applyRefund, SaleReturnsService.findByIdInCompany,
      SaleReturnsService.saveReturn, commits_bind, commits_get, commits_orReject,
      commits_rejectIf, commits_modify] at hc
    obtain ⟨_, _, ⟨_, _, ⟨rfl, rfl⟩, -, rfl⟩, _, _, ⟨-, rfl⟩, _, _, ⟨-, rfl⟩, rfl⟩ := hc
    exact .refl h

theorem unapplyTotal_reckoned {e : Uuid × Cents} (he : 0 ≤ e.2) {db db' : Db}
    (h : Accounted db.buying) (hc : Commits (unapplyTotal companyId userId e) db ⟨⟩ db') :
    Reckoned db.buying db'.buying := by
  obtain ⟨i, o, hfound, -, rfl⟩ :=
    (PurchaseInvoicesService.commits_unapplyPayment _ _ _ _ _ _ _).1 hc
  have hpaid := h.paid_le hfound.row
  have hroom : i.paidAmount + -e.2 ≤ i.grandTotal - i.creditedAmount := by lia
  have hsettle := h.settle userId hfound.row hfound.order hroom
  rw [← sub_eq_add_neg] at hsettle
  exact ⟨hsettle, .settle userId _ hfound.row hfound.order⟩

variable {now : Instant}

theorem Created.reckoned {dto : CreatePaymentDto} {db db' : Db} {payment : Payment}
    (h : Created companyId userId now dto db payment db')
    (hvalid : ValidAllocations dto.direction dto.allocations) (hdb : Accounted db.buying) :
    Reckoned db.buying db'.buying := by
  obtain ⟨db₁, db₂, hbuying₁, hbuying', hloop⟩ := h.targets
  rw [hbuying', ← hbuying₁]
  refine forM_reckoned (fun t ht _ _ hI hstep => applyTarget_reckoned ?_ hI hstep)
    (by rw [hbuying₁]; exact hdb) hloop
  obtain ⟨a, ha, rfl⟩ := mem_sortedTargets.1 ht
  have hpair : a.target.1 = VALID_DIRECTION_REFERENCE_PAIRS dto.direction := (hvalid a ha).1
  rw [hpair]
  cases dto.direction <;> decide

theorem Reversed.reckoned {reason : String} {db db' : Db} {payment reversed : Payment}
    (h : Reversed id companyId userId now reason db payment reversed db')
    (hpos : ∀ a ∈ payment.allocations, 0 < a.allocatedAmount) (hdb : Accounted db.buying) :
    Reckoned db.buying db'.buying := by
  obtain ⟨db₁, hbuying, hloop⟩ := h.targets
  rw [hbuying]
  exact forM_reckoned (fun e he _ _ hI hstep =>
    unapplyTotal_reckoned (totalsById_nonneg hpos e he) hI hstep) hdb hloop

theorem reallocate_reckoned {dto : ReallocatePaymentDto} {db db' : Db}
    {reallocated : Payment} (h : PayablesInv db) (hdb : Accounted db.buying)
    (hc : Commits (reallocate id companyId userId now dto) db reallocated db') :
    Reckoned db.buying db'.buying := by
  obtain ⟨payment, db₁, db₂, hfind, -, -, -, -, -, hunapply, happly, -, rfl⟩ := reallocate_spec hc
  have hpos := h.positive payment (Table.mem_of_find? hfind)
  have htaken := forM_reckoned (fun e he _ _ hI hstep =>
    unapplyTotal_reckoned (totalsById_nonneg hpos e he) hI hstep) hdb hunapply
  have hcleared : ∀ paying, Accounted ({ db₁ with paying := paying } : Db).buying :=
    fun _ => htaken.accounted
  have happlied := forM_reckoned (fun e _ _ _ hI hstep => applyPayment_reckoned hI hstep)
    (hcleared _) happly
  exact htaken.trans happlied

/-! ### No payment operation touches the stock -/

theorem create_stock {dto : CreatePaymentDto} {key : Option String} {db db' : Db}
    {result : Payment × Bool} (hc : Commits (create companyId userId now dto key) db result db') :
    db'.stock = db.stock := by
  rcases create_cases hc with ⟨-, rfl⟩ | ⟨-, -, hrun⟩
  · rfl
  · obtain ⟨number, id, db₁, db₂, db₃, db₄, hseq₁, hloop, hseq₃, -, -, -, hpost, event, hevent⟩ :=
      runCreate_spec hrun
    have hdocs := applyTargets_documents hloop
    obtain ⟨hledger, -⟩ := postToLedger_touches hpost
    rw [hevent.db_eq, hledger]
    show db₃.stock = db.stock
    rw [hseq₃, hdocs, hseq₁]

theorem reverse_stock {reason : String} {db db' : Db}
    {reversed : Payment} (hc : Commits (reverse id companyId userId now reason) db reversed db') :
    db'.stock = db.stock := by
  obtain ⟨payment, db₁, journal, -, -, -, -, -, hloop, -, hjournal⟩ := reverse_spec hc
  have hdocs := forM_documents (fun _ _ _ _ => unapplyTotal_documents) hloop
  obtain ⟨hledger, -⟩ := AccountingPostingService.reversePayment_touches hjournal
  rw [hledger]
  show db₁.stock = db.stock
  rw [hdocs]

theorem reallocate_stock {dto : ReallocatePaymentDto} {db db' : Db} {reallocated : Payment}
    (hc : Commits (reallocate id companyId userId now dto) db reallocated db') :
    db'.stock = db.stock := by
  obtain ⟨payment, db₁, db₂, -, -, -, -, -, -, hunapply, happly, -, rfl⟩ := reallocate_spec hc
  have hdocs₁ := forM_documents (fun _ _ _ _ => unapplyTotal_documents) hunapply
  have hdocs₂ := forM_documents (fun _ _ _ _ => applyTotal_documents) happly
  show db₂.stock = db.stock
  rw [hdocs₂]
  show db₁.stock = db.stock
  rw [hdocs₁]

end PaymentsService

/-! ## What is claimed -/

open PurchaseOrdersService in
/-- A closed order is settled: everything ordered has been received or rejected, and
nothing is owed. -/
def ClosedSettled (db : Db) : Prop :=
  ∀ o ∈ db.buying.purchaseOrders.rows, o.status = .Closed →
    (∀ item ∈ o.items, item.quantity ≤ handledByItemId db o.companyId o.id item.id) ∧
      o.balanceAmount = 0

inductive PurchaseRequest
  | payables (request : PayablesRequest)
  | changeStatus (t : PurchaseOrdersService.Transition) (id companyId userId : Uuid) (now : Instant)
  | receiveGoods (companyId userId : Uuid) (now : Instant)
      (dto : GoodsReceiptsService.CreateGoodsReceiptDto)

def PurchaseRequest.answer (db : Db) : PurchaseRequest → Db
  | payables request => request.answer db
  | changeStatus t id companyId userId now =>
    (run (PurchaseOrdersService.changeStatus t id companyId userId now) db).2
  | receiveGoods companyId userId now dto =>
    (run (GoodsReceiptsService.create companyId userId now dto) db).2

def purchasingMachine : Machine Db PurchaseRequest where
  step db request := some (request.answer db)

def OrderOpen (db : Db) (invoiceId : Uuid) : Prop :=
  ∀ i ∈ db.buying.purchaseInvoices.find? invoiceId,
    ∀ o ∈ db.buying.purchaseOrders.find? i.purchaseOrderId, o.status ≠ .Closed

instance (db : Db) (invoiceId : Uuid) : Decidable (OrderOpen db invoiceId) :=
  inferInstanceAs (Decidable (∀ i ∈ db.buying.purchaseInvoices.find? invoiceId,
    ∀ o ∈ db.buying.purchaseOrders.find? i.purchaseOrderId, o.status ≠ .Closed))

def Accepted {α : Type} (t : DbTx α) (db : Db) : Prop := (run t db).1.isOk = true

instance {α : Type} (t : DbTx α) (db : Db) : Decidable (Accepted t db) :=
  inferInstanceAs (Decidable (_ = true))

/-- What closed orders were paid stays allocated to them: no payment allocated to one
is reversed, and a reallocation moves nothing from or to one. -/
def KeepsClosedPaid (db : Db) : PurchaseRequest → Prop
  | .payables (.reversePayment id companyId userId now reason) =>
    Accepted (PaymentsService.reverse id companyId userId now reason) db →
      ∀ payment ∈ db.paying.payments.find? id, ∀ a ∈ payment.allocations, OrderOpen db a.referenceId
  | .payables (.reallocatePayment id companyId userId now dto) =>
    Accepted (PaymentsService.reallocate id companyId userId now dto) db →
      ∀ payment ∈ db.paying.payments.find? id, ∀ i ∈ db.buying.purchaseInvoices.rows,
        OrderOpen db i.id ∨ net (allocationPostings dto.allocations) (invoiceTarget i.id) =
          net (allocationPostings payment.allocations) (invoiceTarget i.id)
  | _ => True

instance (db : Db) (request : PurchaseRequest) : Decidable (KeepsClosedPaid db request) := by
  unfold KeepsClosedPaid
  split <;> infer_instance

/-! ## The invariant -/

/-- What every reachable state satisfies, whatever was reversed: the payables agree,
every order owes the rest, and no return and no item is worth anything negative. -/
structure PurchaseInv (db : Db) : Prop where
  payables : PayablesInv db
  owed : ∀ i ∈ db.buying.purchaseInvoices.rows, i.Owed db.buying.purchaseOrders
  returns : ∀ r ∈ db.buying.purchaseReturns.rows, 0 ≤ r.subtotal
  costs : ∀ o ∈ db.buying.purchaseOrders.rows, ∀ item ∈ o.items, 0 ≤ item.unitCostSnapshot

theorem PurchaseInv.accounted {db : Db} (h : PurchaseInv db) : Accounted db.buying :=
  ⟨⟨_, h.payables.agrees⟩, h.owed⟩

theorem PurchaseInv.balance_nonneg {db : Db} (h : PurchaseInv db)
    (ho : o ∈ db.buying.purchaseOrders.rows) : 0 ≤ o.balanceAmount := by
  have hfind : db.buying.purchaseOrders.find? o.id = some o := (Table.mem_rows_iff _ _).1 ho
  by_cases hinvoiced : ∃ i ∈ db.buying.purchaseInvoices.rows, i.purchaseOrderId = o.id
  · obtain ⟨i, hi, hio⟩ := hinvoiced
    obtain ⟨hnonneg, o₁, ho₁, -, hle⟩ := h.owed i hi
    rw [hio, hfind] at ho₁
    cases ho₁
    exact hnonneg.trans hle
  · obtain ⟨-, hbalance, htotal⟩ := h.payables.agrees.uninvoiced o ho fun i hi hio =>
      hinvoiced ⟨i, hi, hio⟩
    rw [hbalance]
    exact htotal

theorem PurchaseInv.of_reckoned {db db' : Db} (h : PurchaseInv db) (hpayables : PayablesInv db')
    (hreckoned : Reckoned db.buying db'.buying) : PurchaseInv db' := by
  refine ⟨hpayables, hreckoned.accounted.owed, ?_, fun o' ho' item hitem => ?_⟩
  · rw [hreckoned.shape.returns]
    exact h.returns
  · obtain ⟨o, ho, -, hitems, -⟩ := hreckoned.shape.orders _ o' ((Table.mem_rows_iff _ _).1 ho')
    rw [hitems] at hitem
    exact h.costs o (Table.mem_of_find? ho) item hitem

theorem PurchaseInv.of_same {db db' : Db} (h : PurchaseInv db) (hpayables : PayablesInv db')
    (hbuying : db'.buying = db.buying) : PurchaseInv db' := by
  refine ⟨hpayables, ?_, ?_, ?_⟩
  · rw [hbuying]
    exact h.owed
  · rw [hbuying]
    exact h.returns
  · rw [hbuying]
    exact h.costs

/-- Closed orders stay settled where they keep their balance and no receipt is lost. -/
theorem ClosedSettled.mono {db db' : Db} (h : ClosedSettled db)
    (hhandled : ∀ companyId orderId itemId,
      PurchaseOrdersService.handledByItemId db companyId orderId itemId ≤
        PurchaseOrdersService.handledByItemId db' companyId orderId itemId)
    (horders : ∀ o' ∈ db'.buying.purchaseOrders.rows, o'.status = .Closed →
      ∃ o ∈ db.buying.purchaseOrders.rows, o.status = .Closed ∧ o'.id = o.id ∧
        o'.companyId = o.companyId ∧ o'.items = o.items ∧ o'.balanceAmount = o.balanceAmount) :
    ClosedSettled db' := by
  intro o' ho' hclosed'
  obtain ⟨o, ho, hclosed, hid, hcompany, hitems, hbalance⟩ := horders o' ho' hclosed'
  obtain ⟨hhandled₀, hzero⟩ := h o ho hclosed
  refine ⟨fun item hitem => ?_, hbalance.trans hzero⟩
  rw [hitems] at hitem
  rw [hid, hcompany]
  exact (hhandled₀ item hitem).trans (hhandled _ _ _)

theorem handledByItemId_congr {db db' : Db} (h : db'.stock.goodsReceipts = db.stock.goodsReceipts)
    (companyId orderId itemId : Uuid) :
    PurchaseOrdersService.handledByItemId db' companyId orderId itemId =
      PurchaseOrdersService.handledByItemId db companyId orderId itemId := by
  rw [PurchaseOrdersService.handledByItemId, PurchaseOrdersService.handledByItemId,
    PurchaseInvoicesService.goodsReceiptsOf, PurchaseInvoicesService.goodsReceiptsOf, h]

theorem ClosedSettled.of_same {db db' : Db} (h : ClosedSettled db)
    (horders : db'.buying.purchaseOrders = db.buying.purchaseOrders)
    (hreceipts : db'.stock.goodsReceipts = db.stock.goodsReceipts) : ClosedSettled db' := by
  refine h.mono (fun _ _ _ => (handledByItemId_congr hreceipts _ _ _).ge) fun o ho hclosed => ?_
  rw [horders] at ho
  exact ⟨o, ho, hclosed, rfl, rfl, rfl, rfl⟩

/-! ## What a payment operation does to closed orders -/

section

variable {db db' : Db}

/-- A payment operation changes the balance of a closed order by what it changes in
the allocations to its invoice. -/
theorem closed_balance (h : PurchaseInv db) (h' : PurchaseInv db') (hclosed : ClosedSettled db)
    (hshape : SameShape db.buying db'.buying) {i : PurchaseInvoice}
    (hi : i ∈ db.buying.purchaseInvoices.rows) (hnot : ¬ OrderOpen db i.id) :
    ∃ o' ∈ db'.buying.purchaseOrders.rows, o'.status = .Closed ∧
      o'.balanceAmount = allocatedTo db i.id - allocatedTo db' i.id := by
  have hfind : db.buying.purchaseInvoices.find? i.id = some i := (Table.mem_rows_iff _ _).1 hi
  obtain ⟨-, o, ho, hbalance, -⟩ := h.owed i hi
  have hstatus : o.status = .Closed := by
    by_contra hne
    refine hnot fun x hx y hy => ?_
    obtain rfl := Option.some.inj (hfind.symm.trans hx)
    obtain rfl := Option.some.inj (ho.symm.trans hy)
    exact hne
  obtain ⟨-, hzero⟩ := hclosed o (Table.mem_of_find? ho) hstatus
  obtain ⟨i', hi', horder', htotal', hcredited'⟩ := hshape.kept _ i hfind
  have hid' : i'.id = i.id := Table.key_of_find? hi'
  have hi'mem := Table.mem_of_find? hi'
  obtain ⟨-, o', ho', hbalance', -⟩ := h'.owed i' hi'mem
  rw [horder'] at ho'
  obtain ⟨o₁, ho₁, hstatus', -⟩ := hshape.orders _ o' ho'
  obtain rfl := Option.some.inj (ho.symm.trans ho₁)
  refine ⟨o', Table.mem_of_find? ho', hstatus'.trans hstatus, ?_⟩
  have hpaid := h.payables.agrees.paid i hi
  have hpaid' := h'.payables.agrees.paid i' hi'mem
  rw [hid'] at hpaid'
  rw [hbalance', htotal', hcredited', hpaid', ← hpaid]
  lia

/-- Closed orders stay settled across a payment operation exactly if what is allocated
to their invoices stays the same. -/
theorem closedSettled_iff_allocated (h : PurchaseInv db) (h' : PurchaseInv db')
    (hclosed : ClosedSettled db) (hshape : SameShape db.buying db'.buying)
    (hstock : db'.stock = db.stock) :
    ClosedSettled db' ↔ ∀ i ∈ db.buying.purchaseInvoices.rows,
      OrderOpen db i.id ∨ allocatedTo db' i.id = allocatedTo db i.id := by
  constructor
  · intro hsettled i hi
    by_cases hnot : OrderOpen db i.id
    · exact .inl hnot
    · obtain ⟨o', ho', hstatus, hbalance⟩ := closed_balance h h' hclosed hshape hi hnot
      have hzero := (hsettled o' ho' hstatus).2
      refine .inr ?_
      rw [hbalance] at hzero
      exact (sub_eq_zero.1 hzero).symm
  · intro hallocated
    refine hclosed.mono (fun _ _ _ => (handledByItemId_congr (by rw [hstock]) _ _ _).ge)
      fun o' ho' hstatus' => ?_
    have hfind' : db'.buying.purchaseOrders.find? o'.id = some o' := (Table.mem_rows_iff _ _).1 ho'
    obtain ⟨o, ho, hstatus, hitems, hcompany, htotal⟩ := hshape.orders _ o' hfind'
    have hid : o.id = o'.id := Table.key_of_find? ho
    have homem := Table.mem_of_find? ho
    rw [hstatus'] at hstatus
    refine ⟨o, homem, hstatus.symm, hid.symm, hcompany, hitems, ?_⟩
    by_cases hinvoiced : ∃ i' ∈ db'.buying.purchaseInvoices.rows, i'.purchaseOrderId = o'.id
    · obtain ⟨i', hi'mem, hio'⟩ := hinvoiced
      obtain ⟨i, hi, horder⟩ := hshape.invoices _ i' ((Table.mem_rows_iff _ _).1 hi'mem)
      have hmem := Table.mem_of_find? hi
      have hiid : i.id = i'.id := Table.key_of_find? hi
      have hio : i.purchaseOrderId = o'.id := horder.symm.trans hio'
      have hnot : ¬ OrderOpen db i.id := fun hopen =>
        hopen i (by rw [hiid]; exact hi) o (by rw [hio]; exact ho) hstatus.symm
      have hsame := (hallocated i hmem).resolve_left hnot
      -- The closed order of this invoice is `o'`.
      obtain ⟨-, y, hy, hybalance, -⟩ := h'.owed i' hi'mem
      rw [hio', hfind'] at hy
      cases hy
      obtain ⟨x', hx', -, htotal', hcredited'⟩ := hshape.kept _ i ((Table.mem_rows_iff _ _).1 hmem)
      have hi' : db'.buying.purchaseInvoices.find? i.id = some i' := by
        rw [hiid]
        exact (Table.mem_rows_iff _ _).1 hi'mem
      obtain rfl := Option.some.inj (hx'.symm.trans hi')
      obtain ⟨-, z, hz, hzbalance, -⟩ := h.owed i hmem
      rw [hio, ho] at hz
      cases hz
      have hpaid := h.payables.agrees.paid i hmem
      have hpaid' := h'.payables.agrees.paid x' hi'mem
      rw [← hiid, hsame, ← hpaid] at hpaid'
      rw [hybalance, hzbalance, htotal', hcredited', hpaid']
    · obtain ⟨-, hbalance', -⟩ := h'.payables.agrees.uninvoiced o' ho' fun i' hi' hio' =>
        hinvoiced ⟨i', hi', hio'⟩
      obtain ⟨-, hbalance, -⟩ := h.payables.agrees.uninvoiced o homem fun i hi hio => by
        obtain ⟨i', hi', horder', -⟩ := hshape.kept _ i ((Table.mem_rows_iff _ _).1 hi)
        exact hinvoiced ⟨i', Table.mem_of_find? hi', horder'.trans (hio.trans hid)⟩
      rw [hbalance', hbalance, htotal]

end

/-! ## What each request does -/

structure Keeps (db db' : Db) : Prop where
  inv : PurchaseInv db'
  closed : ClosedSettled db → ClosedSettled db'

theorem Keeps.refl {db : Db} (h : PurchaseInv db) : Keeps db db := ⟨h, id⟩

theorem Keeps.run {α : Type} {t : DbTx α} {db : Db} (h : PurchaseInv db)
    (hc : ∀ a db', Commits t db a db' → Keeps db db') : Keeps db (run t db).2 := by
  rcases run_cases t db with ⟨a, db', hcommits, hrun⟩ | ⟨_, -, hrun⟩
  · rw [hrun]
    exact hc a db' hcommits
  · rw [hrun]
    exact .refl h

namespace PaymentsService

variable {now : Instant} {companyId userId : Uuid}

/-- A new payment finds no room on a closed order. -/
theorem create_keeps {dto : CreatePaymentDto}
    {key : Option String} {db db' : Db} {result : Payment × Bool} (h : PurchaseInv db)
    (hc : Commits (create companyId userId now dto key) db result db') : Keeps db db' := by
  have hfollows := create_inv h.payables hc
  have hstock := create_stock hc
  rcases create_cases hc with ⟨-, rfl⟩ | ⟨-, hvalid, hrun⟩
  · exact .refl h
  · have hcreated := runCreate_created hrun
    have hreckoned := hcreated.reckoned hvalid h.accounted
    have hinv := h.of_reckoned hfollows.inv hreckoned
    refine ⟨hinv, fun hclosed => ?_⟩
    rw [closedSettled_iff_allocated h hinv hclosed hreckoned.shape hstock]
    intro i hi
    by_cases hnot : OrderOpen db i.id
    · exact .inl hnot
    · obtain ⟨o', ho', -, hbalance⟩ := closed_balance h hinv hclosed hreckoned.shape hi hnot
      have hnonneg := hinv.balance_nonneg ho'
      have hallocated := hcreated.allocatedTo_eq i.id
      have hposted : 0 ≤ net (allocationPostings dto.allocations) (invoiceTarget i.id) := by
        refine net_nonneg (fun p hp => ?_) _
        obtain ⟨a, ha, rfl⟩ := List.mem_map.1 hp
        exact (hvalid a ha).2.le
      right
      lia

/-- A reversal leaves closed orders settled exactly if it takes nothing back from them. -/
theorem reverse_closed_iff {reason : String} {db db' : Db} {reversed : Payment} (h : PurchaseInv db)
    (hc : Commits (reverse id companyId userId now reason) db reversed db') :
    PurchaseInv db' ∧ (ClosedSettled db → (ClosedSettled db' ↔
      ∀ payment ∈ db.paying.payments.find? id, ∀ a ∈ payment.allocations,
        OrderOpen db a.referenceId)) := by
  obtain ⟨payment, hrev⟩ := reverse_reversed hc
  have hpos := h.payables.positive payment (Table.mem_of_find? hrev.row)
  have hreckoned := hrev.reckoned hpos h.accounted
  have hinv := h.of_reckoned (reverse_inv h.payables hc).inv hreckoned
  refine ⟨hinv, fun hclosed => ?_⟩
  rw [closedSettled_iff_allocated h hinv hclosed hreckoned.shape (reverse_stock hc)]
  constructor
  · intro hallocated p hp a ha
    obtain rfl := Option.some.inj (hrev.row.symm.trans hp)
    by_contra hnot
    -- The invoice of `a` is there, and what is taken back from it is positive.
    obtain ⟨i, hi⟩ : ∃ i, db.buying.purchaseInvoices.find? a.referenceId = some i := by
      by_contra hnone
      refine hnot fun i hi => absurd ⟨i, hi⟩ hnone
    have hid : i.id = a.referenceId := Table.key_of_find? hi
    have hsame := (hallocated i (Table.mem_of_find? hi)).resolve_left (by rw [hid]; exact hnot)
    rw [hrev.allocatedTo_eq, hid] at hsame
    have htaken : 0 < net (allocationPostings payment.allocations) (invoiceTarget a.referenceId) := by
      refine net_pos (p := a.posting) (fun p hp => ?_) (List.mem_map_of_mem ha) ?_ (hpos a ha)
      · obtain ⟨b, hb, rfl⟩ := List.mem_map.1 hp
        exact (hpos b hb).le
      · show (a.referenceType, a.referenceId) = invoiceTarget a.referenceId
        rw [hrev.types a ha]
    lia
  · intro hopen i hi
    by_cases htarget : ∃ a ∈ payment.allocations, a.referenceId = i.id
    · obtain ⟨a, ha, hai⟩ := htarget
      rw [← hai]
      exact .inl (hopen payment hrev.row a ha)
    · have hzero : net (allocationPostings payment.allocations) (invoiceTarget i.id) = 0 := by
        refine net_eq_zero fun p hp hpi => htarget ?_
        obtain ⟨a, ha, rfl⟩ := List.mem_map.1 hp
        exact ⟨a, ha, (Prod.mk.inj hpi).2⟩
      right
      rw [hrev.allocatedTo_eq, hzero, neg_zero, add_zero]

/-- A reallocation leaves closed orders settled exactly if each keeps what is allocated
to it. -/
theorem reallocate_closed_iff
    {dto : ReallocatePaymentDto} {db db' : Db} {reallocated : Payment} (h : PurchaseInv db)
    (hc : Commits (reallocate id companyId userId now dto) db reallocated db') :
    PurchaseInv db' ∧ (ClosedSettled db → (ClosedSettled db' ↔
      ∀ payment ∈ db.paying.payments.find? id, ∀ i ∈ db.buying.purchaseInvoices.rows,
        OrderOpen db i.id ∨ net (allocationPostings dto.allocations) (invoiceTarget i.id) =
          net (allocationPostings payment.allocations) (invoiceTarget i.id))) := by
  have hreckoned := reallocate_reckoned h.payables h.accounted hc
  have hinv := h.of_reckoned (reallocate_inv h.payables hc).inv hreckoned
  refine ⟨hinv, fun hclosed => ?_⟩
  rw [closedSettled_iff_allocated h hinv hclosed hreckoned.shape (reallocate_stock hc)]
  obtain ⟨payment, db₁, db₂, hfind, -, hconfirmed, -, -, -, hunapply, happly, rfl, rfl⟩ :=
    reallocate_spec hc
  have hdocs₁ := forM_documents (fun _ _ _ _ => unapplyTotal_documents) hunapply
  have hdocs₂ := forM_documents (fun _ _ _ _ => applyTotal_documents) happly
  have hpayments : db₂.paying.payments =
      db.paying.payments.save { payment with allocations := [] } := by
    rw [hdocs₂]
    show db₁.paying.payments.save _ = _
    rw [hdocs₁]
  have hallocated := reallocated_allocatedTo userId now dto hfind hconfirmed hpayments
  constructor
  · intro hsame p hp i hi
    obtain rfl := Option.some.inj (hfind.symm.trans hp)
    refine (hsame i hi).imp_right fun heq => ?_
    rw [hallocated] at heq
    lia
  · intro hsame i hi
    refine (hsame payment hfind i hi).imp_right fun heq => ?_
    rw [hallocated, heq, sub_self, add_zero]

end PaymentsService

/-! ### Invoices and returns -/

namespace PurchaseInvoicesService

variable {companyId : Uuid}

theorem sync_keeps {supplierId : Option Uuid} {db db' : Db} {u : Unit}
    (h : PurchaseInv db) (hc : Commits (syncEligibleInvoices companyId supplierId) db u db') :
    Keeps db db' := by
  have hfollows := sync_inv h.payables hc
  simp only [syncEligibleInvoices, commits_bind, commits_get] at hc
  obtain ⟨_, _, ⟨rfl, rfl⟩, hloop⟩ := hc
  obtain ⟨horders, hreturns, hstock, howed⟩ := forM_invariant
    (fun _ s => s.buying.purchaseOrders = db.buying.purchaseOrders ∧
      s.buying.purchaseReturns = db.buying.purchaseReturns ∧ s.stock = db.stock ∧
      ∀ i ∈ s.buying.purchaseInvoices.rows, i.Owed db.buying.purchaseOrders)
    (fun done o rest s s' heq hI hstep => by
      obtain ⟨horders, hreturns, hstock, howed⟩ := hI
      have ho : o ∈ eligibleOrders db companyId supplierId := by
        rw [heq]
        exact List.mem_append_right _ List.mem_cons_self
      have hrow := (mem_eligibleOrders ho).1
      obtain ⟨hpaid, hbalance, htotal⟩ := h.payables.agrees.uninvoiced o hrow
        (uninvoiced_of_eligible h.payables.agrees ho)
      obtain ⟨id, s₁, hseq, -, rfl⟩ := insertInvoice_spec hstep
      refine ⟨horders, hreturns, ?_, ?_⟩
      · show s₁.stock = _
        rw [hseq]
        exact hstock
      · have hnonneg : 0 ≤ o.balanceAmount := by
          rw [hbalance]
          exact htotal
        refine Table.forall_save howed
          ⟨hnonneg, o, (Table.mem_rows_iff _ _).1 hrow, ?_, le_rfl⟩
        show o.balanceAmount = o.grandTotal - o.paidAmount - 0
        rw [hpaid, hbalance]
        lia)
    ⟨rfl, rfl, rfl, h.owed⟩ hloop
  refine ⟨⟨hfollows.inv, ?_, ?_, ?_⟩, fun hclosed => hclosed.of_same horders (by rw [hstock])⟩
  · rw [horders]
    exact howed
  · rw [hreturns]
    exact h.returns
  · rw [horders]
    exact h.costs

theorem post_keeps {userId : Uuid} {now : Instant} {db db' : Db}
    {posted : PurchaseInvoice} (h : PurchaseInv db)
    (hc : Commits (post id companyId userId now) db posted db') : Keeps db db' := by
  have hfollows := post_inv h.payables hc
  simp only [post, savePurchaseInvoice, commits_bind, commits_findEntity, commits_findOrder,
    commits_rejectIf, commits_get, commits_modify, commits_pure] at hc
  obtain ⟨invoice, _, ⟨⟨hfind, -⟩, rfl⟩, _, _, ⟨-, rfl⟩, _, _, ⟨-, rfl⟩, _, _, ⟨-, rfl⟩, _, _,
    ⟨rfl, rfl⟩, _, _, ⟨-, rfl⟩, _, _, rfl, -, rfl⟩ := hc
  obtain ⟨hnonneg, o, ho, hbalance, hle⟩ := h.owed invoice (Table.mem_of_find? hfind)
  refine ⟨⟨hfollows.inv, Table.forall_save h.owed ⟨hnonneg, o, ho, hbalance, hle⟩, h.returns, h.costs⟩,
    fun hclosed => hclosed.of_same rfl rfl⟩

theorem void_keeps {userId : Uuid} {now : Instant} {reason : String} {db db' : Db}
    {voided : PurchaseInvoice} (h : PurchaseInv db)
    (hc : Commits (void id companyId userId now reason) db voided db') : Keeps db db' := by
  have hfollows := void_inv h.payables hc
  simp only [void, savePurchaseInvoice, commits_bind, commits_findEntity, commits_rejectIf,
    commits_modify, commits_pure] at hc
  obtain ⟨invoice, _, ⟨⟨hfind, -⟩, rfl⟩, _, _, ⟨-, rfl⟩, _, _, ⟨-, rfl⟩, _, _, rfl, -, rfl⟩ := hc
  obtain ⟨hnonneg, o, ho, hbalance, hle⟩ := h.owed invoice (Table.mem_of_find? hfind)
  refine ⟨⟨hfollows.inv, ?_, h.returns, h.costs⟩, fun hclosed => hclosed.of_same rfl rfl⟩
  exact Table.forall_save h.owed ⟨le_rfl, o, ho, hbalance, hnonneg.trans hle⟩

end PurchaseInvoicesService

namespace PurchaseReturnsService

variable {companyId : Uuid}

theorem create_keeps {userId : Uuid} {now : Instant} {dto : CreatePurchaseReturnDto}
    {db db' : Db} {r : PurchaseReturn} (h : PurchaseInv db)
    (hc : Commits (create companyId userId now dto) db r db') : Keeps db db' := by
  have hfollows := create_inv h.payables hc
  have hsubtotal := create_subtotal_nonneg h.costs hc
  obtain ⟨order, -, -, -, -, hdb'⟩ := create_spec hc
  rw [hdb'] at hfollows ⊢
  exact ⟨⟨hfollows.inv, h.owed, Table.forall_save h.returns hsubtotal, h.costs⟩,
    fun hclosed => hclosed.of_same rfl rfl⟩

theorem cancel_keeps {db db' : Db} {cancelled : PurchaseReturn}
    (h : PurchaseInv db) (hc : Commits (cancel id companyId) db cancelled db') : Keeps db db' := by
  have hfollows := cancel_inv h.payables hc
  obtain ⟨draft, hfind, -, rfl⟩ := cancel_spec hc
  have hsubtotal := h.returns draft (Table.mem_of_find? hfind)
  exact ⟨⟨hfollows.inv, h.owed, Table.forall_save h.returns hsubtotal, h.costs⟩,
    fun hclosed => hclosed.of_same rfl rfl⟩

theorem complete_keeps {userId : Uuid} {now : Instant} {db db' : Db}
    {completed : PurchaseReturn} (h : PurchaseInv db)
    (hc : Commits (complete id companyId userId now) db completed db') : Keeps db db' := by
  have hfollows := complete_inv h.payables hc
  obtain ⟨r, invoice, order, warehouseId, hreturn, -, hinvoice, horder, -, -, -, stocks, ms, rfl⟩ :=
    complete_spec hc
  have hsubtotal := h.returns r (Table.mem_of_find? hreturn)
  obtain ⟨i, hi, hreturnOrder⟩ := h.payables.agrees.returns r (Table.mem_of_find? hreturn)
  obtain rfl := Option.some.inj (hinvoice.symm.trans hi)
  rw [hreturnOrder] at horder
  obtain ⟨hnonneg, o, ho, hbalance, hle⟩ := h.owed invoice (Table.mem_of_find? hinvoice)
  obtain rfl := Option.some.inj (horder.symm.trans ho)
  have hcredit : creditApplied invoice r.subtotal ≤ invoice.balanceAmount := min_le_left _ _
  have hcredit₀ : 0 ≤ creditApplied invoice r.subtotal := le_min hnonneg hsubtotal
  have hnew : newBalance invoice r.subtotal =
      order.balanceAmount - creditApplied invoice r.subtotal := by
    have hrest : invoice.grandTotal - invoice.paidAmount -
        (invoice.creditedAmount + creditApplied invoice r.subtotal) =
        order.balanceAmount - creditApplied invoice r.subtotal := by
      rw [hbalance]
      abel
    rw [newBalance, hrest, max_eq_right (Int.sub_nonneg_of_le (hcredit.trans hle))]
  have hnew₀ : 0 ≤ newBalance invoice r.subtotal := le_max_left _ _
  let order' : PurchaseOrder :=
    { order with balanceAmount := newBalance invoice r.subtotal, updatedBy := some userId }
  have hkey : key order' = key order := rfl
  have howed := h.accounted.owed_rewrite (creditedInvoice userId r.subtotal invoice) order' hinvoice
    horder ⟨rfl, rfl, rfl⟩ rfl hnew₀ (by
      show newBalance invoice r.subtotal = invoice.grandTotal - invoice.paidAmount -
        (invoice.creditedAmount + creditApplied invoice r.subtotal)
      rw [hnew, hbalance]
      abel) le_rfl
  refine ⟨⟨hfollows.inv, howed, Table.forall_save h.returns hsubtotal, ?_⟩, fun hclosed => ?_⟩
  · exact Table.forall_save h.costs (h.costs order (Table.mem_of_find? horder))
  · refine hclosed.mono (fun _ _ _ => le_rfl) fun o' ho' hstatus' => ?_
    rcases (Table.mem_save _ _ _).1 ho' with rfl | ⟨ho', -⟩
    · have hzero := (hclosed order (Table.mem_of_find? horder) hstatus').2
      refine ⟨order, Table.mem_of_find? horder, hstatus', rfl, rfl, rfl, ?_⟩
      show newBalance invoice r.subtotal = order.balanceAmount
      lia
    · exact ⟨o', ho', hstatus', rfl, rfl, rfl, rfl⟩

end PurchaseReturnsService

/-! ### The calls on orders, and goods receipts -/

structure PurchaseOrder.SameAmounts (o' o : PurchaseOrder) : Prop where
  id : o'.id = o.id
  company : o'.companyId = o.companyId
  total : o'.grandTotal = o.grandTotal
  paid : o'.paidAmount = o.paidAmount
  balance : o'.balanceAmount = o.balanceAmount

theorem find_saveOrder {orders : Table PurchaseOrder}
    {o' : PurchaseOrder} (ho : orders.find? id = some o) (hsame : o'.SameAmounts o) {j : Uuid}
    {x : PurchaseOrder} (hx : orders.find? j = some x) :
    ∃ x', (orders.save o').find? j = some x' ∧ x'.SameAmounts x := by
  have hkey : key o' = id := hsame.id.trans (Table.key_of_find? ho)
  by_cases hj : id = j
  · subst hj
    obtain rfl := Option.some.inj (ho.symm.trans hx)
    exact ⟨o', by rw [Table.find?_save, if_pos hkey], hsame⟩
  · refine ⟨x, ?_, rfl, rfl, rfl, rfl, rfl⟩
    rw [Table.find?_save, hkey, if_neg hj]
    exact hx

/-- Writing an order with the same amounts keeps the agreement. -/
theorem Agrees.saveOrder {paidOn : Uuid → Cents} {tables : PurchaseTables} (o' : PurchaseOrder) (h : Agrees paidOn tables)
    (ho : tables.purchaseOrders.find? id = some o) (hsame : o'.SameAmounts o) :
    Agrees paidOn { tables with purchaseOrders := tables.purchaseOrders.save o' } where
  paid := h.paid
  absent := h.absent
  settled i hi hvoid := by
    obtain ⟨hbalance, hnonneg, x, hx, hxpaid, hxbalance⟩ := h.settled i hi hvoid
    obtain ⟨x', hx', hxsame⟩ := find_saveOrder ho hsame hx
    exact ⟨hbalance, hnonneg, x', hx', hxsame.paid.trans hxpaid, hxsame.balance.trans hxbalance⟩
  oneInvoice := h.oneInvoice
  company i hi x hx := by
    rcases Table.find?_save_over ho hsame.id hx with ⟨hid, rfl⟩ | ⟨-, hx⟩
    · exact hsame.company.trans (h.company i hi o (by rw [hid]; exact ho))
    · exact h.company i hi x hx
  uninvoiced x hx hnone := by
    rcases (Table.mem_save _ _ _).1 hx with rfl | ⟨hx, -⟩
    · obtain ⟨hpaid, hbalance, htotal⟩ := h.uninvoiced o (Table.mem_of_find? ho) fun i hi =>
        hsame.id ▸ hnone i hi
      rw [hsame.paid, hsame.balance, hsame.total]
      exact ⟨hpaid, hbalance, htotal⟩
    · exact h.uninvoiced x hx hnone
  returns := h.returns

namespace PurchaseOrdersService

theorem Transition.mark_sameAmounts (t : Transition) (userId : Uuid) (now : Instant)
    (order : PurchaseOrder) : (t.mark userId now order).SameAmounts order := by
  cases t <;> exact ⟨rfl, rfl, rfl, rfl, rfl⟩

theorem Transition.mark_items (t : Transition) (userId : Uuid) (now : Instant)
    (order : PurchaseOrder) : (t.mark userId now order).items = order.items := by
  cases t <;> rfl

/-- `close` checks what is claimed, and no other call closes an order. -/
theorem changeStatus_keeps {t : Transition} {companyId userId : Uuid} {now : Instant}
    {db db' : Db} {changed : PurchaseOrder} (h : PurchaseInv db)
    (hc : Commits (changeStatus t id companyId userId now) db changed db') : Keeps db db' := by
  obtain ⟨order, hfind, hcompany, -, hguard, -, rfl⟩ := (commits_changeStatus ..).1 hc
  have hsame := t.mark_sameAmounts userId now order
  have hitems := t.mark_items userId now order
  have hmem := Table.mem_of_find? hfind
  have hagrees := h.payables.agrees.saveOrder _ hfind hsame
  refine ⟨⟨Follows.inv (h.payables.of_buying hagrees rfl rfl), fun i hi => ?_, h.returns, ?_⟩,
    fun hclosed o ho hstatus => ?_⟩
  · obtain ⟨hnonneg, o, ho, hbalance, hle⟩ := h.owed i hi
    obtain ⟨o', ho', hosame⟩ := find_saveOrder hfind hsame ho
    exact ⟨hnonneg, o', ho', hosame.balance.trans hbalance, hosame.balance.symm ▸ hle⟩
  · refine Table.forall_save h.costs ?_
    rw [hitems]
    exact h.costs order hmem
  · rcases (Table.mem_save _ _ _).1 ho with rfl | ⟨ho, -⟩
    · -- The order that was written: it is closed by `close`, whose guard has passed.
      rw [Transition.mark_status] at hstatus
      obtain ⟨reason, rfl⟩ : ∃ reason, t = .close reason := by
        cases t with
        | close reason => exact ⟨reason, rfl⟩
        | _ => cases hstatus
      obtain ⟨-, hhandled, hbalance⟩ := hguard
      have hzero : order.balanceAmount = 0 := le_antisymm hbalance (h.balance_nonneg hmem)
      rw [← hcompany] at hhandled
      exact ⟨hhandled, hzero⟩
    · exact hclosed o ho hstatus

end PurchaseOrdersService

namespace GoodsReceiptsService

theorem create_keeps {companyId userId : Uuid} {now : Instant} {dto : CreateGoodsReceiptDto}
    {receipt : GoodsReceipt} {db db' : Db} (h : PurchaseInv db)
    (hc : Commits (create companyId userId now dto) db receipt db') : Keeps db db' := by
  obtain ⟨htouches, hrows⟩ := create_touches hc
  obtain ⟨order, -, -, -, -, -, hbuying, hreceipts⟩ := create_spec hc
  have hpaying : db'.paying = db.paying := by rw [htouches]
  have hledger : db'.ledger = db.ledger := by rw [htouches]
  have hpayables := h.payables.of_same hbuying hpaying fun e he htype =>
    ⟨e, by rw [← hledger]; exact he, htype, rfl⟩
  refine ⟨h.of_same hpayables.inv hbuying, fun hclosed => hclosed.mono (fun c o k => ?_)
    fun o ho hstatus => ?_⟩
  · rw [PurchaseOrdersService.handledByItemId, PurchaseOrdersService.handledByItemId,
      PurchaseInvoicesService.goodsReceiptsOf, PurchaseInvoicesService.goodsReceiptsOf, hreceipts,
      List.filter_append, priorHandled, priorHandled, List.flatMap_append, List.filter_append,
      List.map_append, List.sum_append]
    refine le_add_of_nonneg_right (List.sum_nonneg fun q hq => ?_)
    simp only [List.mem_map, List.mem_filter, List.mem_flatMap, List.mem_singleton] at hq
    obtain ⟨row, ⟨⟨r, ⟨rfl, -⟩, hrow⟩, -⟩, rfl⟩ := hq
    exact hrows row hrow
  · rw [hbuying] at ho
    exact ⟨o, ho, hstatus, rfl, rfl, rfl, rfl⟩

end GoodsReceiptsService

/-! ## Runs -/

namespace JournalEntriesService

theorem Manual.keeps {db db' : Db} (hm : Manual db db') (h : PurchaseInv db)
    (hstock : db'.stock = db.stock) : Keeps db db' :=
  ⟨h.of_same (hm.follows h.payables).inv hm.buying,
    fun hclosed => hclosed.of_same (by rw [hm.buying]) (by rw [hstock])⟩

variable {entry : JournalEntry} {companyId : Uuid}

theorem create_keeps {userId : Uuid} {now : Instant} {dto : CreateJournalEntryDto}
    {db db' : Db} (h : PurchaseInv db)
    (hc : Commits (create companyId userId now dto) db entry db') : Keeps db db' := by
  refine (create_manual hc).keeps h ?_
  obtain ⟨_, db₁, hcompany, hc⟩ := (commits_bind _ _ _ _ _).1 hc
  obtain rfl := assertCompanyAndBranch_reads hcompany
  obtain ⟨-, -, -, -, -, db₁, htouch, rfl⟩ := createTransaction_spec hc
  show db₁.stock = db.stock
  rw [htouch]

theorem post_keeps {userId : Uuid} {now : Instant} {db db' : Db} (h : PurchaseInv db)
    (hc : Commits (post id companyId userId now) db entry db') : Keeps db db' := by
  refine (post_manual hc).keeps h ?_
  simp only [post, saveEntry, commits_bind, commits_findByIdInCompany, commits_postChecks,
    commits_modify, commits_pure] at hc
  obtain ⟨row, _, ⟨-, rfl⟩, _, _, ⟨⟨-, -, -, rfl⟩, rfl⟩, _, _, rfl, -, rfl⟩ := hc
  rfl

theorem cancel_keeps {db db' : Db}
    (h : PurchaseInv db) (hc : Commits (cancel id companyId) db entry db') : Keeps db db' := by
  refine (cancel_manual hc).keeps h ?_
  simp only [cancel, cancelGuard, saveEntry, commits_bind, commits_findByIdInCompany,
    commits_rejectIf, commits_modify, commits_pure] at hc
  obtain ⟨row, _, ⟨-, rfl⟩, _, _, ⟨-, rfl⟩, _, _, rfl, -, rfl⟩ := hc
  rfl

end JournalEntriesService

theorem run_iff_of {α : Type} {t : DbTx α} {db : Db} {I P : Db → Prop} {C : Prop} (h : I db)
    (hdb : P db) (hc : ∀ a db', Commits t db a db' → I db' ∧ (P db → (P db' ↔ C))) :
    I (run t db).2 ∧ (P (run t db).2 ↔ (Accepted t db → C)) := by
  rcases run_cases t db with ⟨a, db', hcommits, hrun⟩ | ⟨e, -, hrun⟩
  · obtain ⟨hinv, hiff⟩ := hc a db' hcommits
    rw [Accepted, hrun]
    refine ⟨hinv, (hiff hdb).trans ?_⟩
    exact ⟨fun hC _ => hC, fun hC => hC rfl⟩
  · rw [Accepted, hrun]
    exact ⟨h, iff_of_true hdb fun hok => by cases hok⟩

/-- One request: the invariant is kept, and closed orders stay settled exactly if the
request takes nothing back from one. -/
theorem PurchaseRequest.answer_closed_iff {db : Db} (request : PurchaseRequest)
    (h : PurchaseInv db) (hclosed : ClosedSettled db) :
    PurchaseInv (request.answer db) ∧
      (ClosedSettled (request.answer db) ↔ KeepsClosedPaid db request) := by
  have hkeeps : ∀ {db'}, Keeps db db' →
      PurchaseInv db' ∧ (ClosedSettled db' ↔ True) :=
    fun hk => ⟨hk.inv, iff_of_true (hk.closed hclosed) trivial⟩
  cases request with
  | payables request =>
    cases request with
    | reversePayment =>
      exact run_iff_of h hclosed fun _ _ => PaymentsService.reverse_closed_iff h
    | reallocatePayment =>
      exact run_iff_of h hclosed fun _ _ => PaymentsService.reallocate_closed_iff h
    | createPayment => exact hkeeps (.run h fun _ _ => PaymentsService.create_keeps h)
    | syncInvoices => exact hkeeps (.run h fun _ _ => PurchaseInvoicesService.sync_keeps h)
    | postInvoice => exact hkeeps (.run h fun _ _ => PurchaseInvoicesService.post_keeps h)
    | voidInvoice => exact hkeeps (.run h fun _ _ => PurchaseInvoicesService.void_keeps h)
    | createReturn => exact hkeeps (.run h fun _ _ => PurchaseReturnsService.create_keeps h)
    | completeReturn => exact hkeeps (.run h fun _ _ => PurchaseReturnsService.complete_keeps h)
    | cancelReturn => exact hkeeps (.run h fun _ _ => PurchaseReturnsService.cancel_keeps h)
    | createEntry => exact hkeeps (.run h fun _ _ => JournalEntriesService.create_keeps h)
    | postEntry => exact hkeeps (.run h fun _ _ => JournalEntriesService.post_keeps h)
    | cancelEntry => exact hkeeps (.run h fun _ _ => JournalEntriesService.cancel_keeps h)
  | changeStatus => exact hkeeps (.run h fun _ _ => PurchaseOrdersService.changeStatus_keeps h)
  | receiveGoods => exact hkeeps (.run h fun _ _ => GoodsReceiptsService.create_keeps h)

theorem BeforePayables.purchaseInv {db : Db} (h : BeforePayables db)
    (hcosts : ∀ o ∈ db.buying.purchaseOrders.rows, ∀ item ∈ o.items, 0 ≤ item.unitCostSnapshot) :
    PurchaseInv db := by
  refine ⟨h.inv, ?_, ?_, hcosts⟩
  · rw [h.noInvoices]
    exact fun i hi => absurd hi List.not_mem_nil
  · rw [h.noReturns]
    exact fun r hr => absurd hr List.not_mem_nil

/-- Closed orders are settled in every state of a run exactly as long as no payment
allocated to one is reversed, and no reallocation changes what is allocated to one. -/
theorem closed_settled_iff {db₀ db : Db} (h₀ : BeforePayables db₀)
    (hcosts : ∀ o ∈ db₀.buying.purchaseOrders.rows, ∀ item ∈ o.items, 0 ≤ item.unitCostSnapshot)
    (hclosed : ClosedSettled db₀) {requests : List PurchaseRequest}
    (hrun : purchasingMachine.Run db₀ requests db) :
    (∀ ks, ks <+: requests → ∀ db₁, purchasingMachine.Run db₀ ks db₁ → ClosedSettled db₁) ↔
      purchasingMachine.RunWith KeepsClosedPaid db₀ requests db := by
  refine Machine.prefixes_iff_runWith (I := fun s => PurchaseInv s ∧ ClosedSettled s)
    (fun s request s' h hc hs => ?_) (fun _ h => h.2) (fun s request s' h hs hsettled => ?_)
    ⟨h₀.purchaseInv hcosts, hclosed⟩ hrun
  · cases hs
    obtain ⟨hinv, hiff⟩ := request.answer_closed_iff h.1 h.2
    exact ⟨hinv, hiff.2 hc⟩
  · cases hs
    exact (request.answer_closed_iff h.1 h.2).2.1 hsettled

theorem PurchaseRequest.answer_inv {db : Db} (request : PurchaseRequest) (h : PurchaseInv db) :
    PurchaseInv (request.answer db) := by
  have hrun {α : Type} {t : DbTx α} (hc : ∀ a db', Commits t db a db' → PurchaseInv db') :
      PurchaseInv (run t db).2 := by
    rcases run_cases t db with ⟨a, db', hcommits, hrun⟩ | ⟨_, -, hrun⟩
    · rw [hrun]
      exact hc a db' hcommits
    · rw [hrun]
      exact h
  cases request with
  | payables request =>
    cases request with
    | reversePayment => exact hrun fun _ _ hc => (PaymentsService.reverse_closed_iff h hc).1
    | reallocatePayment => exact hrun fun _ _ hc => (PaymentsService.reallocate_closed_iff h hc).1
    | createPayment => exact hrun fun _ _ hc => (PaymentsService.create_keeps h hc).inv
    | syncInvoices => exact hrun fun _ _ hc => (PurchaseInvoicesService.sync_keeps h hc).inv
    | postInvoice => exact hrun fun _ _ hc => (PurchaseInvoicesService.post_keeps h hc).inv
    | voidInvoice => exact hrun fun _ _ hc => (PurchaseInvoicesService.void_keeps h hc).inv
    | createReturn => exact hrun fun _ _ hc => (PurchaseReturnsService.create_keeps h hc).inv
    | completeReturn => exact hrun fun _ _ hc => (PurchaseReturnsService.complete_keeps h hc).inv
    | cancelReturn => exact hrun fun _ _ hc => (PurchaseReturnsService.cancel_keeps h hc).inv
    | createEntry => exact hrun fun _ _ hc => (JournalEntriesService.create_keeps h hc).inv
    | postEntry => exact hrun fun _ _ hc => (JournalEntriesService.post_keeps h hc).inv
    | cancelEntry => exact hrun fun _ _ hc => (JournalEntriesService.cancel_keeps h hc).inv
  | changeStatus => exact hrun fun _ _ hc => (PurchaseOrdersService.changeStatus_keeps h hc).inv
  | receiveGoods => exact hrun fun _ _ hc => (GoodsReceiptsService.create_keeps h hc).inv

/-- Orders are accounted for, whatever is ordered, received, invoiced, returned, paid and
reversed, in any order: an order never owes less than nothing and has one invoice at most, which is
paid what confirmed payments allocate to it, and the order owes the rest of it. -/
theorem purchasing_accounted {db₀ db : Db} (h₀ : BeforePayables db₀)
    (hcosts : ∀ o ∈ db₀.buying.purchaseOrders.rows, ∀ item ∈ o.items, 0 ≤ item.unitCostSnapshot)
    (hreaches : purchasingMachine.Reaches db₀ db) :
    (∀ o ∈ db.buying.purchaseOrders.rows, 0 ≤ o.balanceAmount) ∧
      (∀ i ∈ db.buying.purchaseInvoices.rows, ∀ j ∈ db.buying.purchaseInvoices.rows,
        i.purchaseOrderId = j.purchaseOrderId → i.id = j.id) ∧
      ∀ i ∈ db.buying.purchaseInvoices.rows, i.paidAmount = allocatedTo db i.id ∧
        i.Owed db.buying.purchaseOrders := by
  have hinv : PurchaseInv db := hreaches.invariant (h₀.purchaseInv hcosts) fun _ request _ h hs => by
    cases hs
    exact request.answer_inv h
  refine ⟨fun o => hinv.balance_nonneg, hinv.payables.agrees.oneInvoice, fun i hi => ?_⟩
  exact ⟨hinv.payables.agrees.paid i hi, hinv.owed i hi⟩

/-! A draft for ten pieces of 100.00: approved, received, invoiced, paid and closed. -/

namespace ClosedDemo

def order : PurchaseOrder :=
  { PayablesDemo.order with
    status := .Draft
    items := [{ id := 71, productVariantId := 7, quantity := 10, unitCostSnapshot := 1000,
                conversionFactorToBaseSnapshot := none }] }

def db : Db where
  master :=
    { PayablesDemo.db.master with
      warehouses := .ofRows [{ id := 70, companyId := 10, branchId := 15, status := .Active }]
      productVariants := .ofRows [{ id := 7, companyId := 10, status := .Active }] }
  buying := { purchaseOrders := .ofRows [order] }

def now : Instant := PayablesDemo.now

def change (t : PurchaseOrdersService.Transition) : PurchaseRequest :=
  .changeStatus t 50 10 99 now

def receive : PurchaseRequest :=
  .receiveGoods 10 99 now
    { purchaseOrderId := 50, warehouseId := 70, receiptDate := none
      items := [{ purchaseOrderItemId := 71, productVariantId := 7, receivedQuantity := 10,
                  rejectedQuantity := none }] }

def pay : PurchaseRequest :=
  .payables (.createPayment 10 99 now
    { PayablesDemo.paymentDto with
      amount := 10000
      allocations := [{ referenceType := .PurchaseInvoice, referenceId := 1,
                        allocatedAmount := 10000 }] } none)

def closing : List PurchaseRequest :=
  [change .submit, change .approve, receive, .payables (.syncInvoices 10 none),
    .payables (.postInvoice 1 10 99 now), pay, change (.close none)]

def reverse : PurchaseRequest := .payables (.reversePayment 2 10 99 now "wrong account")

theorem beforePayables : BeforePayables db := by
  refine ⟨rfl, rfl, rfl, fun e he => absurd he List.not_mem_nil, fun o ho => ?_⟩
  obtain rfl := List.mem_singleton.1 ho
  decide

theorem costs : ∀ o ∈ db.buying.purchaseOrders.rows, ∀ item ∈ o.items,
    0 ≤ item.unitCostSnapshot := by
  decide

theorem closedSettled : ClosedSettled db := by
  intro o ho hstatus
  obtain rfl := List.mem_singleton.1 ho
  cases hstatus

end ClosedDemo

open ClosedDemo in
theorem closed_settled_iff_paid :
    ∃ db', purchasingMachine.Run db closing db' ∧
      (∃ o ∈ db'.buying.purchaseOrders.rows, o.status = .Closed ∧ o.balanceAmount = 0) ∧
      ∀ ks, ks <+: closing → ∀ db₁, purchasingMachine.Run db ks db₁ → ClosedSettled db₁ := by
  obtain ⟨db', hrun, hdb⟩ := Machine.exists_runWith purchasingMachine KeepsClosedPaid db closing
    (fun s => s.buying.purchaseOrders.rows.any fun o => o.status = .Closed && o.balanceAmount = 0)
    (by decide +kernel)
  simp only [List.any_eq_true, Bool.and_eq_true, decide_eq_true_eq] at hdb
  exact ⟨db', hrun.run, hdb,
    (closed_settled_iff beforePayables costs closedSettled hrun.run).2 hrun⟩

open ClosedDemo in
theorem closed_order_owes :
    ∃ db', purchasingMachine.Run db (closing ++ [reverse]) db' ∧
      (∃ o ∈ db'.buying.purchaseOrders.rows, o.status = .Closed ∧ o.balanceAmount = 10000) ∧
      ¬ ClosedSettled db' := by
  obtain ⟨db', hrun, hdb⟩ := Machine.exists_runWith purchasingMachine (fun _ _ => True) db
    (closing ++ [reverse])
    (fun s => s.buying.purchaseOrders.rows.any fun o =>
      o.status = .Closed && o.balanceAmount = 10000)
    (by decide +kernel)
  simp only [List.any_eq_true, Bool.and_eq_true, decide_eq_true_eq] at hdb
  obtain ⟨o, ho, hstatus, hbalance⟩ := hdb
  refine ⟨db', hrun, ⟨o, ho, hstatus, hbalance⟩, fun hsettled => ?_⟩
  have hzero := (hsettled o ho hstatus).2
  rw [hbalance] at hzero
  cases hzero

open ClosedDemo in
theorem purchasing_accounted_reversed : ∃ db', purchasingMachine.Reaches db db' ∧
    ∃ i ∈ db'.buying.purchaseInvoices.rows, i.grandTotal = 10000 ∧ i.paidAmount = 0 ∧
      i.Owed db'.buying.purchaseOrders := by
  obtain ⟨db', hrun, hdb⟩ := Machine.exists_runWith purchasingMachine (fun _ _ => True) db
    (closing ++ [reverse])
    (fun s => s.buying.purchaseInvoices.rows.any fun i => i.grandTotal = 10000 && i.paidAmount = 0)
    (by decide +kernel)
  simp only [List.any_eq_true, Bool.and_eq_true, decide_eq_true_eq] at hdb
  obtain ⟨i, hi, htotal, hpaid⟩ := hdb
  exact ⟨db', ⟨_, hrun⟩, i, hi, htotal, hpaid,
    ((purchasing_accounted beforePayables costs ⟨_, hrun⟩).2.2 i hi).2⟩

end FashionErp
