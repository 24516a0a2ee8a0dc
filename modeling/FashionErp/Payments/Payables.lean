/-
What a company owes its suppliers, over whole runs.

Payments, their reversal and reallocation, purchase invoices and purchase returns all
write the same three amounts of an invoice (paid, credited, balance) and copy two of them
to its purchase order, each with a formula of its own.
-/
import FashionErp.Lib.Machine
import FashionErp.Payments.Payments
import FashionErp.Purchase.PurchaseReturns

namespace FashionErp

open Lib Lib.Tx

/-! ## The agreement between invoices, orders and what is paid -/

structure PurchaseInvoice.Settled (i : PurchaseInvoice) (orders : Table PurchaseOrder) :
    Prop where
  balance : i.balanceAmount = i.grandTotal - i.paidAmount - i.creditedAmount
  nonneg : 0 ≤ i.balanceAmount
  order : ∃ o, orders.find? i.purchaseOrderId = some o ∧
    o.paidAmount = i.paidAmount ∧ o.balanceAmount = i.balanceAmount

/-- Invoices, orders and returns agree, `paidOn` being what is paid per invoice. -/
structure Agrees (paidOn : Uuid → Cents) (tables : PurchaseTables) : Prop where
  paid : ∀ i ∈ tables.purchaseInvoices.rows, i.paidAmount = paidOn i.id
  absent : ∀ k, tables.purchaseInvoices.find? k = none → paidOn k = 0
  settled : ∀ i ∈ tables.purchaseInvoices.rows, i.status ≠ .Voided →
    i.Settled tables.purchaseOrders
  oneInvoice : ∀ i ∈ tables.purchaseInvoices.rows, ∀ j ∈ tables.purchaseInvoices.rows,
    i.purchaseOrderId = j.purchaseOrderId → i.id = j.id
  company : ∀ i ∈ tables.purchaseInvoices.rows, ∀ o,
    tables.purchaseOrders.find? i.purchaseOrderId = some o → o.companyId = i.companyId
  uninvoiced : ∀ o ∈ tables.purchaseOrders.rows,
    (∀ i ∈ tables.purchaseInvoices.rows, i.purchaseOrderId ≠ o.id) →
      o.paidAmount = 0 ∧ o.balanceAmount = o.grandTotal ∧ 0 ≤ o.grandTotal
  returns : ∀ r ∈ tables.purchaseReturns.rows, ∃ i,
    tables.purchaseInvoices.find? r.purchaseInvoiceId = some i ∧
      r.purchaseOrderId = i.purchaseOrderId

structure PurchaseInvoice.SameDocument (i' i : PurchaseInvoice) : Prop where
  id : i'.id = i.id
  order : i'.purchaseOrderId = i.purchaseOrderId
  company : i'.companyId = i.companyId

variable {paidOn : Uuid → Cents} {tables : PurchaseTables} {i : PurchaseInvoice} {o : PurchaseOrder}
  {id : Uuid}

/-- Writing an invoice and its order keeps the agreement, the paid amount moved
by `amount`, if the two written rows agree with each other. -/
theorem Agrees.rewrite (i' : PurchaseInvoice) (o' : PurchaseOrder)
    (amount : Cents) (h : Agrees paidOn tables) (hi : tables.purchaseInvoices.find? id = some i)
    (ho : tables.purchaseOrders.find? i.purchaseOrderId = some o) (hsame : i'.SameDocument i)
    (hoid : o'.id = o.id) (hocompany : o'.companyId = o.companyId)
    (hpaid : i'.paidAmount = i.paidAmount + amount)
    (hsettled : i'.status ≠ .Voided → i'.balanceAmount = i'.grandTotal - i'.paidAmount - i'.creditedAmount ∧ 0 ≤ i'.balanceAmount ∧ o'.paidAmount = i'.paidAmount ∧ o'.balanceAmount = i'.balanceAmount) :
    Agrees (fun k => paidOn k + net [(id, amount)] k)
      { tables with
        purchaseInvoices := tables.purchaseInvoices.save i'
        purchaseOrders := tables.purchaseOrders.save o' } := by
  have hid : i.id = id := Table.key_of_find? hi
  have hoid' : o.id = i.purchaseOrderId := Table.key_of_find? ho
  have himem := Table.mem_of_find? hi
  have horder' : (tables.purchaseOrders.save o').find? i.purchaseOrderId = some o' := by
    have hkey : key o' = i.purchaseOrderId := hoid.trans hoid'
    rw [Table.find?_save, if_pos hkey]
  -- A written invoice row is `i'`, or a row of another id that was there before.
  have hrow : ∀ x ∈ (tables.purchaseInvoices.save i').rows,
      x = i' ∨ (x ∈ tables.purchaseInvoices.rows ∧ x.id ≠ id) := by
    intro x hx
    rcases (Table.mem_save _ _ _).1 hx with rfl | ⟨hx, hne⟩
    · exact .inl rfl
    · exact .inr ⟨hx, fun e => hne (e.trans (hsame.id.trans hid).symm)⟩
  -- Each of them stands for a row of the same document before the write.
  have hold : ∀ x ∈ (tables.purchaseInvoices.save i').rows,
      ∃ y ∈ tables.purchaseInvoices.rows, x.SameDocument y := by
    intro x hx
    rcases hrow x hx with rfl | ⟨hx, -⟩
    · exact ⟨i, himem, hsame⟩
    · exact ⟨x, hx, rfl, rfl, rfl⟩
  refine ⟨?_, ?_, ?_, ?_, ?_, ?_, ?_⟩
  · intro x hx
    rcases hrow x hx with rfl | ⟨hx, hne⟩
    · rw [hpaid, h.paid i himem, hsame.id, hid, net_singleton, if_pos rfl]
    · rw [h.paid x hx, net_singleton, if_neg (Ne.symm hne), add_zero]
  · intro k hk
    rw [Table.find?_save] at hk
    split at hk
    · cases hk
    · rename_i hne
      have hk' : id ≠ k := fun e => hne ((hsame.id.trans hid).trans e)
      rw [h.absent k hk, net_singleton, if_neg hk', add_zero]
  · intro x hx hvoid
    rcases hrow x hx with rfl | ⟨hx, hne⟩
    · obtain ⟨hbalance, hnonneg, hopaid, hobalance⟩ := hsettled hvoid
      exact ⟨hbalance, hnonneg, o', by rw [hsame.order]; exact horder', hopaid, hobalance⟩
    · obtain ⟨hbalance, hnonneg, y, hy, hypaid, hybalance⟩ := h.settled x hx hvoid
      refine ⟨hbalance, hnonneg, y, ?_, hypaid, hybalance⟩
      -- The written order is another one: no two invoices share an order.
      have hother : key o' ≠ x.purchaseOrderId := by
        intro e
        have hxi : x.purchaseOrderId = i.purchaseOrderId := e.symm.trans (hoid.trans hoid')
        exact hne ((h.oneInvoice x hx i himem hxi).trans hid)
      rw [Table.find?_save_ne _ _ _ hother]
      exact hy
  · intro x hx y hy hxy
    obtain ⟨x₀, hx₀, hxs⟩ := hold x hx
    obtain ⟨y₀, hy₀, hys⟩ := hold y hy
    have horders : x₀.purchaseOrderId = y₀.purchaseOrderId := by rw [← hxs.order, hxy, hys.order]
    rw [hxs.id, hys.id]
    exact h.oneInvoice x₀ hx₀ y₀ hy₀ horders
  · intro x hx y hy
    obtain ⟨x₀, hx₀, hxs⟩ := hold x hx
    rw [hxs.company]
    have hko : key o' = key o := hoid
    rcases Table.find?_save_over ho hko hy with ⟨hxo, rfl⟩ | ⟨-, hy⟩
    · rw [hocompany]
      exact h.company x₀ hx₀ o (by rw [← hxs.order, hxo]; exact ho)
    · exact h.company x₀ hx₀ y (by rw [← hxs.order]; exact hy)
  · intro y hy hnone
    rcases (Table.mem_save _ _ _).1 hy with rfl | ⟨hy, -⟩
    · exact absurd (hsame.order.trans (hoid.trans hoid').symm)
        (hnone i' ((Table.mem_save _ _ _).2 (.inl rfl)))
    · refine h.uninvoiced y hy fun x hx hxy => ?_
      by_cases hxid : x.id = id
      · obtain rfl : x = i := Table.eq_of_key hx himem (hxid.trans hid.symm)
        exact hnone i' ((Table.mem_save _ _ _).2 (.inl rfl)) (hsame.order.trans hxy)
      · refine hnone x ((Table.mem_save _ _ _).2 (.inr ⟨hx, fun e => hxid ?_⟩)) hxy
        exact e.trans (hsame.id.trans hid)
  · intro r hr
    obtain ⟨x, hx, hrx⟩ := h.returns r hr
    by_cases hxid : r.purchaseInvoiceId = id
    · have hkey : key i' = r.purchaseInvoiceId := (hsame.id.trans hid).trans hxid.symm
      refine ⟨i', ?_, ?_⟩
      · rw [Table.find?_save, if_pos hkey]
      · rw [hxid] at hx
        obtain rfl := Option.some.inj (hi.symm.trans hx)
        rw [hrx, hsame.order]
    · refine ⟨x, ?_, hrx⟩
      rw [Table.find?_save_ne _ _ _ fun e => hxid (e.symm.trans (hsame.id.trans hid))]
      exact hx

theorem Agrees.rewriteInvoice (i' : PurchaseInvoice) (h : Agrees paidOn tables)
    (hi : tables.purchaseInvoices.find? id = some i) (hnotVoid : i.status ≠ .Voided)
    (hsame : i'.SameDocument i) (hpaid : i'.paidAmount = i.paidAmount)
    (hsettled : i'.status ≠ .Voided → i'.grandTotal = i.grandTotal ∧ i'.creditedAmount = i.creditedAmount ∧ i'.balanceAmount = i.balanceAmount) :
    Agrees paidOn { tables with purchaseInvoices := tables.purchaseInvoices.save i' } := by
  obtain ⟨hbalance, hnonneg, o, ho, hopaid, hobalance⟩ :=
    h.settled i (Table.mem_of_find? hi) hnotVoid
  have hall := h.rewrite i' o 0 hi ho hsame rfl rfl
    (hpaid.trans (add_zero _).symm) fun hvoid => by
      obtain ⟨htotal, hcredited, hbalance'⟩ := hsettled hvoid
      rw [htotal, hcredited, hbalance', hpaid]
      exact ⟨hbalance, hnonneg, hopaid, hobalance⟩
  have hko : key o = i.purchaseOrderId := Table.key_of_find? ho
  have hsave : tables.purchaseOrders.save o = tables.purchaseOrders :=
    Table.save_of_find? (by rw [hko]; exact ho)
  simp only [net_singleton, ite_self, add_zero, hsave] at hall
  exact hall

/-- A new draft keeps the agreement: nothing is paid or credited on it yet. -/
theorem Agrees.insertDraft (h : Agrees paidOn tables)
    (hfresh : tables.purchaseInvoices.find? id = none) (ho : o ∈ tables.purchaseOrders.rows)
    (hnone : ∀ i ∈ tables.purchaseInvoices.rows, i.purchaseOrderId ≠ o.id) :
    Agrees paidOn { tables with
      purchaseInvoices :=
        tables.purchaseInvoices.save (PurchaseInvoicesService.draftInvoice id o) } := by
  obtain ⟨hopaid, hobalance, hototal⟩ := h.uninvoiced o ho hnone
  have hofind : tables.purchaseOrders.find? o.id = some o := (Table.mem_rows_iff _ _).1 ho
  have hrow : ∀ x ∈ (tables.purchaseInvoices.save
      (PurchaseInvoicesService.draftInvoice id o)).rows,
      x = PurchaseInvoicesService.draftInvoice id o ∨ x ∈ tables.purchaseInvoices.rows := by
    intro x hx
    exact ((Table.mem_save _ _ _).1 hx).imp_right And.left
  refine ⟨?_, ?_, ?_, ?_, ?_, ?_, ?_⟩
  · intro x hx
    rcases hrow x hx with rfl | hx
    · exact hopaid.trans (h.absent id hfresh).symm
    · exact h.paid x hx
  · intro k hk
    rw [Table.find?_save] at hk
    split at hk
    · cases hk
    · exact h.absent k hk
  · intro x hx hvoid
    rcases hrow x hx with rfl | hx
    · refine ⟨?_, ?_, o, hofind, rfl, rfl⟩
      · show o.balanceAmount = o.grandTotal - o.paidAmount - 0
        rw [hobalance, hopaid, sub_zero, sub_zero]
      · exact le_of_le_of_eq hototal hobalance.symm
    · exact h.settled x hx hvoid
  · intro x hx y hy hxy
    rcases hrow x hx with rfl | hx
    · rcases hrow y hy with rfl | hy
      · rfl
      · exact absurd hxy.symm (hnone y hy)
    · rcases hrow y hy with rfl | hy
      · exact absurd hxy (hnone x hx)
      · exact h.oneInvoice x hx y hy hxy
  · intro x hx y hy
    rcases hrow x hx with rfl | hx
    · obtain rfl := Option.some.inj (hofind.symm.trans hy)
      rfl
    · exact h.company x hx y hy
  · intro y hy hynone
    refine h.uninvoiced y hy fun x hx => hynone x ((Table.mem_save _ _ _).2 (.inr ⟨hx, ?_⟩))
    exact fun e => (Table.find?_eq_none.1 hfresh) x hx e
  · intro r hr
    obtain ⟨x, hx, hrx⟩ := h.returns r hr
    refine ⟨x, ?_, hrx⟩
    rw [Table.find?_save_ne]
    · exact hx
    · intro e
      have hid : id = r.purchaseInvoiceId := e
      rw [← hid, hfresh] at hx
      cases hx

theorem Agrees.saveReturn {r : PurchaseReturn} (h : Agrees paidOn tables)
    (hi : tables.purchaseInvoices.find? r.purchaseInvoiceId = some i)
    (hr : r.purchaseOrderId = i.purchaseOrderId) :
    Agrees paidOn { tables with purchaseReturns := tables.purchaseReturns.save r } where
  paid := h.paid
  absent := h.absent
  settled := h.settled
  oneInvoice := h.oneInvoice
  company := h.company
  uninvoiced := h.uninvoiced
  returns := Table.forall_save h.returns ⟨i, hi, hr⟩

theorem Agrees.congr {paidOn' : Uuid → Cents} (h : Agrees paidOn tables)
    (heq : ∀ k, paidOn k = paidOn' k) : Agrees paidOn' tables := by
  rwa [← funext heq]

/-! ## What the operations post -/

/-- Paying moves the paid amount: `settle` keeps the agreement. -/
theorem Agrees.settle {amount : Cents} (userId : Uuid)
    (h : Agrees paidOn tables) (hi : tables.purchaseInvoices.find? id = some i)
    (ho : tables.purchaseOrders.find? i.purchaseOrderId = some o)
    (hroom : i.status ≠ .Voided → i.paidAmount + amount ≤ i.grandTotal - i.creditedAmount) :
    Agrees (fun k => paidOn k + net [(id, amount)] k)
      (PurchaseInvoicesService.settle userId (i.paidAmount + amount) i o tables) := by
  refine h.rewrite _ _ amount hi ho ⟨rfl, rfl, rfl⟩ rfl rfl rfl fun hvoid => ⟨?_, ?_, rfl, rfl⟩
  · show i.grandTotal - i.creditedAmount - (i.paidAmount + amount) =
      i.grandTotal - (i.paidAmount + amount) - i.creditedAmount
    abel
  · exact Int.sub_nonneg_of_le (hroom hvoid)

/-- `db'` is `db` up to the purchase and the sales documents. -/
def DocumentsOnly (db db' : Db) : Prop :=
  db' = { db with buying := db'.buying, selling := db'.selling }

theorem DocumentsOnly.refl (db : Db) : DocumentsOnly db db := rfl

variable {db : Db}

theorem DocumentsOnly.trans {db₁ db₂ : Db} (h₁ : DocumentsOnly db db₁)
    (h₂ : DocumentsOnly db₁ db₂) : DocumentsOnly db db₂ := by
  unfold DocumentsOnly at h₁ h₂ ⊢
  rw [h₁] at h₂
  exact h₂

namespace PaymentsService

variable {companyId : Uuid} {userId : Uuid} {u : Unit}
  {db' : Db} {allocations : List PaymentAllocation}

theorem applyTarget_documents {t : AllocationTarget}
    (h : Commits (applyTarget companyId userId allocations t) db u db') : DocumentsOnly db db' := by
  obtain ⟨type, id⟩ := t
  cases type with
  | Sale =>
    obtain ⟨sale, -, -, -, rfl⟩ := (SalesService.commits_applyPayment _ _ _ _ _ _ _).1 h
    rfl
  | PurchaseInvoice =>
    obtain ⟨i, o, -, -, -, rfl⟩ := (PurchaseInvoicesService.commits_applyPayment _ _ _ _ _ _ _).1 h
    rfl
  | PurchaseOrder =>
    simp only [applyTarget, PurchaseOrdersService.applyPayment, savePurchaseOrder,
      commits_bind, commits_get, commits_orReject, commits_rejectIf, commits_modify] at h
    obtain ⟨_, _, ⟨rfl, rfl⟩, _, _, ⟨-, rfl⟩, _, _, ⟨-, rfl⟩, _, _, ⟨-, rfl⟩, rfl⟩ := h
    rfl
  | SaleReturn =>
    simp only [applyTarget, SaleReturnsService.applyRefund,
      SaleReturnsService.findByIdInCompany, SaleReturnsService.saveReturn, commits_bind,
      commits_get, commits_orReject, commits_rejectIf, commits_modify] at h
    obtain ⟨_, _, ⟨_, _, ⟨rfl, rfl⟩, -, rfl⟩, _, _, ⟨-, rfl⟩, _, _, ⟨-, rfl⟩, rfl⟩ := h
    rfl

theorem applyTargets_documents {ts : List AllocationTarget}
    (h : Commits (ts.forM (applyTarget companyId userId allocations)) db u db') :
    DocumentsOnly db db' :=
  forM_invariant (fun _ s => DocumentsOnly db s)
    (fun _ _ _ _ _ _ hI hstep => hI.trans (applyTarget_documents hstep)) (.refl db) h

theorem unapplyTotal_documents {e : Uuid × Cents}
    (h : Commits (unapplyTotal companyId userId e) db u db') : DocumentsOnly db db' := by
  obtain ⟨i, o, -, -, rfl⟩ := (PurchaseInvoicesService.commits_unapplyPayment _ _ _ _ _ _ _).1 h
  rfl

theorem applyTotal_documents {e : Uuid × Cents}
    (h : Commits (applyTotal companyId userId e) db u db') : DocumentsOnly db db' := by
  obtain ⟨i, o, -, -, -, rfl⟩ := (PurchaseInvoicesService.commits_applyPayment _ _ _ _ _ _ _).1 h
  rfl

theorem forM_documents {α : Type} {body : α → DbTx Unit} {xs : List α}
    (hbody : ∀ x db db' u, Commits (body x) db u db' → DocumentsOnly db db')
    (h : Commits (xs.forM body) db u db') : DocumentsOnly db db' :=
  forM_invariant (fun _ s => DocumentsOnly db s)
    (fun _ _ _ _ _ _ hI hstep => hI.trans (hbody _ _ _ _ hstep)) (.refl db) h

end PaymentsService

/-- The target that is purchase invoice `k`. -/
abbrev invoiceTarget (k : Uuid) : AllocationTarget := (.PurchaseInvoice, k)

variable {db' : Db}

/-- A loop posts what its iterations post. The agreement at hand is part of
what an iteration may rely on. -/
theorem forM_posts {α : Type} {body : α → DbTx Unit} (post : α → AllocationTarget × Cents)
    {xs : List α} {paidOn : Uuid → Cents} {u : Unit}
    (hbody : ∀ x ∈ xs, ∀ paidOn db db', Agrees paidOn db.buying → Commits (body x) db ⟨⟩ db' →
      DocumentsOnly db db' ∧
        Agrees (fun k => paidOn k + net [post x] (invoiceTarget k)) db'.buying)
    (h : Agrees paidOn db.buying) (hc : Commits (xs.forM body) db u db') :
    DocumentsOnly db db' ∧
      Agrees (fun k => paidOn k + net (xs.map post) (invoiceTarget k)) db'.buying := by
  refine forM_invariant (fun done db' => DocumentsOnly db db' ∧
      Agrees (fun k => paidOn k + net (done.map post) (invoiceTarget k)) db'.buying)
    (fun done x rest s s' heq hI hstep => ?_)
    ⟨DocumentsOnly.refl db, h.congr fun k => by rw [List.map_nil, net_nil, add_zero]⟩ hc
  have hx : x ∈ xs := by rw [heq]; exact List.mem_append_right _ List.mem_cons_self
  obtain ⟨hdocs, hagrees⟩ := hbody x hx _ s s' hI.2 hstep
  refine ⟨hI.1.trans hdocs, hagrees.congr fun k => ?_⟩
  rw [List.map_append, List.map_singleton, net_append, add_assoc]

namespace PaymentsService

variable {companyId : Uuid} {allocations : List PaymentAllocation} {paidOn : Uuid → Cents}
  {userId : Uuid}

theorem applyTarget_posts {t : AllocationTarget} (ht : t.1 ≠ .PurchaseOrder) (h : Agrees paidOn db.buying)
    (hc : Commits (applyTarget companyId userId allocations t) db ⟨⟩ db') :
    DocumentsOnly db db' ∧ Agrees
      (fun k => paidOn k + net [(t, totalForTarget allocations t)] (invoiceTarget k))
      db'.buying := by
  obtain ⟨type, id⟩ := t
  -- A target of another type posts to no invoice.
  have hother : type ≠ .PurchaseInvoice → ∀ k,
      paidOn k = paidOn k + net [((type, id), totalForTarget allocations (type, id))]
        (invoiceTarget k) := by
    intro hne k
    have hkey : ¬ (type, id) = invoiceTarget k := fun e => hne (Prod.mk.inj e).1
    rw [net_singleton, if_neg hkey, add_zero]
  cases type with
  | PurchaseOrder => exact absurd rfl ht
  | PurchaseInvoice =>
    obtain ⟨i, o, hfound, -, hroom, rfl⟩ :=
      (PurchaseInvoicesService.commits_applyPayment _ _ _ _ _ _ _).1 hc
    refine ⟨rfl, (h.settle userId hfound.row hfound.order fun _ => hroom).congr fun k => ?_⟩
    simp only [net_singleton, Prod.mk.injEq, true_and]
  | Sale =>
    change Commits (SalesService.applyPayment _ _ _ _) db _ db' at hc
    simp only [SalesService.applyPayment, SalesService.assertPayable, SalesService.saveSale,
      commits_bind, SalesService.commits_findByIdInCompany, commits_rejectIf, commits_modify] at hc
    obtain ⟨_, _, ⟨-, rfl⟩, _, _, ⟨-, rfl⟩, rfl⟩ := hc
    exact ⟨rfl, h.congr (hother (by decide))⟩
  | SaleReturn =>
    change Commits (SaleReturnsService.applyRefund _ _ _) db _ db' at hc
    simp only [SaleReturnsService.applyRefund, SaleReturnsService.findByIdInCompany,
      SaleReturnsService.saveReturn, commits_bind, commits_get, commits_orReject,
      commits_rejectIf, commits_modify] at hc
    obtain ⟨_, _, ⟨_, _, ⟨rfl, rfl⟩, -, rfl⟩, _, _, ⟨-, rfl⟩, _, _, ⟨-, rfl⟩, rfl⟩ := hc
    exact ⟨rfl, h.congr (hother (by decide))⟩

theorem applyTargets_posts {direction : PaymentDirection}
    (hvalid : ValidAllocations direction allocations) {u : Unit}
    (h : Agrees paidOn db.buying)
    (hc : Commits ((sortedTargets allocations).forM (applyTarget companyId userId allocations)) db u db') :
    DocumentsOnly db db' ∧ Agrees
      (fun k => paidOn k + net (allocationPostings allocations) (invoiceTarget k)) db'.buying := by
  have htype : ∀ t ∈ sortedTargets allocations, t.1 ≠ .PurchaseOrder := by
    intro t ht
    obtain ⟨a, ha, rfl⟩ := mem_sortedTargets.1 ht
    have hpair : a.target.1 = VALID_DIRECTION_REFERENCE_PAIRS direction := (hvalid a ha).1
    rw [hpair]
    cases direction <;> decide
  obtain ⟨hdocs, hagrees⟩ := forM_posts (fun t => (t, totalForTarget allocations t))
    (fun t ht _ _ _ hI hstep => applyTarget_posts (htype t ht) hI hstep) h hc
  refine ⟨hdocs, hagrees.congr fun k => ?_⟩
  rw [← net_targetPostings]
  rfl

def totalPosting (e : Uuid × Cents) : AllocationTarget × Cents := (invoiceTarget e.1, e.2)

def takenBack (e : Uuid × Cents) : AllocationTarget × Cents := (invoiceTarget e.1, -e.2)

theorem invoiceTarget_injective : Function.Injective invoiceTarget :=
  fun _ _ h => (Prod.mk.inj h).2

theorem net_totalPostings (htype : ∀ a ∈ allocations, a.referenceType = .PurchaseInvoice) (k : Uuid) :
    net ((totalsById allocations).map totalPosting) (invoiceTarget k) =
      net (allocationPostings allocations) (invoiceTarget k) := by
  rw [← net_totalsById htype]
  have hmap := net_map_of_injective (totalsById allocations) Prod.fst invoiceTarget_injective
    Prod.snd k
  rw [show (totalsById allocations).map (fun e => (e.1, e.2)) = totalsById allocations from
    List.map_id _] at hmap
  exact hmap

theorem net_takenBack (htype : ∀ a ∈ allocations, a.referenceType = .PurchaseInvoice) (k : Uuid) :
    net ((totalsById allocations).map takenBack) (invoiceTarget k) =
      -net (allocationPostings allocations) (invoiceTarget k) := by
  rw [← net_totalPostings htype]
  exact net_map_neg (totalsById allocations) (fun e => invoiceTarget e.1) Prod.snd (invoiceTarget k)

theorem totalsById_pos (hpos : ∀ a ∈ allocations, 0 < a.allocatedAmount) :
    ∀ e ∈ totalsById allocations, 0 < e.2 := by
  intro e he
  rw [totalsById, List.mem_insertionSort] at he
  obtain ⟨entry, hentry, rfl⟩ := List.mem_map.1 he
  obtain ⟨total, htotal, rfl⟩ := List.mem_map.1 hentry
  have hlookup : (buildAllocationTotals allocations).lookup total.1 = some total.2 :=
    AList.mem_lookup_iff.2 htotal
  have hnet := lookup_totals (allocationPostings allocations) total.1
  rw [← buildAllocationTotals, hlookup, Option.getD_some] at hnet
  have hkey : total.1 ∈ totals (allocationPostings allocations) :=
    List.mem_map.2 ⟨total, htotal, rfl⟩
  obtain ⟨p, hp, hpkey⟩ := (mem_totals _ _).1 hkey
  have hamounts : ∀ p ∈ allocationPostings allocations, 0 < p.2 := by
    intro q hq
    obtain ⟨a, ha, rfl⟩ := List.mem_map.1 hq
    exact hpos a ha
  show 0 < total.2
  rw [hnet]
  exact net_pos (fun q hq => (hamounts q hq).le) hp hpkey (hamounts p hp)

theorem totalsById_nonneg (hpos : ∀ a ∈ allocations, 0 < a.allocatedAmount) :
    ∀ e ∈ totalsById allocations, 0 ≤ e.2 :=
  fun e he => (totalsById_pos hpos e he).le

theorem unapplyTotal_posts {e : Uuid × Cents} (he : 0 ≤ e.2)
    (h : Agrees paidOn db.buying) (hc : Commits (unapplyTotal companyId userId e) db ⟨⟩ db') :
    DocumentsOnly db db' ∧
      Agrees (fun k => paidOn k + net [takenBack e] (invoiceTarget k)) db'.buying := by
  obtain ⟨i, o, hfound, -, rfl⟩ :=
    (PurchaseInvoicesService.commits_unapplyPayment _ _ _ _ _ _ _).1 hc
  refine ⟨rfl, ?_⟩
  have hroom : i.status ≠ .Voided → i.paidAmount + -e.2 ≤ i.grandTotal - i.creditedAmount := by
    intro hvoid
    have hsettled := h.settled i (Table.mem_of_find? hfound.row) hvoid
    have hbalance := hsettled.balance
    have hnonneg := hsettled.nonneg
    lia
  have hsettle := h.settle userId hfound.row hfound.order hroom
  rw [← sub_eq_add_neg] at hsettle
  refine hsettle.congr fun k => ?_
  simp only [takenBack, net_singleton, Prod.mk.injEq, true_and]

theorem applyTotal_posts {e : Uuid × Cents}
    (h : Agrees paidOn db.buying) (hc : Commits (applyTotal companyId userId e) db ⟨⟩ db') :
    DocumentsOnly db db' ∧
      Agrees (fun k => paidOn k + net [totalPosting e] (invoiceTarget k)) db'.buying := by
  obtain ⟨i, o, hfound, -, hroom, rfl⟩ :=
    (PurchaseInvoicesService.commits_applyPayment _ _ _ _ _ _ _).1 hc
  refine ⟨rfl, (h.settle userId hfound.row hfound.order fun _ => hroom).congr fun k => ?_⟩
  simp only [totalPosting, net_singleton, Prod.mk.injEq, true_and]

end PaymentsService

end FashionErp
