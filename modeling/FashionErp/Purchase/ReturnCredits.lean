/-
Supplier credit and the invoice it is given on, over whole runs.

A completed return is worth its pieces at their unit cost, and the two credits it is split
into come to just that, whatever the invoice owes.
-/
import FashionErp.Purchase.ClosedOrders
import FashionErp.Purchase.OrderCreation

namespace FashionErp

open Lib Lib.Tx PurchaseReturnsService

/-! ## What pieces of an order are worth -/

/-- `taken` pieces of each item, at the items' unit costs. -/
def PurchaseOrder.worth (order : PurchaseOrder) (taken : Uuid → ℤ) : Cents :=
  (order.items.map fun item => item.unitCostSnapshot * taken item.id).sum

def PurchaseOrder.keptWorth (order : PurchaseOrder) (taken : Uuid → ℤ) : Cents :=
  (order.items.map fun item => item.unitCostSnapshot * (item.quantity - taken item.id)).sum

def PurchaseOrder.netDiscount (order : PurchaseOrder) : Cents :=
  (order.items.map (·.netDiscount)).sum

theorem PurchaseOrder.worth_add (order : PurchaseOrder) (f g : Uuid → ℤ) :
    (order.worth fun k => f k + g k) = order.worth f + order.worth g := by
  simp only [worth, mul_add, List.sum_map_add]

theorem PurchaseOrder.worth_zero (order : PurchaseOrder) : (order.worth fun _ => 0) = 0 := by
  rw [worth]
  refine List.sum_eq_zero fun amount hamount => ?_
  obtain ⟨item, -, rfl⟩ := List.mem_map.1 hamount
  exact mul_zero _

theorem PurchaseOrder.worth_sum {ρ : Type} (order : PurchaseOrder) (rs : List ρ)
    (f : ρ → Uuid → ℤ) :
    (order.worth fun k => (rs.map fun r => f r k).sum) = (rs.map fun r => order.worth (f r)).sum := by
  induction rs with
  | nil => exact order.worth_zero
  | cons r rs ih =>
    simp only [List.map_cons, List.sum_cons]
    rw [order.worth_add, ih]

variable {order : PurchaseOrder}

theorem PurchaseOrder.Priced.total_eq (h : order.Priced) (taken : Uuid → ℤ) :
    order.grandTotal = order.worth taken + order.keptWorth taken - order.netDiscount := by
  rw [h.total, worth, keptWorth, netDiscount]
  induction order.items with
  | nil => rfl
  | cons item items ih =>
    have hline : item.charge = item.unitCostSnapshot * taken item.id +
        item.unitCostSnapshot * (item.quantity - taken item.id) - item.netDiscount := by
      rw [PurchaseOrderItem.charge, PurchaseOrderItem.netDiscount, mul_sub]
      abel
    simp only [List.map_cons, List.sum_cons]
    rw [ih, hline]
    abel

theorem PurchaseOrder.Priced.worth_le_iff (h : order.Priced) (taken : Uuid → ℤ) :
    order.worth taken ≤ order.grandTotal ↔ order.netDiscount ≤ order.keptWorth taken := by
  have htotal := h.total_eq taken
  lia

/-! ## What the returns come to -/

def completedQuantity (db : Db) (purchaseOrderId itemId : Uuid) : ℤ :=
  ((db.buying.purchaseReturns.rows.filter fun r =>
    r.status = .Completed ∧ r.purchaseOrderId = purchaseOrderId).map fun r =>
      net (draws r.items) itemId).sum

/-- `creditAppliedAmount` and `supplierCreditAmount`, over the completed returns of an
invoice. -/
def creditedOn (db : Db) (purchaseInvoiceId : Uuid) : Cents :=
  ((db.buying.purchaseReturns.rows.filter fun r =>
    r.status = .Completed ∧ r.purchaseInvoiceId = purchaseInvoiceId).map fun r =>
      r.creditAppliedAmount + r.supplierCreditAmount).sum

theorem completedQuantity_eq (db : Db) (purchaseOrderId itemId : Uuid) :
    completedQuantity db purchaseOrderId itemId = db.buying.purchaseReturns.sum fun r =>
      if r.status = .Completed ∧ r.purchaseOrderId = purchaseOrderId then net (draws r.items) itemId
      else 0 := by
  rw [completedQuantity, Table.sum_filter]
  simp only [decide_eq_true_eq]

theorem creditedOn_eq (db : Db) (purchaseInvoiceId : Uuid) :
    creditedOn db purchaseInvoiceId = db.buying.purchaseReturns.sum fun r =>
      if r.status = .Completed ∧ r.purchaseInvoiceId = purchaseInvoiceId then
        r.creditAppliedAmount + r.supplierCreditAmount
      else 0 := by
  rw [creditedOn, Table.sum_filter]
  simp only [decide_eq_true_eq]

/-- Supplier credit is within what was invoiced. -/
def CreditWithin (db : Db) : Prop :=
  ∀ i ∈ db.buying.purchaseInvoices.rows, creditedOn db i.id ≤ i.grandTotal

def ReturnsWithinReceipts (db : Db) : Prop :=
  ∀ o ∈ db.buying.purchaseOrders.rows, ∀ item ∈ o.items,
    completedQuantity db o.id item.id ≤ receivedByOrderItem db o.companyId o.id item.id

instance (db : Db) : Decidable (ReturnsWithinReceipts db) :=
  inferInstanceAs (Decidable (∀ o ∈ db.buying.purchaseOrders.rows, ∀ item ∈ o.items, _))

/-- The pieces kept are worth the discount: a return that is completed leaves pieces of
its order that are worth, at their unit costs, what the order gives off beyond its taxes. -/
def KeepsDiscountWorth (db : Db) : PurchaseRequest → Prop
  | .payables (.completeReturn id companyId userId now) =>
    Accepted (complete id companyId userId now) db →
      ∀ r ∈ db.buying.purchaseReturns.find? id,
        ∀ o ∈ db.buying.purchaseOrders.find? r.purchaseOrderId,
          o.netDiscount ≤
            o.keptWorth fun itemId => completedQuantity db o.id itemId + net (draws r.items) itemId
  | _ => True

instance (db : Db) (request : PurchaseRequest) : Decidable (KeepsDiscountWorth db request) := by
  unfold KeepsDiscountWorth
  split <;> infer_instance

/-! ## The invariant -/

structure PurchaseReturn.Valued (r : PurchaseReturn) (orders : Table PurchaseOrder) : Prop where
  worth : ∀ o ∈ orders.find? r.purchaseOrderId, r.subtotal = o.worth (net (draws r.items))
  credit : r.status = .Completed → r.creditAppliedAmount + r.supplierCreditAmount = r.subtotal

/-- What every reachable state satisfies: orders are priced, invoices are for the totals
of their orders, and returns are valued. -/
structure CreditInv (db : Db) : Prop where
  purchase : PurchaseInv db
  priced : ∀ o ∈ db.buying.purchaseOrders.rows, o.Priced
  invoiced : ∀ i ∈ db.buying.purchaseInvoices.rows,
    ∀ o ∈ db.buying.purchaseOrders.find? i.purchaseOrderId, i.grandTotal = o.grandTotal
  valued : ∀ r ∈ db.buying.purchaseReturns.rows, r.Valued db.buying.purchaseOrders

variable {i : PurchaseInvoice}

theorem CreditInv.of_invoice_iff {db : Db} (h : CreditInv db)
    (hi : i ∈ db.buying.purchaseInvoices.rows) {r : PurchaseReturn}
    (hr : r ∈ db.buying.purchaseReturns.rows) :
    r.purchaseInvoiceId = i.id ↔ r.purchaseOrderId = i.purchaseOrderId := by
  obtain ⟨j, hj, hrj⟩ := h.purchase.payables.agrees.returns r hr
  have hjid : j.id = r.purchaseInvoiceId := Table.key_of_find? hj
  have hjmem := Table.mem_of_find? hj
  constructor
  · intro hri
    obtain rfl : j = i := Table.eq_of_key hjmem hi (hjid.trans hri)
    exact hrj
  · intro hri
    rw [← hjid]
    exact h.purchase.payables.agrees.oneInvoice j hjmem i hi (hrj.symm.trans hri)

variable {o : PurchaseOrder} {t : PurchaseTables}

theorem CreditInv.creditedOn_worth {db : Db} (h : CreditInv db)
    (hi : i ∈ db.buying.purchaseInvoices.rows)
    (ho : db.buying.purchaseOrders.find? i.purchaseOrderId = some o) :
    creditedOn db i.id = o.worth (completedQuantity db o.id) := by
  have hoid : o.id = i.purchaseOrderId := Table.key_of_find? ho
  have hquantity := funext (completedQuantity_eq db o.id)
  rw [creditedOn_eq, hquantity]
  simp only [Table.sum]
  rw [o.worth_sum]
  refine congrArg List.sum (List.map_congr_left fun r hr => ?_)
  by_cases hof : r.status = .Completed ∧ r.purchaseOrderId = o.id
  · have hinvoice : r.purchaseInvoiceId = i.id := by
      rw [h.of_invoice_iff hi hr, hof.2, hoid]
    have hfound : o ∈ db.buying.purchaseOrders.find? r.purchaseOrderId := by
      rw [hof.2, hoid]
      exact ho
    simp only [if_pos hof]
    rw [if_pos ⟨hof.1, hinvoice⟩, (h.valued r hr).credit hof.1, (h.valued r hr).worth o hfound]
  · have hother : ¬ (r.status = .Completed ∧ r.purchaseInvoiceId = i.id) := by
      rw [h.of_invoice_iff hi hr, ← hoid]
      exact hof
    simp only [if_neg hof]
    rw [if_neg hother, o.worth_zero]

/-! ## Documents for the same amounts -/

/-- The orders and the invoices of `tables'` are those of `tables`, for the same amounts, and
invoices that are new, each for the total of its order. -/
structure SameTotals (tables tables' : PurchaseTables) : Prop where
  orders : ∀ id o', tables'.purchaseOrders.find? id = some o' →
    ∃ o, tables.purchaseOrders.find? id = some o ∧ o'.items = o.items ∧
      o'.grandTotal = o.grandTotal
  invoices : ∀ id i', tables'.purchaseInvoices.find? id = some i' →
    (∃ i, tables.purchaseInvoices.find? id = some i ∧ i'.purchaseOrderId = i.purchaseOrderId ∧
      i'.grandTotal = i.grandTotal) ∨
    (tables.purchaseInvoices.find? id = none ∧
      ∃ o, tables.purchaseOrders.find? i'.purchaseOrderId = some o ∧ i'.grandTotal = o.grandTotal)
  kept : ∀ id, tables'.purchaseInvoices.find? id = none → tables.purchaseInvoices.find? id = none

theorem SameTotals.refl (tables : PurchaseTables) : SameTotals tables tables where
  orders _ o' ho' := ⟨o', ho', rfl, rfl⟩
  invoices _ i' hi' := .inl ⟨i', hi', rfl, rfl⟩
  kept _ hnone := hnone

theorem SameTotals.trans {t₁ t₂ : PurchaseTables} (h₁ : SameTotals t t₁) (h₂ : SameTotals t₁ t₂) :
    SameTotals t t₂ where
  orders id o₂ ho₂ := by
    obtain ⟨o₁, ho₁, hitems₂, htotal₂⟩ := h₂.orders id o₂ ho₂
    obtain ⟨o, ho, hitems₁, htotal₁⟩ := h₁.orders id o₁ ho₁
    exact ⟨o, ho, hitems₂.trans hitems₁, htotal₂.trans htotal₁⟩
  invoices id i₂ hi₂ := by
    rcases h₂.invoices id i₂ hi₂ with ⟨i₁, hi₁, horder₂, htotal₂⟩ | ⟨hnone, o₁, ho₁, htotal₂⟩
    · rcases h₁.invoices id i₁ hi₁ with ⟨i, hi, horder₁, htotal₁⟩ | ⟨hnone, o, ho, htotal₁⟩
      · exact .inl ⟨i, hi, horder₂.trans horder₁, htotal₂.trans htotal₁⟩
      · refine .inr ⟨hnone, o, ?_, htotal₂.trans htotal₁⟩
        rw [horder₂]
        exact ho
    · obtain ⟨o, ho, -, htotal₁⟩ := h₁.orders _ o₁ ho₁
      exact .inr ⟨h₁.kept id hnone, o, ho, htotal₂.trans htotal₁⟩
  kept id hnone := h₁.kept id (h₂.kept id hnone)

theorem SameTotals.withReturns {t' : PurchaseTables} (h : SameTotals t t')
    (returns : Table PurchaseReturn) : SameTotals t { t' with purchaseReturns := returns } :=
  ⟨h.orders, h.invoices, h.kept⟩

theorem SameShape.sameTotals {tables tables' : PurchaseTables} (h : SameShape tables tables') :
    SameTotals tables tables' where
  orders id o' ho' := by
    obtain ⟨o, ho, -, hitems, -, htotal⟩ := h.orders id o' ho'
    exact ⟨o, ho, hitems, htotal⟩
  invoices id i' hi' := by
    obtain ⟨i, hi, horder⟩ := h.invoices id i' hi'
    obtain ⟨i₁, hi₁, -, htotal, -⟩ := h.kept id i hi
    obtain rfl := Option.some.inj (hi'.symm.trans hi₁)
    exact .inl ⟨i, hi, horder, htotal⟩
  kept id hnone := by
    rw [← Option.not_isSome_iff_eq_none]
    intro hsome
    obtain ⟨i, hi⟩ := Option.isSome_iff_exists.1 hsome
    obtain ⟨i', hi', -⟩ := h.kept id i hi
    rw [hnone] at hi'
    cases hi'

variable {id userId : Uuid}

theorem SameTotals.saveInvoice (i' : PurchaseInvoice)
    (hi : t.purchaseInvoices.find? id = some i) (hid : i'.id = i.id)
    (horder : i'.purchaseOrderId = i.purchaseOrderId) (htotal : i'.grandTotal = i.grandTotal) :
    SameTotals t { t with purchaseInvoices := t.purchaseInvoices.save i' } where
  orders _ o' ho' := ⟨o', ho', rfl, rfl⟩
  invoices j x hx := by
    have hkey : key i' = key i := hid
    rcases Table.find?_save_over hi hkey hx with ⟨rfl, rfl⟩ | ⟨-, hx⟩
    · exact .inl ⟨i, hi, horder, htotal⟩
    · exact .inl ⟨x, hx, rfl, rfl⟩
  kept j hnone := by
    change (t.purchaseInvoices.save i').find? j = none at hnone
    rw [Table.find?_save] at hnone
    split at hnone
    · cases hnone
    · exact hnone

theorem SameTotals.saveOrder (o' : PurchaseOrder)
    (ho : t.purchaseOrders.find? id = some o) (hid : o'.id = o.id) (hitems : o'.items = o.items)
    (htotal : o'.grandTotal = o.grandTotal) :
    SameTotals t { t with purchaseOrders := t.purchaseOrders.save o' } where
  orders j x hx := by
    have hkey : key o' = key o := hid
    rcases Table.find?_save_over ho hkey hx with ⟨rfl, rfl⟩ | ⟨-, hx⟩
    · exact ⟨o, ho, hitems, htotal⟩
    · exact ⟨x, hx, rfl, rfl⟩
  invoices _ i' hi' := .inl ⟨i', hi', rfl, rfl⟩
  kept _ hnone := hnone

theorem SameTotals.insertDraft (hfresh : t.purchaseInvoices.find? id = none)
    (ho : t.purchaseOrders.find? o.id = some o) :
    SameTotals t { t with
      purchaseInvoices := t.purchaseInvoices.save (PurchaseInvoicesService.draftInvoice id o) } where
  orders _ o' ho' := ⟨o', ho', rfl, rfl⟩
  invoices j x hx := by
    change (t.purchaseInvoices.save _).find? j = some x at hx
    rw [Table.find?_save] at hx
    split at hx
    · rename_i hkey
      have hj : id = j := hkey
      cases hx
      rw [hj] at hfresh
      exact .inr ⟨hfresh, o, ho, rfl⟩
    · exact .inl ⟨x, hx, rfl, rfl⟩
  kept j hnone := by
    change (t.purchaseInvoices.save _).find? j = none at hnone
    rw [Table.find?_save] at hnone
    split at hnone
    · cases hnone
    · exact hnone

/-! ## What a step keeps -/

theorem PurchaseOrder.Priced.congr {o' : PurchaseOrder} (h : o.Priced) (hitems : o'.items = o.items)
    (htotal : o'.grandTotal = o.grandTotal) : o'.Priced := by
  obtain ⟨hids, hcosts, hdiscounts, htaxes, hsum⟩ := h
  rw [← hitems] at hids hcosts hdiscounts htaxes hsum
  exact ⟨hids, hcosts, hdiscounts, htaxes, htotal.trans hsum⟩

/-- The invariant over documents for the same amounts, with returns that are valued. -/
theorem CreditInv.next {db db' : Db} (h : CreditInv db) (hpurchase : PurchaseInv db')
    (htotals : SameTotals db.buying db'.buying)
    (hvalued : ∀ r ∈ db'.buying.purchaseReturns.rows, r.Valued db.buying.purchaseOrders) :
    CreditInv db' where
  purchase := hpurchase
  priced o' ho' := by
    obtain ⟨o, ho, hitems, htotal⟩ := htotals.orders o'.id o' ((Table.mem_rows_iff _ _).1 ho')
    exact (h.priced o (Table.mem_of_find? ho)).congr hitems htotal
  invoiced i' hi' o' ho' := by
    obtain ⟨o, ho, -, htotal⟩ := htotals.orders _ o' ho'
    rcases htotals.invoices i'.id i' ((Table.mem_rows_iff _ _).1 hi') with
      ⟨i, hi, horder, hsame⟩ | ⟨-, o₁, ho₁, hsame⟩
    · rw [horder] at ho
      rw [hsame, htotal]
      exact h.invoiced i (Table.mem_of_find? hi) o ho
    · obtain rfl := Option.some.inj (ho.symm.trans ho₁)
      rw [hsame, htotal]
  valued r hr := by
    refine ⟨fun o' ho' => ?_, (hvalued r hr).credit⟩
    obtain ⟨o, ho, hitems, -⟩ := htotals.orders _ o' ho'
    rw [(hvalued r hr).worth o ho, PurchaseOrder.worth, PurchaseOrder.worth, hitems]

theorem CreditInv.creditedOn_absent {db : Db} (h : CreditInv db)
    (hnone : db.buying.purchaseInvoices.find? id = none) : creditedOn db id = 0 := by
  rw [creditedOn_eq, Table.sum]
  refine List.sum_eq_zero fun amount hamount => ?_
  obtain ⟨r, hr, rfl⟩ := List.mem_map.1 hamount
  rw [if_neg]
  rintro ⟨-, hid⟩
  obtain ⟨i, hi, -⟩ := h.purchase.payables.agrees.returns r hr
  rw [hid, hnone] at hi
  cases hi

theorem CreditInv.within_next {db db' : Db} (h : CreditInv db)
    (htotals : SameTotals db.buying db'.buying)
    (hcredited : ∀ id, creditedOn db' id = creditedOn db id) (hwithin : CreditWithin db) :
    CreditWithin db' := by
  intro i' hi'
  rw [hcredited]
  rcases htotals.invoices i'.id i' ((Table.mem_rows_iff _ _).1 hi') with
    ⟨i, hi, -, htotal⟩ | ⟨hnone, o, ho, htotal⟩
  · have hid : i.id = i'.id := Table.key_of_find? hi
    rw [htotal, ← hid]
    exact hwithin i (Table.mem_of_find? hi)
  · rw [h.creditedOn_absent hnone, htotal]
    exact (h.priced o (Table.mem_of_find? ho)).total_nonneg

structure KeepsCredit (db db' : Db) : Prop where
  inv : CreditInv db'
  within : CreditWithin db → CreditWithin db'

theorem KeepsCredit.refl {db : Db} (h : CreditInv db) : KeepsCredit db db := ⟨h, id⟩

theorem KeepsCredit.run {α : Type} {t : DbTx α} {db : Db} (h : CreditInv db)
    (hc : ∀ a db', Commits t db a db' → KeepsCredit db db') : KeepsCredit db (run t db).2 := by
  rcases run_cases t db with ⟨a, db', hcommits, hrun⟩ | ⟨_, -, hrun⟩
  · rw [hrun]
    exact hc a db' hcommits
  · rw [hrun]
    exact .refl h

theorem CreditInv.keeps {db db' : Db} (h : CreditInv db) (hpurchase : PurchaseInv db')
    (htotals : SameTotals db.buying db'.buying)
    (hreturns : db'.buying.purchaseReturns = db.buying.purchaseReturns) : KeepsCredit db db' := by
  refine ⟨h.next hpurchase htotals ?_, h.within_next htotals fun id => ?_⟩
  · rw [hreturns]
    exact h.valued
  · rw [creditedOn, creditedOn, hreturns]

theorem CreditInv.keeps_of_same {db db' : Db} (h : CreditInv db) (hpurchase : PurchaseInv db')
    (hbuying : db'.buying = db.buying) : KeepsCredit db db' := by
  refine h.keeps hpurchase ?_ (by rw [hbuying])
  rw [hbuying]
  exact .refl _

/-! ### Payments and invoices -/

namespace PaymentsService

variable {now : Instant} {companyId : Uuid}

theorem create_credit {dto : CreatePaymentDto}
    {key : Option String} {db db' : Db} {result : Payment × Bool} (h : CreditInv db)
    (hc : Commits (create companyId userId now dto key) db result db') : KeepsCredit db db' := by
  have hkeeps := create_keeps h.purchase hc
  rcases create_cases hc with ⟨-, rfl⟩ | ⟨-, hvalid, hrun⟩
  · exact .refl h
  · have hshape := ((runCreate_created hrun).reckoned hvalid h.purchase.accounted).shape
    exact h.keeps hkeeps.inv hshape.sameTotals hshape.returns

theorem reverse_credit {reason : String} {db db' : Db} {reversed : Payment} (h : CreditInv db)
    (hc : Commits (reverse id companyId userId now reason) db reversed db') : KeepsCredit db db' := by
  obtain ⟨hpurchase, -⟩ := reverse_closed_iff h.purchase hc
  obtain ⟨payment, hrev⟩ := reverse_reversed hc
  have hpos := h.purchase.payables.positive payment (Table.mem_of_find? hrev.row)
  have hshape := (hrev.reckoned hpos h.purchase.accounted).shape
  exact h.keeps hpurchase hshape.sameTotals hshape.returns

theorem reallocate_credit
    {dto : ReallocatePaymentDto} {db db' : Db} {reallocated : Payment} (h : CreditInv db)
    (hc : Commits (reallocate id companyId userId now dto) db reallocated db') :
    KeepsCredit db db' := by
  obtain ⟨hpurchase, -⟩ := reallocate_closed_iff h.purchase hc
  have hshape := (reallocate_reckoned h.purchase.payables h.purchase.accounted hc).shape
  exact h.keeps hpurchase hshape.sameTotals hshape.returns

end PaymentsService

namespace PurchaseInvoicesService

variable {companyId : Uuid}

theorem sync_credit {supplierId : Option Uuid} {db db' : Db} {u : Unit}
    (h : CreditInv db) (hc : Commits (syncEligibleInvoices companyId supplierId) db u db') :
    KeepsCredit db db' := by
  have hkeeps := sync_keeps h.purchase hc
  simp only [syncEligibleInvoices, commits_bind, commits_get] at hc
  obtain ⟨_, _, ⟨rfl, rfl⟩, hloop⟩ := hc
  obtain ⟨-, hreturns, htotals⟩ := forM_invariant
    (fun _ s => s.buying.purchaseOrders = db.buying.purchaseOrders ∧
      s.buying.purchaseReturns = db.buying.purchaseReturns ∧ SameTotals db.buying s.buying)
    (fun done o rest s s' heq hI hstep => by
      obtain ⟨horders, hreturns, htotals⟩ := hI
      have ho : o ∈ eligibleOrders db companyId supplierId := by
        rw [heq]
        exact List.mem_append_right _ List.mem_cons_self
      have hrow : s.buying.purchaseOrders.find? o.id = some o := by
        rw [horders]
        exact (Table.mem_rows_iff _ _).1 (mem_eligibleOrders ho).1
      obtain ⟨id, s₁, -, hfresh, rfl⟩ := insertInvoice_spec hstep
      exact ⟨horders, hreturns, htotals.trans (.insertDraft hfresh hrow)⟩)
    ⟨rfl, rfl, .refl _⟩ hloop
  exact h.keeps hkeeps.inv htotals hreturns

theorem post_credit {now : Instant} {db db' : Db} {posted : PurchaseInvoice} (h : CreditInv db)
    (hc : Commits (post id companyId userId now) db posted db') : KeepsCredit db db' := by
  have hkeeps := post_keeps h.purchase hc
  simp only [post, savePurchaseInvoice, commits_bind, commits_findEntity, commits_findOrder,
    commits_rejectIf, commits_get, commits_modify, commits_pure] at hc
  obtain ⟨invoice, _, ⟨⟨hfind, -⟩, rfl⟩, _, _, ⟨-, rfl⟩, _, _, ⟨-, rfl⟩, _, _, ⟨-, rfl⟩, _, _,
    ⟨rfl, rfl⟩, _, _, ⟨-, rfl⟩, _, _, rfl, -, rfl⟩ := hc
  exact h.keeps hkeeps.inv (.saveInvoice _ hfind rfl rfl rfl) rfl

theorem void_credit {now : Instant} {reason : String} {db db' : Db}
    {voided : PurchaseInvoice} (h : CreditInv db)
    (hc : Commits (void id companyId userId now reason) db voided db') : KeepsCredit db db' := by
  have hkeeps := void_keeps h.purchase hc
  simp only [void, savePurchaseInvoice, commits_bind, commits_findEntity, commits_rejectIf,
    commits_modify, commits_pure] at hc
  obtain ⟨invoice, _, ⟨⟨hfind, -⟩, rfl⟩, _, _, ⟨-, rfl⟩, _, _, ⟨-, rfl⟩, _, _, rfl, -, rfl⟩ := hc
  exact h.keeps hkeeps.inv (.saveInvoice _ hfind rfl rfl rfl) rfl

end PurchaseInvoicesService

theorem PurchaseOrdersService.changeStatus_credit {t : Transition} {companyId : Uuid}
    {now : Instant} {db db' : Db} {changed : PurchaseOrder} (h : CreditInv db)
    (hc : Commits (changeStatus t id companyId userId now) db changed db') : KeepsCredit db db' := by
  have hkeeps := changeStatus_keeps h.purchase hc
  obtain ⟨order, hfind, -, -, -, -, rfl⟩ := (commits_changeStatus ..).1 hc
  have hsame := t.mark_sameAmounts userId now order
  exact h.keeps hkeeps.inv (.saveOrder _ hfind hsame.id (t.mark_items userId now order) hsame.total) rfl

/-! ### Returns -/

namespace PurchaseReturnsService

def AtCost (order : PurchaseOrder) (row : PurchaseReturnItem) : Prop :=
  ∃ item ∈ order.items, row.purchaseOrderItemId = item.id ∧
    row.lineTotal = item.unitCostSnapshot * row.quantity

variable {companyId : Uuid} {db' : Db} {r : PurchaseReturn} {rows : List PurchaseReturnItem}

theorem createItem_atCost {rows' : List PurchaseReturnItem}
    {line : CreatePurchaseReturnItemDto} {db : Db}
    (h : Commits (createItem companyId order rows line) db rows' db') :
    ∃ row, rows' = rows ++ [row] ∧ AtCost order row := by
  simp only [createItem, commits_bind, commits_get, commits_orReject, commits_rejectIf,
    commits_pure] at h
  obtain ⟨_, _, ⟨rfl, rfl⟩, item, _, ⟨hitem, rfl⟩, _, _, ⟨-, rfl⟩, _, _, ⟨-, rfl⟩, rfl, rfl⟩ := h
  have hid : item.id = line.purchaseOrderItemId := by simpa using List.find?_some hitem
  exact ⟨_, rfl, item, List.mem_of_find?_eq_some hitem, hid.symm, rfl⟩

theorem sum_lineTotal (hids : (order.items.map (·.id)).Nodup) (hrows : ∀ row ∈ rows, AtCost order row) :
    (rows.map (·.lineTotal)).sum = order.worth (net (draws rows)) := by
  have hinj : ∀ x ∈ order.items, ∀ y ∈ order.items, x.id = y.id → x = y :=
    fun x hx y hy => List.inj_on_of_nodup_map hids hx hy
  -- A line counts for the one item it is for.
  have howner : ∀ p ∈ rows.map fun row => (row.purchaseOrderItemId, row.lineTotal), p.2 ≠ 0 →
      ∃ x ∈ order.items, ∀ y ∈ order.items, some y.id = some p.1 ↔ x = y := by
    intro p hp _
    obtain ⟨row, hrow, rfl⟩ := List.mem_map.1 hp
    obtain ⟨item, hitem, hid, -⟩ := hrows row hrow
    refine ⟨item, hitem, fun y hy => ?_⟩
    rw [Option.some.injEq, hid]
    exact ⟨fun e => hinj item hitem y hy e.symm, fun e => by rw [e]⟩
  have hsum := sum_net_items (fun item : PurchaseOrderItem => some item.id) hids.of_map howner
  rw [List.map_map] at hsum
  refine hsum.symm.trans (congrArg List.sum (List.map_congr_left fun item hitem => ?_))
  rw [Option.elim_some, mul_comm, draws, net_map_mul, net_map, net_map]
  refine congrArg List.sum (List.map_congr_left fun row hrow => ?_)
  obtain ⟨x, hx, hid, htotal⟩ := hrows row hrow
  by_cases hof : row.purchaseOrderItemId = item.id
  · obtain rfl := hinj x hx item hitem (hid.symm.trans hof)
    rw [if_pos hof, if_pos hof, htotal, mul_comm]
  · rw [if_neg hof, if_neg hof]

variable {dto : CreatePurchaseReturnDto}

/-- A new return is worth its pieces. -/
theorem create_valued {now : Instant} {db : Db}
    (h : CreditInv db) (hc : Commits (create companyId userId now dto) db r db') :
    r.Valued db.buying.purchaseOrders := by
  simp only [create, generateReturnNumber, saveReturn, commits_bind, commits_get, commits_orReject,
    commits_rejectIf, commits_modify, commits_pure] at hc
  obtain ⟨_, _, ⟨rfl, rfl⟩, invoice, _, ⟨-, rfl⟩, _, _, ⟨-, rfl⟩, order, _, ⟨horder, rfl⟩, rows, db₁,
    hloop, number, db₂, -, id, db₃, -, _, _, ⟨rfl, rfl⟩, _, _, ⟨-, rfl⟩, _, _, rfl, rfl, rfl⟩ := hc
  have hrows : ∀ row ∈ rows, AtCost order row := by
    refine foldlM_invariant (fun _ rows _ => ∀ row ∈ rows, AtCost order row)
      (fun done line _ rows s rows' s' _ hI hc x hx => ?_)
      (fun _ hrow => absurd hrow List.not_mem_nil) hloop
    obtain ⟨row, rfl, hrow⟩ := createItem_atCost hc
    rcases List.mem_append.1 hx with hx | hx
    · exact hI x hx
    · rw [List.mem_singleton.1 hx]
      exact hrow
  have hfind := (Option.filter_eq_some_iff.1 horder).1
  refine ⟨fun o ho => ?_, fun hcompleted => by cases hcompleted⟩
  have hid : order.id = invoice.purchaseOrderId := Table.key_of_find? hfind
  rw [← hid] at hfind
  obtain rfl := Option.some.inj (hfind.symm.trans ho)
  exact sum_lineTotal (h.priced order (Table.mem_of_find? hfind)).ids hrows

theorem creditedOn_saveReturn {db : Db} (hr : r.status ≠ .Completed)
    (hold : ∀ r₀ ∈ db.buying.purchaseReturns.find? r.id, r₀.status ≠ .Completed)
    (hreturns : db'.buying.purchaseReturns = db.buying.purchaseReturns.save r) (id : Uuid) :
    creditedOn db' id = creditedOn db id := by
  rw [creditedOn_eq, creditedOn_eq, hreturns]
  have hsum := Table.sum_save db.buying.purchaseReturns r fun r : PurchaseReturn =>
    if r.status = .Completed ∧ r.purchaseInvoiceId = id then
      r.creditAppliedAmount + r.supplierCreditAmount else 0
  have hnew : ¬ (r.status = .Completed ∧ r.purchaseInvoiceId = id) := fun hc => hr hc.1
  simp only [if_neg hnew, add_zero] at hsum
  cases hfind : db.buying.purchaseReturns.find? (key r) with
  | none =>
    rw [hfind, Option.map_none, Option.getD_none, add_zero] at hsum
    exact hsum
  | some r₀ =>
    have hopen : ¬ (r₀.status = .Completed ∧ r₀.purchaseInvoiceId = id) :=
      fun hc => hold r₀ hfind hc.1
    rw [hfind, Option.map_some, Option.getD_some, if_neg hopen, add_zero] at hsum
    exact hsum

theorem create_credit {now : Instant} {db : Db}
    (h : CreditInv db) (hc : Commits (create companyId userId now dto) db r db') :
    KeepsCredit db db' := by
  have hkeeps := create_keeps h.purchase hc
  have hvalued := create_valued h hc
  obtain ⟨order, -, hfresh, hdraft, -, hdb'⟩ := create_spec hc
  have hnot : r.status ≠ .Completed := by
    rw [hdraft]
    decide
  have htotals : SameTotals db.buying db'.buying := by
    rw [hdb']
    exact (SameTotals.refl _).withReturns _
  have hreturns : db'.buying.purchaseReturns = db.buying.purchaseReturns.save r := by rw [hdb']
  refine ⟨h.next hkeeps.inv htotals ?_, h.within_next htotals (creditedOn_saveReturn hnot ?_ hreturns)⟩
  · rw [hreturns]
    exact Table.forall_save h.valued hvalued
  · rw [hfresh]
    exact fun _ hr₀ => by cases hr₀

theorem cancel_credit {db : Db} {cancelled : PurchaseReturn} (h : CreditInv db)
    (hc : Commits (cancel id companyId) db cancelled db') : KeepsCredit db db' := by
  have hkeeps := cancel_keeps h.purchase hc
  obtain ⟨draft, hfind, hdraft, rfl⟩ := cancel_spec hc
  have hid : draft.id = id := Table.key_of_find? hfind
  have htotals := (SameTotals.refl db.buying).withReturns
    (db.buying.purchaseReturns.save { draft with status := .Cancelled })
  refine ⟨h.next hkeeps.inv htotals (Table.forall_save h.valued
      ⟨(h.valued draft (Table.mem_of_find? hfind)).worth, fun hc => by cases hc⟩),
    h.within_next htotals (creditedOn_saveReturn (r := { draft with status := .Cancelled })
      nofun (fun r₀ hr₀ => ?_) rfl)⟩
  change db.buying.purchaseReturns.find? draft.id = some r₀ at hr₀
  rw [hid, hfind] at hr₀
  rw [← Option.some.inj hr₀, hdraft]
  decide

/-- The two credits come to the return, whatever the invoice owes. -/
theorem credits_eq (invoice : PurchaseInvoice) (returnAmount : Cents) :
    creditApplied invoice returnAmount + supplierCredit invoice returnAmount = returnAmount := by
  unfold creditApplied supplierCredit
  lia

theorem creditedOn_complete {db : Db} (r' : PurchaseReturn)
    (hfind : db.buying.purchaseReturns.find? r.id = some r) (hdraft : r.status = .Draft)
    (hid : r'.id = r.id) (hcompleted : r'.status = .Completed)
    (hcredit : r'.creditAppliedAmount + r'.supplierCreditAmount = r.subtotal)
    (hreturns : db'.buying.purchaseReturns = db.buying.purchaseReturns.save r') (id : Uuid) :
    creditedOn db' id = creditedOn db id + if r'.purchaseInvoiceId = id then r.subtotal else 0 := by
  have hopen : ¬ (r.status = .Completed ∧ r.purchaseInvoiceId = id) := by
    rw [hdraft]
    rintro ⟨hc, -⟩
    cases hc
  have hold : db.buying.purchaseReturns.find? (key r') = some r := by
    show db.buying.purchaseReturns.find? r'.id = some r
    rw [hid]
    exact hfind
  rw [creditedOn_eq, creditedOn_eq, hreturns, Table.sum_save_over _ _ _ _ hold]
  simp only [hcompleted, true_and, if_neg hopen, sub_zero, hcredit]

/-- Completing a return keeps the credit within what was invoiced exactly if the pieces
kept are worth the discount. -/
theorem complete_within_iff {now : Instant} {db : Db}
    {completed : PurchaseReturn} (h : CreditInv db)
    (hc : Commits (complete id companyId userId now) db completed db') :
    CreditInv db' ∧ (CreditWithin db → (CreditWithin db' ↔
      ∀ r ∈ db.buying.purchaseReturns.find? id,
        ∀ o ∈ db.buying.purchaseOrders.find? r.purchaseOrderId,
          o.netDiscount ≤
            o.keptWorth fun itemId => completedQuantity db o.id itemId + net (draws r.items) itemId)) := by
  have hkeeps := complete_keeps h.purchase hc
  obtain ⟨r, invoice, order, warehouseId, hreturn, hdraft, hinvoice, horder, -, -, -, stocks, ms,
    hdb'⟩ := complete_spec hc
  have hmem := Table.mem_of_find? hreturn
  have himem := Table.mem_of_find? hinvoice
  have hiid : invoice.id = r.purchaseInvoiceId := Table.key_of_find? hinvoice
  have htotals : SameTotals db.buying db'.buying := by
    rw [hdb']
    have hwritten := SameTotals.saveInvoice (creditedInvoice userId r.subtotal invoice) hinvoice rfl rfl
      rfl
    exact (hwritten.trans (.saveOrder { order with
      balanceAmount := newBalance invoice r.subtotal, updatedBy := some userId }
      horder rfl rfl rfl)).withReturns _
  have hreturns : db'.buying.purchaseReturns =
      db.buying.purchaseReturns.save (completedReturn userId now invoice r) := by rw [hdb']
  have hcredits := credits_eq invoice r.subtotal
  have hcredited : ∀ k, creditedOn db' k =
      creditedOn db k + if r.purchaseInvoiceId = k then r.subtotal else 0 :=
    creditedOn_complete (completedReturn userId now invoice r) ((Table.mem_rows_iff _ _).1 hmem) hdraft
      rfl rfl hcredits hreturns
  have hinv : CreditInv db' := by
    refine h.next hkeeps.inv htotals ?_
    rw [hreturns]
    exact Table.forall_save h.valued ⟨(h.valued r hmem).worth, fun _ => hcredits⟩
  refine ⟨hinv, fun hwithin => ?_⟩
  -- The credit moves on the return's own invoice only.
  have hone : CreditWithin db' ↔ creditedOn db invoice.id + r.subtotal ≤ invoice.grandTotal := by
    constructor
    · intro hafter
      have hrow : creditedInvoice userId r.subtotal invoice ∈ db'.buying.purchaseInvoices.rows := by
        rw [hdb']
        exact (Table.mem_save _ _ _).2 (.inl rfl)
      have hle : creditedOn db' invoice.id ≤ invoice.grandTotal :=
        hafter (creditedInvoice userId r.subtotal invoice) hrow
      rw [hcredited, if_pos hiid.symm] at hle
      exact hle
    · intro hle i' hi'
      rw [hcredited]
      rcases htotals.invoices i'.id i' ((Table.mem_rows_iff _ _).1 hi') with
        ⟨i, hi, -, htotal⟩ | ⟨hnone, o, ho, htotal⟩
      · have hid : i.id = i'.id := Table.key_of_find? hi
        rw [htotal, ← hid]
        by_cases hown : r.purchaseInvoiceId = i.id
        · obtain rfl : invoice = i :=
            Table.eq_of_key himem (Table.mem_of_find? hi) (hiid.trans hown)
          rw [if_pos hown]
          exact hle
        · rw [if_neg hown, add_zero]
          exact hwithin i (Table.mem_of_find? hi)
      · have hown : ¬ r.purchaseInvoiceId = i'.id := by
          intro hown
          have hfound : db.buying.purchaseInvoices.find? i'.id = some invoice := by
            rw [← hown]
            exact hinvoice
          rw [hnone] at hfound
          cases hfound
        rw [if_neg hown, add_zero, h.creditedOn_absent hnone, htotal]
        exact (h.priced o (Table.mem_of_find? ho)).total_nonneg
  obtain ⟨i, hi, hreturnOrder⟩ := h.purchase.payables.agrees.returns r hmem
  obtain rfl := Option.some.inj (hinvoice.symm.trans hi)
  have hiorder : db.buying.purchaseOrders.find? invoice.purchaseOrderId = some order := by
    rw [← hreturnOrder]
    exact horder
  have hpriced := h.priced order (Table.mem_of_find? horder)
  rw [hone, h.creditedOn_worth himem hiorder, (h.valued r hmem).worth order horder,
    h.invoiced invoice himem order hiorder, ← order.worth_add, hpriced.worth_le_iff]
  constructor
  · intro hkept r₁ hr₁ o₁ ho₁
    obtain rfl := Option.some.inj (hreturn.symm.trans hr₁)
    obtain rfl := Option.some.inj (horder.symm.trans ho₁)
    exact hkept
  · intro hkept
    exact hkept r hreturn order horder

end PurchaseReturnsService

/-! ## Runs -/

theorem GoodsReceiptsService.create_credit {companyId : Uuid} {now : Instant}
    {dto : CreateGoodsReceiptDto} {receipt : GoodsReceipt} {db db' : Db} (h : CreditInv db)
    (hc : Commits (create companyId userId now dto) db receipt db') : KeepsCredit db db' := by
  obtain ⟨order, -, -, -, -, -, hbuying, -⟩ := create_spec hc
  exact h.keeps_of_same (create_keeps h.purchase hc).inv hbuying

/-- One request: the invariant is kept, and credit stays within what was invoiced exactly
if a return that is completed leaves pieces worth the discount. -/
theorem PurchaseRequest.answer_within_iff {db : Db} (request : PurchaseRequest)
    (h : CreditInv db) (hwithin : CreditWithin db) :
    CreditInv (request.answer db) ∧
      (CreditWithin (request.answer db) ↔ KeepsDiscountWorth db request) := by
  have hkeeps : ∀ {db'}, KeepsCredit db db' → CreditInv db' ∧ (CreditWithin db' ↔ True) :=
    fun hk => ⟨hk.inv, iff_of_true (hk.within hwithin) trivial⟩
  cases request with
  | payables request =>
    cases request with
    | completeReturn =>
      exact run_iff_of h hwithin fun _ _ => complete_within_iff h
    | createPayment => exact hkeeps (.run h fun _ _ => PaymentsService.create_credit h)
    | reversePayment => exact hkeeps (.run h fun _ _ => PaymentsService.reverse_credit h)
    | reallocatePayment => exact hkeeps (.run h fun _ _ => PaymentsService.reallocate_credit h)
    | syncInvoices => exact hkeeps (.run h fun _ _ => PurchaseInvoicesService.sync_credit h)
    | postInvoice => exact hkeeps (.run h fun _ _ => PurchaseInvoicesService.post_credit h)
    | voidInvoice => exact hkeeps (.run h fun _ _ => PurchaseInvoicesService.void_credit h)
    | createReturn => exact hkeeps (.run h fun _ _ => PurchaseReturnsService.create_credit h)
    | cancelReturn => exact hkeeps (.run h fun _ _ => PurchaseReturnsService.cancel_credit h)
    | createEntry =>
      refine hkeeps (.run h fun _ _ hc => h.keeps_of_same ?_ ?_)
      · exact (JournalEntriesService.create_keeps h.purchase hc).inv
      · exact (JournalEntriesService.create_manual hc).buying
    | postEntry =>
      refine hkeeps (.run h fun _ _ hc => h.keeps_of_same ?_ ?_)
      · exact (JournalEntriesService.post_keeps h.purchase hc).inv
      · exact (JournalEntriesService.post_manual hc).buying
    | cancelEntry =>
      refine hkeeps (.run h fun _ _ hc => h.keeps_of_same ?_ ?_)
      · exact (JournalEntriesService.cancel_keeps h.purchase hc).inv
      · exact (JournalEntriesService.cancel_manual hc).buying
  | changeStatus =>
    exact hkeeps (.run h fun _ _ => PurchaseOrdersService.changeStatus_credit h)
  | receiveGoods => exact hkeeps (.run h fun _ _ => GoodsReceiptsService.create_credit h)

theorem BeforePayables.creditInv {db : Db} (h : BeforePayables db)
    (hpriced : ∀ o ∈ db.buying.purchaseOrders.rows, o.Priced) :
    CreditInv db ∧ CreditWithin db := by
  refine ⟨⟨h.purchaseInv fun o ho => (hpriced o ho).costs, hpriced, ?_, ?_⟩, ?_⟩
  · rw [h.noInvoices]
    exact fun i hi => absurd hi List.not_mem_nil
  · rw [h.noReturns]
    exact fun r hr => absurd hr List.not_mem_nil
  · rw [CreditWithin, h.noInvoices]
    exact fun i hi => absurd hi List.not_mem_nil

/-- Supplier credit is within what was invoiced in every state of a run exactly as long as
every return that is completed leaves pieces of its order that are worth its discount net of
its tax. -/
theorem credit_within_iff {db₀ db : Db} (h₀ : BeforePayables db₀)
    (hpriced : ∀ o ∈ db₀.buying.purchaseOrders.rows, o.Priced) {requests : List PurchaseRequest}
    (hrun : purchasingMachine.Run db₀ requests db) :
    (∀ ks, ks <+: requests → ∀ db₁, purchasingMachine.Run db₀ ks db₁ → CreditWithin db₁) ↔
      purchasingMachine.RunWith KeepsDiscountWorth db₀ requests db := by
  refine Machine.prefixes_iff_runWith (I := fun s => CreditInv s ∧ CreditWithin s)
    (fun s request s' h hc hs => ?_) (fun _ h => h.2) (fun s request s' h hs hwithin => ?_)
    (h₀.creditInv hpriced) hrun
  · cases hs
    obtain ⟨hinv, hiff⟩ := request.answer_within_iff h.1 h.2
    exact ⟨hinv, hiff.2 hc⟩
  · cases hs
    exact (request.answer_within_iff h.1 h.2).2.1 hwithin

/-! Ten pieces at 10.00 with a discount of 30.00, an order of 70.00. -/

namespace ReturnCreditsDemo

def dto : PurchaseOrdersService.CreatePurchaseOrderDto where
  branchId := none
  warehouseId := some 70
  supplierId := 20
  paymentTermId := none
  sourceSupplierQuotationId := none
  transactionDate := none
  currency := "MMK"
  items := [{ productVariantId := 7, uomId := none, quantity := 10, unitCost := 1000,
              discountAmount := some 3000, taxAmount := none }]

def base : RfqDb where
  base := { master := ClosedDemo.db.master }

/-- The order `create` leaves, row `0`; its item is row `1`. -/
def db : Db :=
  match PurchaseOrdersService.create 10 99 ClosedDemo.now dto base with
  | .ok (_, db) => db
  | .error _ => {}

def change (t : PurchaseOrdersService.Transition) : PurchaseRequest :=
  .changeStatus t 0 10 99 ClosedDemo.now

def invoicing : List PurchaseRequest :=
  [change .submit, change .approve,
    .receiveGoods 10 99 ClosedDemo.now
      { purchaseOrderId := 0, warehouseId := 70, receiptDate := none
        items := [{ purchaseOrderItemId := 1, productVariantId := 7, receivedQuantity := 10,
                    rejectedQuantity := none }] },
    .payables (.syncInvoices 10 none), .payables (.postInvoice 3 10 99 ClosedDemo.now)]

def createReturn (quantity : ℕ) : PurchaseRequest :=
  .payables (.createReturn 10 99 ClosedDemo.now
    { supplierId := 20, purchaseInvoiceId := 3, reason := "faulty"
      items := [{ purchaseOrderItemId := 1, quantity := quantity }] })

def pay : PurchaseRequest :=
  .payables (.createPayment 10 99 ClosedDemo.now
    { PayablesDemo.paymentDto with
      amount := 4000
      allocations := [{ referenceType := .PurchaseInvoice, referenceId := 3,
                        allocatedAmount := 4000 }] } none)

def complete : PurchaseRequest := .payables (.completeReturn 4 10 99 ClosedDemo.now)

def returning (quantity : ℕ) : List PurchaseRequest :=
  invoicing ++ [createReturn quantity, pay, complete]

theorem beforePayables : BeforePayables db where
  noInvoices := by decide +kernel
  noReturns := by decide +kernel
  noPayments := by decide +kernel
  noJournals := by decide +kernel
  unpaid := by decide +kernel

theorem priced : ∀ o ∈ db.buying.purchaseOrders.rows, o.Priced := by
  decide +kernel

end ReturnCreditsDemo

open ReturnCreditsDemo in
theorem credit_within_iff_half_returned :
    ∃ db', purchasingMachine.Run db (returning 5) db' ∧
      (∃ i ∈ db'.buying.purchaseInvoices.rows, i.grandTotal = 7000 ∧ creditedOn db' i.id = 5000) ∧
      ∀ ks, ks <+: returning 5 → ∀ db₁, purchasingMachine.Run db ks db₁ → CreditWithin db₁ := by
  obtain ⟨db', hrun, hdb⟩ := Machine.exists_runWith purchasingMachine KeepsDiscountWorth db
    (returning 5)
    (fun s => s.buying.purchaseInvoices.rows.any fun i =>
      i.grandTotal = 7000 && creditedOn s i.id = 5000)
    (by decide +kernel)
  simp only [List.any_eq_true, Bool.and_eq_true, decide_eq_true_eq] at hdb
  exact ⟨db', hrun.run, hdb, (credit_within_iff beforePayables priced hrun.run).2 hrun⟩

open ReturnCreditsDemo in
theorem full_return_credits_discount :
    ∃ db', purchasingMachine.RunWith (fun s _ => ReturnsWithinReceipts s) db (returning 10) db' ∧
      ReturnsWithinReceipts db' ∧ ¬ CreditWithin db' := by
  obtain ⟨db', hrun, hdb⟩ := Machine.exists_runWith purchasingMachine
    (fun s _ => ReturnsWithinReceipts s) db (returning 10)
    (fun s => decide (ReturnsWithinReceipts s) && s.buying.purchaseInvoices.rows.any fun i =>
      i.grandTotal = 7000 && creditedOn s i.id = 10000)
    (by decide +kernel)
  simp only [List.any_eq_true, Bool.and_eq_true, decide_eq_true_eq] at hdb
  obtain ⟨hreceived, i, hi, htotal, hcredited⟩ := hdb
  refine ⟨db', hrun, hreceived, fun hwithin => ?_⟩
  have hle := hwithin i hi
  rw [htotal, hcredited] at hle
  exact absurd hle (by decide)

end FashionErp
