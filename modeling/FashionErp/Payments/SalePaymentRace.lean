/-
Payments of a sale beside `confirm`, `cancel`, `ship` and `deliver` on it.

A payment locks the sale row, checks it and writes two columns of it.
-/
import FashionErp.Lib.SaveEntity
import FashionErp.Payments.CreateRace
import Mathlib.Tactic.Linarith
import Mathlib.Tactic.Ring

namespace FashionErp

open Lib Lib.Tx

namespace SalePaymentRace

inductive Operation
  | confirm
  | cancel
  | ship (now : Instant)
  | deliver (now : Instant)

def Operation.guard : Operation → Sale → DbTx Unit
  | .confirm, sale => void (SalesService.confirmGuard sale)
  | .cancel, sale => SalesService.assertTransitionAllowed sale.status .Cancelled
  | .ship _, sale => SalesService.shipGuard sale
  | .deliver _, sale => SalesService.deliverGuard sale

def Operation.mark (userId : Uuid) : Operation → Sale → Sale
  | .confirm => SalesService.markConfirmed userId
  | .cancel => SalesService.markCancelled userId
  | .ship now => SalesService.markShipped userId now
  | .deliver now => SalesService.markDelivered userId now

inductive Request
  | pay (call : CreateRace.Call)
  | lifecycle (operation : Operation) (saleId companyId userId : Uuid)

inductive Phase
  | idle
  | pay (phase : CreateRace.Phase)
  | save (phase : SavePhase Sale)
  | saved
  | rejected

inductive Label
  | pay (l : CreateRace.Label)
  | read
  | save (l : SaveLabel)
  | abort

/-- The row of sale `id`. -/
def saleAccess (id : Uuid) : RowAccess Db Sale where
  find db := db.selling.sales.find? id
  put sale db := { db with selling := { db.selling with sales := db.selling.sales.save sale } }
  merge := Sale.merge

abbrev saleLock (id : Uuid) : CreateRace.Lock := .target (.Sale, id)

def readMove (operation : Operation) (saleId companyId userId : Uuid) (db : Db) :
    Move Db CreateRace.Lock Phase :=
  match (run (SalesService.findByIdInCompany saleId companyId) db).1 with
  | .error _ => .goto .rejected
  | .ok sale =>
    match (run (operation.guard sale) db).1 with
    | .error _ => .goto .rejected
    | .ok _ => .goto (.save (.changed (operation.mark userId sale)))

/-- Payments and operations on sales, each by its own steps. -/
def protocol (request : ℕ → Request) : Protocol Db CreateRace.Lock Phase Label :=
  fun i l p db =>
    match request i, l, p with
    | .pay call, .pay l, .idle =>
      (CreateRace.createMove call l .called db).map (Move.map Phase.pay)
    | .pay call, .pay l, .pay p => (CreateRace.createMove call l p db).map (Move.map Phase.pay)
    | .lifecycle operation saleId companyId userId, .read, .idle =>
      some (readMove operation saleId companyId userId db)
    | .lifecycle _ saleId _ _, .save l, .save p =>
      (saleAccess saleId).saveMove (saleLock saleId) Phase.save .saved l p db
    | .lifecycle .., .abort, .save _ => some (.leave .rejected)
    | _, _, _ => none

def machine (request : ℕ → Request) : Machine (Shared Db CreateRace.Lock Phase) (ℕ × Label) :=
  concurrent (protocol request)

/-! ## What is claimed of a sale -/

/-- The sum of `allocatedAmount` over the allocations to a sale. -/
def allocatedToSale (db : Db) (saleId : Uuid) : Cents :=
  ((db.paying.payments.rows.flatMap fun p =>
    p.allocations.filter fun a => a.referenceType = .Sale ∧ a.referenceId = saleId).map
      (·.allocatedAmount)).sum

/-- No payment is lost: every sale is paid what is allocated to it, and owes the
rest. -/
def Settled (db : Db) : Prop :=
  ∀ id sale, db.selling.sales.find? id = some sale →
    sale.paidAmount = allocatedToSale db id ∧
      sale.balanceAmount = sale.grandTotal - sale.paidAmount

def NoStalePayment (s : Shared Db CreateRace.Lock Phase) : ℕ × Label → Prop
  | (i, .save .commit) =>
    match s.phase i with
    | .save (.updated entity seen _) => entity.paidAmount = seen.paidAmount
    | _ => True
  | _ => True

instance (s : Shared Db CreateRace.Lock Phase) (l : ℕ × Label) : Decidable (NoStalePayment s l) := by
  unfold NoStalePayment
  split
  · split <;> infer_instance
  · infer_instance

/-! ## What a payment does to the sales -/

theorem allocatedToSale_eq_sum (db : Db) (saleId : Uuid) :
    allocatedToSale db saleId =
      db.paying.payments.sum fun p => net (allocationPostings p.allocations) (.Sale, saleId) := by
  rw [allocatedToSale, Table.sum]
  induction db.paying.payments.rows with
  | nil => rfl
  | cons p ps ih =>
    rw [List.map_cons, List.sum_cons, ← ih, List.flatMap_cons, List.map_append, List.sum_append,
      net_allocationPostings]

theorem totalForTarget_eq_net (allocations : List PaymentAllocation) (t : AllocationTarget) :
    PaymentsService.totalForTarget allocations t = net (allocationPostings allocations) t :=
  lookup_totals _ _

/-- A sale after a payment has been applied to the targets `ts`. -/
def paidBy (c : CreateRace.Call) (ts : List AllocationTarget) (sale : Sale) : Sale :=
  if (PaymentReferenceType.Sale, sale.id) ∈ ts then
    SalesService.markPaid c.userId
      (PaymentsService.totalForTarget c.dto.allocations (.Sale, sale.id)) sale
  else
    sale

variable {c : CreateRace.Call} {db db' : Db} {held : CreateRace.Lock → Prop} {i : ℕ}
  {operation : Operation} {saleId userId : Uuid} {s : Shared Db CreateRace.Lock Phase}

theorem applyTarget_sales {t : AllocationTarget} {u : Unit} (h : Commits (c.apply t) db u db') :
    (∃ sale, t = (.Sale, sale.id) ∧ db.selling.sales.find? sale.id = some sale ∧
      db'.selling.sales = db.selling.sales.save (SalesService.markPaid c.userId
        (PaymentsService.totalForTarget c.dto.allocations t) sale)) ∨
    (t.1 ≠ .Sale ∧ db'.selling.sales = db.selling.sales) := by
  obtain ⟨type, id⟩ := t
  cases type with
  | Sale =>
    obtain ⟨sale, hsale, -, -, rfl⟩ := (SalesService.commits_applyPayment _ _ _ _ _ _ _).1 h
    obtain rfl : sale.id = id := Table.key_of_find? hsale
    exact .inl ⟨sale, rfl, hsale, rfl⟩
  | PurchaseInvoice =>
    obtain ⟨i, o, -, -, -, rfl⟩ := (PurchaseInvoicesService.commits_applyPayment _ _ _ _ _ _ _).1 h
    exact .inr ⟨by rintro ⟨⟩, rfl⟩
  | PurchaseOrder =>
    simp only [CreateRace.Call.apply, PaymentsService.applyTarget,
      PurchaseOrdersService.applyPayment, savePurchaseOrder, commits_bind, commits_get,
      commits_orReject, commits_rejectIf, commits_modify] at h
    obtain ⟨_, _, ⟨rfl, rfl⟩, _, _, ⟨-, rfl⟩, _, _, ⟨-, rfl⟩, _, _, ⟨-, rfl⟩, rfl⟩ := h
    exact .inr ⟨by rintro ⟨⟩, rfl⟩
  | SaleReturn =>
    simp only [CreateRace.Call.apply, PaymentsService.applyTarget, SaleReturnsService.applyRefund,
      SaleReturnsService.findByIdInCompany, SaleReturnsService.saveReturn, commits_bind,
      commits_get, commits_orReject, commits_rejectIf, commits_modify] at h
    obtain ⟨_, _, ⟨_, _, ⟨rfl, rfl⟩, -, rfl⟩, _, _, ⟨-, rfl⟩, _, _, ⟨-, rfl⟩, rfl⟩ := h
    exact .inr ⟨by rintro ⟨⟩, rfl⟩

theorem paidBy_of_not_mem {ts : List AllocationTarget} {sale : Sale}
    (h : (PaymentReferenceType.Sale, sale.id) ∉ ts) : paidBy c ts sale = sale := if_neg h

theorem applyTargets_sales {ts : List AllocationTarget} (hts : ts.Nodup) {u : Unit}
    (h : Commits (ts.forM c.apply) db u db') (id : Uuid) :
    db'.selling.sales.find? id = (db.selling.sales.find? id).map (paidBy c ts) := by
  refine forM_invariant (fun done s => s.selling.sales.find? id =
    (db.selling.sales.find? id).map (paidBy c done)) (fun done t rest s s' heq hI hstep => ?_)
    ?_ h
  · have hnew : t ∉ done := by
      rw [heq] at hts
      exact fun hmem => (List.nodup_append.1 hts).2.2 t hmem t List.mem_cons_self rfl
    -- The next target changes what is said of a sale only if it is that sale.
    have hother : ∀ sale : Sale, t ≠ (.Sale, sale.id) →
        paidBy c (done ++ [t]) sale = paidBy c done sale := by
      intro sale hne
      have hmem : (PaymentReferenceType.Sale, sale.id) ∈ done ++ [t] ↔
          (PaymentReferenceType.Sale, sale.id) ∈ done := by
        rw [List.mem_append, List.mem_singleton]
        exact or_iff_left fun e => hne e.symm
      simp only [paidBy, hmem]
    have hkeep : (∀ sale, db.selling.sales.find? id = some sale → t ≠ (.Sale, sale.id)) →
        (db.selling.sales.find? id).map (paidBy c (done ++ [t])) =
          (db.selling.sales.find? id).map (paidBy c done) := by
      intro hne
      cases hfind : db.selling.sales.find? id with
      | none => rfl
      | some sale => rw [Option.map_some, Option.map_some, hother sale (hne sale hfind)]
    rcases applyTarget_sales hstep with ⟨sale, rfl, hsale, hs'⟩ | ⟨htype, hs'⟩
    · rw [hs', Table.find?_save]
      split
      · -- The sale itself: nothing before has written it.
        rename_i hkey
        obtain rfl : sale.id = id := hkey
        rw [hsale] at hI
        obtain ⟨sale₀, hsale₀, hpaid⟩ := Option.map_eq_some_iff.1 hI.symm
        have hid : sale₀.id = sale.id := Table.key_of_find? hsale₀
        obtain rfl : sale₀ = sale := by
          rw [paidBy_of_not_mem (by rw [hid]; exact hnew)] at hpaid
          exact hpaid
        rw [hsale₀, Option.map_some, paidBy, if_pos (List.mem_append_right _ List.mem_cons_self)]
      · rename_i hkey
        rw [hI, hkeep]
        intro sale₀ hsale₀ ht
        have hid : sale₀.id = id := Table.key_of_find? hsale₀
        exact hkey ((congrArg Prod.snd ht).trans hid)
    · rw [hs', hI, hkeep]
      rintro sale - rfl
      exact htype rfl
  · cases hfind : db.selling.sales.find? id with
    | none => rfl
    | some sale => rw [Option.map_some, paidBy_of_not_mem List.not_mem_nil]

theorem runCreate_sales {payment : Payment} (h : Commits c.runCreate db payment db') (id : Uuid) :
    db'.selling.sales.find? id = (db.selling.sales.find? id).map (paidBy c c.targets) ∧
      allocatedToSale db' id =
        allocatedToSale db id + net (allocationPostings c.dto.allocations) (.Sale, id) := by
  obtain ⟨hpayments, hfresh, -, ⟨-, -, hallocations⟩, db₁, db₂, hselling₁, hselling', hloop⟩ :=
    CreateRace.runCreate_leaves h
  have hnodup : c.targets.Nodup :=
    (List.perm_insertionSort _ _).nodup_iff.2 (List.nodup_dedup _)
  constructor
  · rw [hselling', ← hselling₁]
    exact applyTargets_sales hnodup hloop id
  · rw [allocatedToSale_eq_sum, allocatedToSale_eq_sum, hpayments, Table.sum_save_new _ _ _ hfresh,
      hallocations]

/-! ## The invariant -/

structure MovesOn (r r' : Sale) : Prop where
  total : r'.grandTotal = r.grandTotal
  paid : r.paidAmount ≤ r'.paidAmount
  balance : r'.balanceAmount + r'.paidAmount = r.balanceAmount + r.paidAmount

theorem MovesOn.refl (r : Sale) : MovesOn r r := ⟨rfl, le_rfl, rfl⟩

theorem MovesOn.trans (r r₁ r₂ : Sale) (h₁ : MovesOn r r₁) (h₂ : MovesOn r₁ r₂) : MovesOn r r₂ :=
  ⟨h₂.total.trans h₁.total, h₁.paid.trans h₂.paid, h₂.balance.trans h₁.balance⟩

theorem mark_amounts (operation : Operation) (userId : Uuid) (sale : Sale) :
    (operation.mark userId sale).grandTotal = sale.grandTotal ∧
      (operation.mark userId sale).paidAmount = sale.paidAmount ∧
      (operation.mark userId sale).balanceAmount = sale.balanceAmount := by
  cases operation with
  | confirm => exact ⟨rfl, rfl, rfl⟩
  | cancel => exact ⟨rfl, rfl, rfl⟩
  | ship now => exact ⟨rfl, rfl, rfl⟩
  | deliver now => exact ⟨rfl, rfl, rfl⟩

/-- What holds of a payment that holds the locks `held`: from its checks on its
allocations are valid, and it keeps every target it has come to. -/
def PayOk (c : CreateRace.Call) (held : CreateRace.Lock → Prop) : CreateRace.Phase → Prop
  | .validated => PaymentsService.ValidAllocations c.dto.direction c.dto.allocations
  | .applying done todo => PaymentsService.ValidAllocations c.dto.direction c.dto.allocations ∧
      done ++ todo = c.targets ∧ ∀ t ∈ done, held (.target t)
  | .locked done t todo => PaymentsService.ValidAllocations c.dto.direction c.dto.allocations ∧
      (done ++ [t]) ++ todo = c.targets ∧ ∀ t' ∈ done ++ [t], held (.target t')
  | .inserted => PaymentsService.ValidAllocations c.dto.direction c.dto.allocations ∧
      ∀ t ∈ c.targets, held (.target t)
  | _ => True

/-- What holds of request `i`, which holds the locks `held`. -/
def PhaseOk (request : ℕ → Request) (held : CreateRace.Lock → Prop) (db : Db) (i : ℕ)
    (p : Phase) : Prop :=
  match request i, p with
  | .pay c, .pay p => PayOk c held p
  | .lifecycle operation saleId _ userId, .save p =>
    SaveOk (saleAccess saleId) (saleLock saleId) MovesOn (operation.mark userId) held db p
  | _, _ => True

variable {l : CreateRace.Label} {m : Move Db CreateRace.Lock CreateRace.Phase}

theorem payMove_ok {p : CreateRace.Phase} (hp : PayOk c held p)
    (hm : CreateRace.createMove c l p db = some m) :
    Shared.MoveOk (fun _ => True) (fun held _ _ p => PayOk c held p) held db i m := by
  have hfailed : ∀ error, Shared.MoveOk (fun _ => True) (fun held _ _ p => PayOk c held p) held db i
      (.leave (CreateRace.failed c error)) := by
    intro error
    unfold Shared.MoveOk CreateRace.failed
    dsimp only
    split
    · trivial
    · trivial
  unfold CreateRace.createMove at hm
  split at hm
  case h_1 =>
    cases hm
    unfold CreateRace.lookupMove
    split
    · trivial
    · trivial
  case h_2 =>
    cases hm
    unfold CreateRace.validateMove
    rcases run_cases (PaymentsService.assertCreatable c.companyId c.dto) db with
      ⟨_, _, hc, hrun⟩ | ⟨_, -, hrun⟩
    · rw [hrun]
      exact (PaymentsService.assertCreatable_valid hc).1
    · rw [hrun]
      trivial
  case h_3 =>
    cases hm
    exact ⟨hp, List.nil_append _, fun t ht => absurd ht List.not_mem_nil⟩
  case h_4 done t todo =>
    cases hm
    obtain ⟨hvalid, htargets, hheld⟩ := hp
    refine ⟨hvalid, by rw [List.append_assoc]; exact htargets, fun t' ht' => ?_⟩
    rcases List.mem_append.1 ht' with ht' | ht'
    · exact .inr (hheld t' ht')
    · obtain rfl := List.mem_singleton.1 ht'
      exact .inl rfl
  case h_5 done t todo =>
    cases hm
    unfold CreateRace.applyMove
    split
    · exact hp
    · exact hfailed _
  case h_6 done =>
    cases hm
    obtain ⟨hvalid, htargets, hheld⟩ := hp
    rw [List.append_nil] at htargets
    rw [htargets] at hheld
    unfold CreateRace.insertMove
    split
    · exact ⟨hvalid, hheld⟩
    · split
      · exact hfailed _
      · exact ⟨hvalid, fun t ht => .inr (hheld t ht)⟩
  case h_7 =>
    cases hm
    unfold CreateRace.commitMove
    split
    · exact ⟨trivial, trivial⟩
    · exact hfailed _
  case h_8 =>
    cases hm
    unfold CreateRace.recoverMove
    split
    · trivial
    · trivial
  case h_12 =>
    cases hm
    exact True.intro
  all_goals cases hm

/-! ## A payment commits -/

theorem net_eq_zero_of_not_mem {t : AllocationTarget} (h : t ∉ c.targets) :
    net (allocationPostings c.dto.allocations) t = 0 := by
  refine net_eq_zero fun p hp hkey => h ?_
  obtain ⟨a, ha, rfl⟩ := List.mem_map.1 hp
  exact PaymentsService.mem_sortedTargets.2 ⟨a, ha, hkey⟩

theorem total_nonneg (hvalid : PaymentsService.ValidAllocations c.dto.direction c.dto.allocations)
    (t : AllocationTarget) : 0 ≤ PaymentsService.totalForTarget c.dto.allocations t := by
  rw [totalForTarget_eq_net]
  refine net_nonneg (fun p hp => ?_) t
  obtain ⟨a, ha, rfl⟩ := List.mem_map.1 hp
  exact (hvalid a ha).2.le

theorem movesOn_paidBy (hvalid : PaymentsService.ValidAllocations c.dto.direction c.dto.allocations)
    {sale : Sale} (hbalance : sale.balanceAmount = sale.grandTotal - sale.paidAmount)
    (ts : List AllocationTarget) : MovesOn sale (paidBy c ts sale) := by
  have htotal := total_nonneg hvalid (.Sale, sale.id)
  unfold paidBy
  split
  · refine ⟨rfl, ?_, ?_⟩
    · show sale.paidAmount ≤ sale.paidAmount + _
      linarith
    · show sale.grandTotal - (sale.paidAmount + _) + (sale.paidAmount + _) = _
      rw [hbalance]
      ring
  · exact .refl sale

theorem Settled.pay {payment : Payment} (h : Settled db) (hc : Commits c.runCreate db payment db') :
    Settled db' := by
  intro id sale' hsale'
  obtain ⟨hsales, hallocated⟩ := runCreate_sales hc id
  rw [hsales] at hsale'
  obtain ⟨sale, hsale, rfl⟩ := Option.map_eq_some_iff.1 hsale'
  obtain rfl : sale.id = id := Table.key_of_find? hsale
  obtain ⟨hpaid, hbalance⟩ := h _ sale hsale
  rw [hallocated]
  unfold paidBy
  split
  · refine ⟨?_, rfl⟩
    show sale.paidAmount + _ = _
    rw [hpaid, totalForTarget_eq_net]
  · rename_i hmem
    rw [net_eq_zero_of_not_mem hmem, add_zero]
    exact ⟨hpaid, hbalance⟩

variable {request : ℕ → Request} {p : Phase} {heldBy : CreateRace.Lock → Prop}

theorem PhaseOk.of_pay {payment : Payment} {j : ℕ}
    (hdb : Settled db) (hvalid : PaymentsService.ValidAllocations c.dto.direction c.dto.allocations)
    (hc : Commits c.runCreate db payment db') (hby : ∀ t ∈ c.targets, heldBy (.target t))
    (hapart : ∀ k, held k → ¬ heldBy k) (hp : PhaseOk request held db j p) :
    PhaseOk request held db' j p := by
  unfold PhaseOk at hp ⊢
  split at hp
  · exact hp
  · rename_i operation saleId companyId userId phase hrequest
    refine hp.mono MovesOn.trans fun sale hsale => ?_
    have hsale' : db'.selling.sales.find? saleId = some (paidBy c c.targets sale) := by
      have hfind : db.selling.sales.find? saleId = some sale := hsale
      rw [(runCreate_sales hc saleId).1, hfind, Option.map_some]
    refine ⟨_, hsale', movesOn_paidBy hvalid (hdb saleId sale hsale).2 _, fun hheld => ?_⟩
    refine paidBy_of_not_mem fun hmem => hapart _ hheld ?_
    have hid : sale.id = saleId := Table.key_of_find? hsale
    rw [hid] at hmem
    exact hby _ hmem
  · trivial

/-! ## A save commits -/

variable {first : Sale} {seen current : Sale}

theorem merge_amounts (current : Sale) (hseen : MovesOn first seen)
    (hpaid : (operation.mark userId first).paidAmount = seen.paidAmount) :
    ((operation.mark userId first).merge seen current).paidAmount = current.paidAmount ∧
      ((operation.mark userId first).merge seen current).balanceAmount = current.balanceAmount ∧
      ((operation.mark userId first).merge seen current).grandTotal = current.grandTotal := by
  obtain ⟨htotal, hpaidMark, hbalance⟩ := mark_amounts operation userId first
  refine ⟨mergeCol_of_eq hpaid _, mergeCol_of_eq ?_ _, mergeCol_of_eq ?_ _⟩
  · have h := hseen.balance
    rw [hpaidMark] at hpaid
    rw [hbalance]
    linarith
  · rw [htotal, hseen.total]

/-- A save without a payment between its reads keeps every sale settled, and
moves its row on. -/
theorem save_settled (hdb : Settled db)
    (hfind : db.selling.sales.find? saleId = some current) (hseen : MovesOn first seen)
    (hpaid : (operation.mark userId first).paidAmount = seen.paidAmount) :
    Settled ((saleAccess saleId).put ((operation.mark userId first).merge seen current) db) := by
  obtain ⟨hpaid', hbalance', htotal'⟩ := merge_amounts current hseen hpaid
  intro id sale hsale
  have hallocated : allocatedToSale ((saleAccess saleId).put
      ((operation.mark userId first).merge seen current) db) id = allocatedToSale db id := rfl
  rw [hallocated]
  change (db.selling.sales.save ((operation.mark userId first).merge seen current)).find? id = _
    at hsale
  rw [Table.find?_save] at hsale
  split at hsale
  · rename_i hkey
    cases hsale
    have hid : saleId = id := (Table.key_of_find? hfind).symm.trans hkey
    subst hid
    rw [hpaid', hbalance', htotal']
    exact hdb _ current hfind
  · exact hdb id sale hsale

theorem PhaseOk.of_save {j : ℕ} (hfind : db.selling.sales.find? saleId = some current) (hseen : MovesOn first seen)
    (hpaid : (operation.mark userId first).paidAmount = seen.paidAmount)
    (hby : heldBy (saleLock saleId)) (hapart : ∀ k, held k → ¬ heldBy k)
    (hp : PhaseOk request held db j p) :
    PhaseOk request held
      ((saleAccess saleId).put ((operation.mark userId first).merge seen current) db) j p := by
  obtain ⟨hpaid', hbalance', htotal'⟩ := merge_amounts current hseen hpaid
  unfold PhaseOk at hp ⊢
  split at hp
  · exact hp
  · rename_i operation' saleId' companyId' userId' phase' hrequest
    refine hp.mono MovesOn.trans fun sale hsale => ?_
    have hfind' : ((saleAccess saleId').find ((saleAccess saleId).put
        ((operation.mark userId first).merge seen current) db)) =
        if saleId = saleId' then some ((operation.mark userId first).merge seen current)
        else some sale := by
      show (db.selling.sales.save _).find? saleId' = _
      rw [Table.find?_save]
      have hkey : key current = saleId := Table.key_of_find? hfind
      rw [show key ((operation.mark userId first).merge seen current) = saleId from hkey]
      split
      · rfl
      · exact hsale
    rw [hfind']
    split
    · rename_i hid
      subst hid
      have hsale' : db.selling.sales.find? saleId = some sale := hsale
      obtain rfl : current = sale := Option.some.inj (hfind.symm.trans hsale')
      refine ⟨_, rfl, ⟨htotal', hpaid'.ge, ?_⟩, fun hheld => absurd hby (hapart _ hheld)⟩
      rw [hbalance', hpaid']
    · exact ⟨sale, rfl, .refl sale, fun _ => rfl⟩
  · trivial

/-! ## Runs -/

inductive MoveCase (request : ℕ → Request) (db : Db) (i : ℕ) :
    Label → Phase → Move Db CreateRace.Lock Phase → Prop
  | pay {c : CreateRace.Call} {l : CreateRace.Label} {p : Phase} {q : CreateRace.Phase}
      {m : Move Db CreateRace.Lock CreateRace.Phase} (hrequest : request i = .pay c)
      (hphase : p = .pay q ∨ q = .called) (hm : CreateRace.createMove c l q db = some m) :
      MoveCase request db i (.pay l) p (m.map Phase.pay)
  | read {operation : Operation} {saleId companyId userId : Uuid}
      (hrequest : request i = .lifecycle operation saleId companyId userId) :
      MoveCase request db i .read .idle (readMove operation saleId companyId userId db)
  | save {operation : Operation} {saleId companyId userId : Uuid} {l : SaveLabel}
      {q : SavePhase Sale} {m : Move Db CreateRace.Lock Phase}
      (hrequest : request i = .lifecycle operation saleId companyId userId)
      (hm : (saleAccess saleId).saveMove (saleLock saleId) Phase.save .saved l q db = some m) :
      MoveCase request db i (.save l) (.save q) m
  | abort {p : Phase} : MoveCase request db i .abort p (.leave .rejected)

theorem protocol_cases {l : Label} {m : Move Db CreateRace.Lock Phase}
    (h : protocol request i l p db = some m) : MoveCase request db i l p m := by
  unfold protocol at h
  split at h
  · rename_i hrequest
    obtain ⟨m, hm, rfl⟩ := Option.map_eq_some_iff.1 h
    exact .pay hrequest (.inr rfl) hm
  · rename_i hrequest
    obtain ⟨m, hm, rfl⟩ := Option.map_eq_some_iff.1 h
    exact .pay hrequest (.inl rfl) hm
  · rename_i hrequest
    cases h
    exact .read hrequest
  · rename_i hrequest
    exact .save hrequest h
  · cases h
    exact .abort
  · cases h

variable {companyId : Uuid}

theorem readMove_ok (hrequest : request i = .lifecycle operation saleId companyId userId) :
    Shared.MoveOk Settled (PhaseOk request) held db i
      (readMove operation saleId companyId userId db) := by
  unfold readMove
  rcases run_cases (SalesService.findByIdInCompany saleId companyId) db with
    ⟨sale, _, hfind, hrun⟩ | ⟨_, -, hrun⟩
  · rw [hrun]
    simp only
    split
    · simp only [Shared.MoveOk, PhaseOk, hrequest]
    · obtain ⟨hsale, -⟩ := (SalesService.commits_findByIdInCompany _ _ _ _ _).1 hfind
      have hrow : (saleAccess saleId).find db = some sale := (Option.filter_eq_some_iff.1 hsale).1
      simp only [Shared.MoveOk, PhaseOk, hrequest]
      exact ⟨sale, sale, rfl, hrow, .refl sale⟩
  · rw [hrun]
    simp only [Shared.MoveOk, PhaseOk, hrequest]

theorem pay_commit {q q' : CreateRace.Phase}
    (hrequest : request i = .pay c) (hp : PhaseOk request held db i p)
    (hphase : p = .pay q ∨ q = .called)
    (hm : CreateRace.createMove c l q db = some (.commit db' q')) :
    PaymentsService.ValidAllocations c.dto.direction c.dto.allocations ∧
      (∀ t ∈ c.targets, held (.target t)) ∧ ∃ payment, Commits c.runCreate db payment db' := by
  obtain ⟨rfl, hc⟩ := CreateRace.createMove_commit hm
  rcases hphase with rfl | hcalled
  · simp only [PhaseOk, hrequest] at hp
    exact ⟨hp.1, hp.2, hc⟩
  · cases hcalled

theorem pay_moveOk {q : CreateRace.Phase} (hrequest : request i = .pay c)
    (hdb : Settled db) (hp : PhaseOk request held db i p) (hphase : p = .pay q ∨ q = .called)
    (hm : CreateRace.createMove c l q db = some m) :
    Shared.MoveOk Settled (PhaseOk request) held db i (m.map Phase.pay) := by
  have hq : PayOk c held q := by
    rcases hphase with rfl | rfl
    · simpa only [PhaseOk, hrequest] using hp
    · trivial
  have hok := payMove_ok (i := i) hq hm
  cases m with
  | goto p => simpa only [Move.map, Shared.MoveOk, PhaseOk, hrequest] using hok
  | acquire k p => simpa only [Move.map, Shared.MoveOk, PhaseOk, hrequest] using hok
  | leave p => simpa only [Move.map, Shared.MoveOk, PhaseOk, hrequest] using hok
  | commit db' p =>
    obtain ⟨-, -, payment, hc⟩ := pay_commit hrequest hp hphase hm
    refine ⟨hdb.pay hc, ?_⟩
    simpa only [PhaseOk, hrequest] using hok.2

variable {q : SavePhase Sale}

theorem save_commit {l : SaveLabel} {q' : Phase}
    (hrequest : request i = .lifecycle operation saleId companyId userId)
    (hp : PhaseOk request held db i (.save q))
    (hm : (saleAccess saleId).saveMove (saleLock saleId) Phase.save .saved l q db = some (.commit db' q')) :
    ∃ first seen current, l = .commit ∧ db.selling.sales.find? saleId = some current ∧
      MovesOn first seen ∧ MovesOn seen current ∧ held (saleLock saleId) ∧
      q = .updated (operation.mark userId first) seen
        ((operation.mark userId first).merge seen current) ∧
      db' = (saleAccess saleId).put ((operation.mark userId first).merge seen current) db := by
  simp only [PhaseOk, hrequest] at hp
  rcases hp.move MovesOn.refl hm with ⟨_, hgoto, -⟩ | ⟨_, hacquire, -⟩ |
    ⟨entity, seen, row, rfl, rfl, hcommit⟩
  · cases hgoto
  · cases hacquire
  · obtain ⟨first, current, rfl, hfind, hseen, hcurrent, hheld, rfl⟩ := hp
    cases hcommit
    exact ⟨first, seen, current, rfl, hfind, hseen, hcurrent, hheld, rfl, rfl⟩

theorem save_moveOk {l : SaveLabel} {m : Move Db CreateRace.Lock Phase} (hdb : Settled db)
    (hrequest : request i = .lifecycle operation saleId companyId userId)
    (hp : PhaseOk request held db i (.save q))
    (hclean : ∀ entity seen row, l = .commit → q = .updated entity seen row → entity.paidAmount = seen.paidAmount)
    (hm : (saleAccess saleId).saveMove (saleLock saleId) Phase.save .saved l q db = some m) :
    Shared.MoveOk Settled (PhaseOk request) held db i m := by
  have hsave := hp
  simp only [PhaseOk, hrequest] at hsave
  rcases hsave.move MovesOn.refl hm with ⟨_, rfl, hok⟩ | ⟨_, rfl, hok⟩ | ⟨_, _, _, -, -, rfl⟩
  · simpa only [Shared.MoveOk, PhaseOk, hrequest] using hok
  · simpa only [Shared.MoveOk, PhaseOk, hrequest] using hok
  · obtain ⟨first, seen, current, rfl, hfind, hseen, -, -, rfl, hdb'⟩ := save_commit hrequest hp hm
    rw [hdb']
    refine ⟨save_settled hdb hfind hseen (hclean _ _ _ rfl rfl), ?_⟩
    simp only [PhaseOk, hrequest]

theorem NoStalePayment.at_commit {l : SaveLabel}
    (h : NoStalePayment s (i, .save l)) (hphase : s.phase i = .save q) :
    ∀ entity seen row, l = .commit → q = .updated entity seen row →
      entity.paidAmount = seen.paidAmount := by
  rintro entity seen row rfl rfl
  simpa only [NoStalePayment, hphase] using h

variable {s' : Shared Db CreateRace.Lock Phase}

theorem inv_step {l : ℕ × Label} (h : s.Inv Settled (PhaseOk request)) (hclean : NoStalePayment s l)
    (hs : (machine request).step s l = some s') : s'.Inv Settled (PhaseOk request) := by
  obtain ⟨i, l⟩ := l
  have hi := h.phase i
  generalize hp : s.phase i = p at hi
  refine h.step hs (fun m hm => ?_) (fun db' q hm j _ held hapart hj => ?_)
  · rw [hp] at hm
    cases protocol_cases hm with
    | pay hrequest hphase hmove => exact pay_moveOk hrequest h.db hi hphase hmove
    | read hrequest => exact readMove_ok hrequest
    | save hrequest hmove => exact save_moveOk h.db hrequest hi (hclean.at_commit hp) hmove
    | abort =>
      show PhaseOk request _ s.db i .rejected
      unfold PhaseOk
      cases request i <;> trivial
  · rw [hp] at hm
    generalize hcommit : Move.commit db' q = m at hm
    cases protocol_cases hm with
    | @pay c l p q m hrequest hphase hmove =>
      cases m with
      | commit db₁ q₁ =>
        cases hcommit
        obtain ⟨hvalid, hby, payment, hc⟩ := pay_commit hrequest hi hphase hmove
        exact hj.of_pay h.db hvalid hc hby hapart
      | _ => cases hcommit
    | read hrequest =>
      unfold readMove at hcommit
      split at hcommit
      · cases hcommit
      · split at hcommit <;> cases hcommit
    | save hrequest hmove =>
      subst hcommit
      obtain ⟨first, seen, current, rfl, hfind, hseen, -, hheld, rfl, rfl⟩ :=
        save_commit hrequest hi hmove
      exact hj.of_save hfind hseen (hclean.at_commit hp _ _ _ rfl rfl) hheld hapart
    | abort => cases hcommit

theorem paid_of_settled (hdb : Settled db)
    (hfind : db.selling.sales.find? saleId = some current) (hseen : MovesOn first seen)
    (hcurrent : MovesOn seen current)
    (hsettled : Settled ((saleAccess saleId).put ((operation.mark userId first).merge seen current) db)) :
    (operation.mark userId first).paidAmount = seen.paidAmount := by
  by_contra hne
  have hmerged : ((operation.mark userId first).merge seen current).paidAmount =
      first.paidAmount :=
    (mergeCol_of_ne hne _).trans (mark_amounts operation userId first).2.1
  have hkey : key ((operation.mark userId first).merge seen current) = saleId :=
    (Table.key_of_find? hfind : key current = saleId)
  have hrow : ((saleAccess saleId).put ((operation.mark userId first).merge seen current)
      db).selling.sales.find? saleId = some ((operation.mark userId first).merge seen current) := by
    show (db.selling.sales.save _).find? saleId = _
    rw [Table.find?_save, if_pos hkey]
  -- What is allocated has not changed, and it is what the current row is paid.
  have hpaid : first.paidAmount = current.paidAmount := by
    rw [← hmerged, (hsettled saleId _ hrow).1, (hdb saleId current hfind).1]
    rfl
  have hfirst := hseen.paid
  have hlast := hcurrent.paid
  rw [(mark_amounts operation userId first).2.1] at hne
  exact hne (le_antisymm hfirst (hpaid ▸ hlast))

/-- The condition is exact. A step after which every sale is settled meets it. -/
theorem noStalePayment_of_settled {l : ℕ × Label}
    (h : s.Inv Settled (PhaseOk request)) (hs : (machine request).step s l = some s')
    (hsettled : Settled s'.db) : NoStalePayment s l := by
  unfold NoStalePayment
  split
  · rename_i i
    split
    · rename_i entity seen row hphase
      obtain ⟨m, hm, hmove⟩ := Option.bind_eq_some_iff.1 hs
      change protocol request i (.save .commit) (s.phase i) s.db = some m at hm
      rw [hphase] at hm
      cases protocol_cases hm with
      | @save operation saleId companyId userId _ _ _ hrequest hsave =>
        have hi := h.phase i
        rw [hphase] at hi
        obtain rfl : m = .commit ((saleAccess saleId).put row s.db) .saved :=
          (Option.some.inj hsave).symm
        obtain ⟨first, seen', current, -, hfind, hseen, hcurrent, -, hq, hdb'⟩ :=
          save_commit hrequest hi hsave
        have hafter : s'.db = (saleAccess saleId).put row s.db := by
          rw [← Option.some.inj hmove]
        cases hq
        rw [hafter] at hsettled
        exact paid_of_settled h.db hfind hseen hcurrent hsettled
    · trivial
  · trivial

theorem inv_start (request : ℕ → Request) (hdb : Settled db) :
    (Shared.start db .idle : Shared Db CreateRace.Lock Phase).Inv Settled (PhaseOk request) := by
  refine Shared.inv_start hdb fun i held => ?_
  unfold PhaseOk
  cases request i <;> trivial

/-- When no payment is lost. Along a run of payments and of operations on sales,
every sale is settled in every state exactly when no save is committed that writes
a paid amount back. -/
theorem sale_payments_agree_iff (request : ℕ → Request) {db : Db} (hdb : Settled db)
    {ls : List (ℕ × Label)} {s : Shared Db CreateRace.Lock Phase}
    (hrun : (machine request).Run (.start db .idle) ls s) :
    (∀ ks, ks <+: ls → ∀ s₁, (machine request).Run (.start db .idle) ks s₁ → Settled s₁.db) ↔
      (machine request).RunWith NoStalePayment (.start db .idle) ls s :=
  Machine.prefixes_iff_runWith (fun _ _ _ h hclean hs => inv_step h hclean hs) (fun _ h => h.db)
    (fun _ _ _ h hs hsettled => noStalePayment_of_settled h hs hsettled) (inv_start request hdb)
    hrun

/-! A receipt of 20.00 for a sale of 60.00, and its cancellation. -/

namespace CancelDemo

def cancelling (i : ℕ) : Request :=
  if i = 0 then
    .pay { companyId := 10, userId := 98, now := PayablesDemo.now,
           dto := CreateRace.ReceiptDemo.dto 2000, idempotencyKeyHeader := none }
  else
    .lifecycle .cancel 100 10 99

def payment : List (ℕ × Label) :=
  [.lookup, .validate, .begin, .lock, .apply, .insert, .commit].map fun l => (0, .pay l)

theorem settled : Settled CreateRace.ReceiptDemo.db := by
  intro id sale hsale
  obtain rfl : sale = CreateRace.ReceiptDemo.sale :=
    List.mem_singleton.1 (Table.mem_of_find? hsale)
  exact ⟨rfl, rfl⟩

end CancelDemo

theorem sale_payments_agree_iff_cancel :
    ∃ s, (machine CancelDemo.cancelling).RunWith NoStalePayment (.start CreateRace.ReceiptDemo.db .idle)
        ((1, .read) :: (1, .save .reread) :: CancelDemo.payment ++
          [(1, .save .update), (1, .save .commit)]) s ∧
      (∃ sale, s.db.selling.sales.find? 100 = some sale ∧ sale.status = .Cancelled ∧
        sale.paidAmount = 2000) ∧ Settled s.db := by
  obtain ⟨s, hrun, hs⟩ := Machine.exists_runWith (machine CancelDemo.cancelling) NoStalePayment
    (.start CreateRace.ReceiptDemo.db .idle)
    ((1, .read) :: (1, .save .reread) :: CancelDemo.payment ++
      [(1, .save .update), (1, .save .commit)])
    (fun s => (s.db.selling.sales.find? 100).any fun sale =>
      sale.status = .Cancelled && sale.paidAmount = 2000) (by decide +kernel)
  simp only [Option.any_eq_true, Bool.and_eq_true, decide_eq_true_eq] at hs
  obtain ⟨sale, hsale, hcancelled, hpaid⟩ := hs
  refine ⟨s, hrun, ⟨sale, hsale, hcancelled, hpaid⟩, ?_⟩
  exact (sale_payments_agree_iff CancelDemo.cancelling CancelDemo.settled hrun.run).2 hrun _
    (List.prefix_refl _) s hrun.run

theorem cancel_loses_payment :
    ∃ s, (machine CancelDemo.cancelling).Run (.start CreateRace.ReceiptDemo.db .idle)
        ((1, .read) :: CancelDemo.payment ++
          [(1, .save .reread), (1, .save .update), (1, .save .commit)]) s ∧
      allocatedToSale s.db 100 = 2000 ∧
      (∃ sale, s.db.selling.sales.find? 100 = some sale ∧ sale.paidAmount = 0) ∧
      ¬ Settled s.db := by
  obtain ⟨s, hrun, hs⟩ := Machine.exists_runWith (machine CancelDemo.cancelling) (fun _ _ => True)
    (.start CreateRace.ReceiptDemo.db .idle)
    ((1, .read) :: CancelDemo.payment ++
      [(1, .save .reread), (1, .save .update), (1, .save .commit)])
    (fun s => allocatedToSale s.db 100 = 2000 &&
      (s.db.selling.sales.find? 100).any fun sale => sale.paidAmount = 0) (by decide +kernel)
  simp only [Option.any_eq_true, Bool.and_eq_true, decide_eq_true_eq] at hs
  obtain ⟨hallocated, sale, hsale, hpaid⟩ := hs
  refine ⟨s, hrun, hallocated, ⟨sale, hsale, hpaid⟩, fun hsettled => ?_⟩
  have h := (hsettled 100 sale hsale).1
  rw [hpaid, hallocated] at h
  exact absurd h (by decide)

end SalePaymentRace

end FashionErp
