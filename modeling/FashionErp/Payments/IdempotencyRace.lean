/-
Calls of `PaymentsService.create` that carry the same company, key and payload.

At most one of them ever has an effect (`EffectsOnce`): the unique index sees to
that.
-/
import FashionErp.Payments.CreateRace

namespace FashionErp

open Lib Lib.Tx

namespace CreateRace

def SameRequest (call : ℕ → Call) (companyId : Uuid) (key : String)
    (dto : PaymentsService.CreatePaymentDto) : Prop :=
  ∀ i, (call i).companyId = companyId ∧ (call i).key = some key ∧ (call i).dto = dto

def machine (call : ℕ → Call) : Machine (Shared Db Lock Phase) (ℕ × Label) :=
  concurrent fun i => createMove (call i)

def winner (c : Call) (db : Db) : Option Payment :=
  c.key.bind (PaymentsService.findByIdempotencyKey db c.companyId)

/-- At most one effect: the database is as it was, or as the transaction of one
of the calls left it. -/
def EffectsOnce (call : ℕ → Call) (db₀ db : Db) : Prop :=
  db = db₀ ∨ ∃ i payment, Commits (call i).runCreate db₀ payment db

def AnswersWinner (call : ℕ → Call) (s s' : Shared Db Lock Phase) : Prop :=
  ∀ i payment, winner (call i) s.db = some payment → (s.phase i).answered = false →
    (s'.phase i).answered = true → s'.phase i = .returned payment true

def RoomLeft (call : ℕ → Call) (s : Shared Db Lock Phase) : ℕ × Label → Prop
  | (i, .apply) =>
    match s.phase i with
    | .locked done t _ => (winner (call i) s.db).isSome →
        (run ((call i).apply t) (view (call i) done s.db)).1.isOk
    | _ => True
  | _ => True

instance (call : ℕ → Call) (s : Shared Db Lock Phase) (l : ℕ × Label) :
    Decidable (RoomLeft call s l) := by
  unfold RoomLeft
  split
  · split <;> infer_instance
  · infer_instance

def Creatable (c : Call) (db : Db) : Prop :=
  Commits (PaymentsService.assertCreatable c.companyId c.dto) db ⟨⟩ db

theorem assertCreatable_readsOnly (companyId : Uuid) (dto : PaymentsService.CreatePaymentDto) :
    ReadsOnly Db.master (PaymentsService.assertCreatable companyId dto) := by
  have hcustomer : ∀ direction, ReadsOnly Db.master (PaymentsService.assertValidCustomer direction
      companyId dto.customerId dto.supplierId) := by
    intro direction
    unfold PaymentsService.assertValidCustomer
    split
    · exact (findCustomer_readsOnly _ _).bind fun _ => readsOnly_rejectIf _ _
    · exact readsOnly_throw _
  have hsupplier : ReadsOnly Db.master (PaymentsService.assertValidSupplier companyId
      dto.customerId dto.supplierId) := by
    unfold PaymentsService.assertValidSupplier
    split
    · exact (findSupplier_readsOnly _ _).bind fun _ => readsOnly_rejectIf _ _
    · exact readsOnly_throw _
  refine (assertCompanyAndBranch_readsOnly _ _).bind fun _ => ?_
  refine ReadsOnly.bind ?_ fun _ => ?_
  · cases hdir : dto.direction with
    | Receipt => exact hcustomer _
    | Refund => exact hcustomer _
    | Payment => exact hsupplier
  refine ReadsOnly.bind ((findPaymentMethod_readsOnly _ _).bind fun _ => readsOnly_rejectIf _ _)
    fun _ => ?_
  refine (readsOnly_forM fun a _ => ?_).bind fun _ => readsOnly_rejectIf _ _
  exact (readsOnly_rejectIf _ _).bind fun _ => readsOnly_rejectIf _ _

theorem Creatable.of_master {c : Call} {db db' : Db} (h : Creatable c db)
    (hmaster : db'.master = db.master) : Creatable c db' :=
  (assertCreatable_readsOnly _ _ db db' hmaster.symm _ _ h).2

theorem applyTarget_not_duplicate {companyId userId : Uuid} {allocations : List PaymentAllocation}
    {t : AllocationTarget} {db : Db} {error : Failure}
    (h : Rejects (PaymentsService.applyTarget companyId userId allocations t) db error) :
    PaymentsService.isDuplicateIdempotencyKeyError error = false := by
  obtain ⟨type, id⟩ := t
  cases type with
  | Sale =>
    simp only [PaymentsService.applyTarget, SalesService.applyPayment, SalesService.assertPayable,
      SalesService.saveSale, SalesService.findByIdInCompany, rejects_bind, rejects_get,
      rejects_orReject, rejects_rejectIf, rejects_modify, false_or, and_false, exists_false,
      or_false] at h
    rcases h with ⟨_, _, -, -, rfl⟩ | ⟨_, _, -, -, rfl⟩
    · rfl
    · rfl
  | PurchaseInvoice =>
    simp only [PaymentsService.applyTarget, PurchaseInvoicesService.applyPayment,
      PurchaseInvoicesService.findEntity, PurchaseInvoicesService.findOrder,
      PurchaseInvoicesService.savePayload, savePurchaseInvoice, savePurchaseOrder, rejects_bind,
      rejects_get, rejects_orReject, rejects_rejectIf, rejects_modify, false_or, and_false,
      exists_false, or_false] at h
    rcases h with ⟨_, _, -, -, rfl⟩ | ⟨_, _, -, ⟨-, rfl⟩ | ⟨_, _, -, ⟨_, _, -, -, rfl⟩ |
      ⟨_, _, -, -, rfl⟩⟩⟩
    · rfl
    · rfl
    · rfl
    · rfl
  | PurchaseOrder =>
    simp only [PaymentsService.applyTarget, PurchaseOrdersService.applyPayment, savePurchaseOrder,
      rejects_bind, rejects_get, rejects_orReject, rejects_rejectIf, rejects_modify, false_or,
      and_false, exists_false, or_false] at h
    rcases h with ⟨_, _, -, ⟨-, rfl⟩ | ⟨_, _, -, ⟨-, rfl⟩ | ⟨_, _, -, -, rfl⟩⟩⟩
    · rfl
    · rfl
    · rfl
  | SaleReturn =>
    simp only [PaymentsService.applyTarget, SaleReturnsService.applyRefund,
      SaleReturnsService.findByIdInCompany, SaleReturnsService.saveReturn, rejects_bind,
      rejects_get, rejects_orReject, rejects_rejectIf, rejects_modify, false_or, and_false,
      exists_false, or_false] at h
    rcases h with ⟨_, _, -, -, rfl⟩ | ⟨_, _, -, ⟨-, rfl⟩ | ⟨_, _, -, -, rfl⟩⟩
    · rfl
    · rfl
    · rfl

/-! ## The invariant -/

theorem winner_of_created {c : Call} {key : String} (hkey : c.key = some key) {db db' : Db}
    {payment : Payment} (hnone : winner c db = none)
    (hpayments : db'.paying.payments = db.paying.payments.save payment)
    (hcompany : payment.companyId = c.companyId) (hpaymentKey : payment.idempotencyKey = some key) :
    winner c db' = some payment := by
  simp only [winner, hkey, Option.bind_some, PaymentsService.findByIdempotencyKey,
    List.find?_eq_none, decide_eq_true_eq] at hnone ⊢
  rw [hpayments]
  have hmem : payment ∈ (db.paying.payments.save payment).rows :=
    (Table.mem_save _ _ _).2 (.inl rfl)
  cases hfind : (db.paying.payments.save payment).rows.find? fun p =>
      decide (p.companyId = c.companyId ∧ p.idempotencyKey = some key) with
  | none =>
    have h := List.find?_eq_none.1 hfind payment hmem
    rw [decide_eq_true_eq] at h
    exact absurd ⟨hcompany, hpaymentKey⟩ h
  | some p =>
    have hp : p.companyId = c.companyId ∧ p.idempotencyKey = some key := by
      simpa using List.find?_some hfind
    rcases (Table.mem_save _ _ _).1 (List.mem_of_find?_eq_some hfind) with rfl | ⟨hrow, -⟩
    · rfl
    · exact absurd hp (hnone p hrow)

variable (call : ℕ → Call) (db₀ : Db)

def DbOk (db : Db) : Prop :=
  db = db₀ ∨ (∃ i payment, Commits (call i).runCreate db₀ payment db) ∧
    ∀ i, (winner (call i) db).isSome ∧ Creatable (call i) db

/-- What holds of call `i`, which holds the locks `held`. -/
def PhaseOk (held : Lock → Prop) (db : Db) (i : ℕ) : Phase → Prop
  | .lookedUp => winner (call i) db₀ = none
  | .validated => Creatable (call i) db
  | .applying .. => Creatable (call i) db
  | .locked .. => Creatable (call i) db
  | .inserted => Creatable (call i) db ∧ winner (call i) db = none ∧
      ∀ key, (call i).key = some key → held (.idempotencyKey (call i).companyId key)
  | .duplicated error => PaymentsService.isDuplicateIdempotencyKeyError error = true
  | _ => True

variable {call db₀}

theorem leaveFailed_ok {held : Lock → Prop} {db : Db} {i : ℕ} (error : Failure) :
    Shared.MoveOk (DbOk call db₀) (PhaseOk call db₀) held db i
      (.leave (failed (call i) error)) := by
  unfold Shared.MoveOk failed
  dsimp only
  split
  · rename_i h
    exact h.2
  · trivial

theorem winner_eq {companyId : Uuid} {key : String} {dto : PaymentsService.CreatePaymentDto}
    (hsame : SameRequest call companyId key dto) (db : Db) (i : ℕ) :
    winner (call i) db = PaymentsService.findByIdempotencyKey db companyId key := by
  obtain ⟨hcompany, hkey, -⟩ := hsame i
  rw [winner, hcompany, hkey, Option.bind_some]

section Moves

variable {companyId : Uuid} {key : String} {dto : PaymentsService.CreatePaymentDto}
  (hsame : SameRequest call companyId key dto) {held : Lock → Prop} {db : Db} {i : ℕ}

include hsame

theorem winner_call (db : Db) (j : ℕ) : winner (call j) db = winner (call i) db := by
  rw [winner_eq hsame, winner_eq hsame]

theorem creatable_call {db : Db} (h : Creatable (call i) db) (j : ℕ) : Creatable (call j) db := by
  unfold Creatable at h ⊢
  rw [(hsame j).1, (hsame j).2.2]
  rw [(hsame i).1, (hsame i).2.2] at h
  exact h

omit hsame in
theorem DbOk.eq_of_none (h : DbOk call db₀ db) (hnone : winner (call i) db = none) : db = db₀ := by
  rcases h with rfl | ⟨-, hall⟩
  · rfl
  · have hsome := (hall i).1
    rw [hnone] at hsome
    cases hsome

omit hsame in
theorem validateMove_ok :
    Shared.MoveOk (DbOk call db₀) (PhaseOk call db₀) held db i (validateMove (call i) db) := by
  unfold validateMove
  rcases run_cases (PaymentsService.assertCreatable (call i).companyId (call i).dto) db with
    ⟨_, _, hc, hrun⟩ | ⟨_, -, hrun⟩
  · obtain ⟨rfl, -⟩ := assertCreatable_readsOnly _ _ db db rfl _ _ hc
    rw [hrun]
    exact hc
  · rw [hrun]
    trivial

theorem insertMove_ok (hcreatable : Creatable (call i) db) :
    Shared.MoveOk (DbOk call db₀) (PhaseOk call db₀) held db i (insertMove (call i) db) := by
  obtain ⟨-, hkey, -⟩ := hsame i
  unfold insertMove
  rw [hkey]
  dsimp only
  split
  · exact leaveFailed_ok _
  · rename_i hnone
    refine ⟨hcreatable, ?_, fun k hk => ?_⟩
    · rw [winner, hkey, Option.bind_some]
      exact Option.not_isSome_iff_eq_none.1 hnone
    · rw [hkey] at hk
      cases hk
      exact .inl rfl

/-- The commit. It starts from the database as it was, and leaves the payment
of the key behind. -/
theorem commitMove_ok (hdb : DbOk call db₀ db) (hcreatable : Creatable (call i) db)
    (hnone : winner (call i) db = none) :
    Shared.MoveOk (DbOk call db₀) (PhaseOk call db₀) held db i (commitMove (call i) db) := by
  obtain ⟨-, hkey, -⟩ := hsame i
  unfold commitMove
  rcases run_cases (call i).runCreate db with ⟨payment, db', hc, hrun⟩ | ⟨_, -, hrun⟩
  · rw [hrun]
    refine ⟨.inr ⟨⟨i, payment, ?_⟩, fun j => ⟨?_, ?_⟩⟩, trivial⟩
    · rw [← hdb.eq_of_none hnone]
      exact hc
    · obtain ⟨hpayments, -, -, ⟨hcompany, hpaymentKey, -⟩, -⟩ := runCreate_leaves hc
      rw [winner_call hsame (i := i),
        winner_of_created hkey hnone hpayments hcompany (hpaymentKey.trans hkey)]
      rfl
    · obtain ⟨-, -, hmaster, -⟩ := runCreate_leaves hc
      exact (creatable_call hsame hcreatable j).of_master hmaster
  · rw [hrun]
    exact leaveFailed_ok _

theorem createMove_ok {l : Label} {p : Phase} {m : Move Db Lock Phase} (hdb : DbOk call db₀ db)
    (hp : PhaseOk call db₀ held db i p) (hm : createMove (call i) l p db = some m) :
    Shared.MoveOk (DbOk call db₀) (PhaseOk call db₀) held db i m := by
  unfold createMove at hm
  split at hm
  case h_1 =>
    cases hm
    unfold lookupMove
    split
    · trivial
    · rename_i hnone
      show winner (call i) db₀ = none
      rw [← hdb.eq_of_none hnone]
      exact hnone
  case h_2 =>
    cases hm
    exact validateMove_ok
  case h_3 =>
    cases hm
    exact hp
  case h_4 =>
    cases hm
    exact hp
  case h_5 =>
    cases hm
    unfold applyMove
    split
    · exact hp
    · exact leaveFailed_ok _
  case h_6 =>
    cases hm
    exact insertMove_ok hsame hp
  case h_7 =>
    cases hm
    exact commitMove_ok hsame hdb hp.1 hp.2.1
  case h_8 =>
    cases hm
    unfold recoverMove
    split <;> trivial
  case h_12 =>
    cases hm
    exact True.intro
  all_goals cases hm

theorem PhaseOk.of_commit {held heldBy : Lock → Prop} {db' : Db} {j : ℕ} {p : Phase}
    (hp : PhaseOk call db₀ held db j p) (hmaster : db'.master = db.master)
    (hkey : heldBy (.idempotencyKey companyId key)) (hapart : ∀ k, held k → ¬ heldBy k) :
    PhaseOk call db₀ held db' j p := by
  cases p with
  | validated => exact Creatable.of_master hp hmaster
  | applying done todo => exact Creatable.of_master hp hmaster
  | locked done t todo => exact Creatable.of_master hp hmaster
  | inserted =>
    obtain ⟨hcompany, hkeyj, -⟩ := hsame j
    have hheld := hp.2.2 key hkeyj
    rw [hcompany] at hheld
    exact absurd hkey (hapart _ hheld)
  | _ => exact hp

variable {s s' : Shared Db Lock Phase} {l : ℕ × Label}

theorem inv_step
    (h : s.Inv (DbOk call db₀) (PhaseOk call db₀)) (hs : (machine call).step s l = some s') :
    s'.Inv (DbOk call db₀) (PhaseOk call db₀) := by
  obtain ⟨i, l⟩ := l
  refine h.step hs (fun m hm => createMove_ok hsame h.db (h.phase i) hm) ?_
  intro db' q hm j _ held hapart hj
  obtain ⟨hinserted, payment, hc⟩ := createMove_commit hm
  have hi := h.phase i
  rw [hinserted] at hi
  have hheld := hi.2.2 key (hsame i).2.1
  rw [(hsame i).1] at hheld
  exact hj.of_commit hsame (runCreate_leaves hc).2.2.1 hheld hapart

/-! ## Who is answered how -/

theorem createMove_answers {l : Label} {p : Phase} {m : Move Db Lock Phase}
    (hdb : DbOk call db₀ db) (hp : PhaseOk call db₀ held db i p)
    (hroom : l = .apply → ∀ done t todo, p = .locked done t todo →
      (run ((call i).apply t) (view (call i) done db)).1.isOk)
    (hm : createMove (call i) l p db = some m) {payment : Payment}
    (hwinner : winner (call i) db = some payment) (hbefore : p.answered = false)
    (hafter : m.dest.answered = true) : m.dest = .returned payment true := by
  have hkey := (hsame i).2.1
  unfold createMove at hm
  split at hm
  case h_1 =>
    cases hm
    have hfound : (call i).key.bind
        (PaymentsService.findByIdempotencyKey db (call i).companyId) = some payment := hwinner
    unfold lookupMove
    rw [hfound]
    rfl
  case h_2 =>
    -- The winner passed these checks, and nothing they look at has changed.
    cases hm
    have hcreatable : Creatable (call i) db := by
      rcases hdb with rfl | ⟨-, hall⟩
      · have hnone : winner (call i) db = none := hp
        rw [hwinner] at hnone
        cases hnone
      · exact (hall i).2
    have hrun : run (PaymentsService.assertCreatable (call i).companyId (call i).dto) db =
        (.ok ⟨⟩, db) := by
      rw [run, show _ = _ from hcreatable]
    unfold validateMove at hafter
    rw [hrun] at hafter
    cases hafter
  case h_5 done t todo =>
    cases hm
    have hok := hroom rfl done t todo rfl
    unfold applyMove at hafter
    split at hafter
    · cases hafter
    · rename_i herror
      rw [herror] at hok
      cases hok
  case h_6 =>
    cases hm
    have hfound : (PaymentsService.findByIdempotencyKey db (call i).companyId key).isSome := by
      rw [winner, hkey, Option.bind_some] at hwinner
      rw [hwinner]
      rfl
    unfold insertMove at hafter
    rw [hkey] at hafter
    dsimp only at hafter
    rw [if_pos hfound, failed, hkey, if_pos ⟨rfl, by decide +kernel⟩] at hafter
    cases hafter
  case h_7 =>
    have hnone : winner (call i) db = none := hp.2.1
    rw [hwinner] at hnone
    cases hnone
  case h_8 error =>
    cases hm
    have hdup : PaymentsService.isDuplicateIdempotencyKeyError error = true := hp
    rw [winner, hkey, Option.bind_some] at hwinner
    have hrun : Commits (PaymentsService.recover (call i).companyId (call i).key error) db
        (payment, true) db := by
      simp only [PaymentsService.recover, hkey, commits_bind, commits_get]
      refine ⟨db, db, ⟨rfl, rfl⟩, ?_⟩
      rw [if_pos hdup]
      simp only [commits_bind, commits_orReject, commits_pure]
      exact ⟨payment, db, ⟨hwinner, rfl⟩, rfl, rfl⟩
    unfold recoverMove
    rw [run, show _ = _ from hrun]
    rfl
  all_goals cases hm
  all_goals cases hafter

theorem inv_answers (h : s.Inv (DbOk call db₀) (PhaseOk call db₀)) (hroom : RoomLeft call s l)
    (hs : (machine call).step s l = some s') : AnswersWinner call s s' := by
  obtain ⟨i, l⟩ := l
  obtain ⟨m, hm, hphase⟩ := Shared.step_phase hs
  intro j payment hwinner hbefore hafter
  rw [hphase] at hafter ⊢
  by_cases hj : j = i
  · subst hj
    rw [Function.update_self] at hafter ⊢
    refine createMove_answers hsame h.db (h.phase j) ?_ hm hwinner hbefore hafter
    rintro rfl done t todo hlocked
    unfold RoomLeft at hroom
    simp only [hlocked] at hroom
    refine hroom ?_
    rw [hwinner]
    rfl
  · rw [Function.update_of_ne hj] at hafter
    rw [hbefore] at hafter
    cases hafter

omit hsame in
theorem roomLeft_of_answers (hs : (machine call).step s l = some s') (h : AnswersWinner call s s') :
    RoomLeft call s l := by
  obtain ⟨i, l⟩ := l
  unfold RoomLeft
  split
  · rename_i j heq
    obtain ⟨rfl, rfl⟩ := Prod.mk.inj heq
    split
    · rename_i done t todo hlocked
      intro hsome
      obtain ⟨payment, hwinner⟩ := Option.isSome_iff_exists.1 hsome
      rcases run_cases ((call i).apply t) (view (call i) done s.db) with
        ⟨_, _, -, hrun⟩ | ⟨error, hrejects, hrun⟩
      · rw [hrun]
        rfl
      · -- The check turns the call away, with another error than a duplicate of the key.
        obtain ⟨m, hm, hphase⟩ := Shared.step_phase hs
        have hdest : m.dest = .rejected error := by
          simp only [hlocked, createMove, applyMove, hrun, failed,
            applyTarget_not_duplicate hrejects, Option.some.injEq] at hm
          rw [← hm]
          simp [Move.dest]
        have hnow : s'.phase i = .rejected error := by
          rw [hphase, Function.update_self, hdest]
        have hanswer := h i payment hwinner (by rw [hlocked]; rfl) (by rw [hnow]; rfl)
        rw [hnow] at hanswer
        cases hanswer
    · trivial
  · trivial

end Moves

theorem inv_start (call : ℕ → Call) (db₀ : Db) :
    (Shared.start db₀ .called : Shared Db Lock Phase).Inv (DbOk call db₀) (PhaseOk call db₀) :=
  Shared.inv_start (.inl rfl) fun _ _ => trivial

/-- One payment per key. Calls that carry the same company, key and payload, in
any order of their steps, have the effects of at most one of them; and once a
payment of the key is committed, every call that is answered is answered with it,
exactly when no call then finds a target without room. -/
theorem payment_per_key_iff {call : ℕ → Call} {companyId : Uuid} {key : String}
    {dto : PaymentsService.CreatePaymentDto} (hsame : SameRequest call companyId key dto) {db : Db}
    {ls : List (ℕ × Label)} {s : Shared Db Lock Phase}
    (hrun : (machine call).Run (.start db .called) ls s) :
    EffectsOnce call db s.db ∧
      ((machine call).RunWith ((machine call).Steps (AnswersWinner call)) (.start db .called) ls s ↔
        (machine call).RunWith (RoomLeft call) (.start db .called) ls s) := by
  constructor
  · have hinv := hrun.invariant (inv_start call db) fun _ _ _ h _ hs => inv_step hsame h hs
    rcases hinv.db with hsameDb | ⟨hcommitted, -⟩
    · exact .inl hsameDb
    · exact .inr hcommitted
  · exact Machine.steps_iff_runWith
      (fun _ _ _ h hroom hs => ⟨inv_step hsame h hs, inv_answers hsame h hroom hs⟩)
      (fun _ _ _ _ hs h => roomLeft_of_answers hs h) (inv_start call db) hrun

/-! The receipt for all or for a part of what the sale is worth, sent twice. -/

namespace ReceiptDemo

def receipt (amount : Cents) (i : ℕ) : Call :=
  { companyId := 10, userId := i, now := PayablesDemo.now, dto := dto amount,
    idempotencyKeyHeader := some " retry-1 " }

theorem sameRequest (amount : Cents) :
    SameRequest (receipt amount) 10 "retry-1" (dto amount) := by
  have hkey : PaymentsService.normalizedKey (some " retry-1 ") = some "retry-1" := by
    decide +kernel
  exact fun _ => ⟨rfl, hkey, rfl⟩

def overtaken : List (ℕ × Label) :=
  [(0, .lookup), (1, .lookup), (0, .validate), (1, .validate), (0, .begin), (0, .lock),
    (0, .apply), (0, .insert), (0, .commit), (1, .begin), (1, .lock)]

def conflicted : Phase → Bool
  | .rejected (.app .Conflict _) => true
  | _ => false

theorem rejected_of_conflicted {p : Phase} (h : conflicted p = true) :
    ∃ message, p = .rejected (appException .Conflict message) := by
  unfold conflicted at h
  split at h
  · exact ⟨_, rfl⟩
  · cases h

end ReceiptDemo

theorem payment_per_key_iff_part :
    ∃ s, (machine (ReceiptDemo.receipt 2000)).Run (.start ReceiptDemo.db .called)
        (ReceiptDemo.overtaken ++ [(1, .apply), (1, .insert), (1, .recover)]) s ∧
      (s.phase 1).answered = true ∧ EffectsOnce (ReceiptDemo.receipt 2000) ReceiptDemo.db s.db ∧
      (machine (ReceiptDemo.receipt 2000)).RunWith
        ((machine (ReceiptDemo.receipt 2000)).Steps (AnswersWinner (ReceiptDemo.receipt 2000)))
        (.start ReceiptDemo.db .called)
        (ReceiptDemo.overtaken ++ [(1, .apply), (1, .insert), (1, .recover)]) s := by
  obtain ⟨s, hrun, hs⟩ := Machine.exists_runWith (machine (ReceiptDemo.receipt 2000))
    (RoomLeft (ReceiptDemo.receipt 2000)) (.start ReceiptDemo.db .called)
    (ReceiptDemo.overtaken ++ [(1, .apply), (1, .insert), (1, .recover)])
    (fun s => (s.phase 1).answered) (by decide +kernel)
  obtain ⟨honce, hiff⟩ := payment_per_key_iff (ReceiptDemo.sameRequest 2000) hrun.run
  exact ⟨s, hrun.run, hs, honce, hiff.2 hrun⟩

/-- All 60.00, sent twice: the second call is turned away by the balance the first
one used up, although the payment of its key is there. -/
theorem second_call_finds_no_room :
    ∃ s s', (machine (ReceiptDemo.receipt 6000)).Run (.start ReceiptDemo.db .called)
        ReceiptDemo.overtaken s ∧
      (machine (ReceiptDemo.receipt 6000)).step s (1, .apply) = some s' ∧
      (∃ message, s'.phase 1 = .rejected (appException .Conflict message)) ∧
      ¬ AnswersWinner (ReceiptDemo.receipt 6000) s s' := by
  obtain ⟨s, hrun, hs⟩ := Machine.exists_runWith (machine (ReceiptDemo.receipt 6000))
    (fun _ _ => True) (.start ReceiptDemo.db .called) ReceiptDemo.overtaken
    (fun s => (winner (ReceiptDemo.receipt 6000 1) s.db).isSome && !(s.phase 1).answered &&
      ((machine (ReceiptDemo.receipt 6000)).step s (1, .apply)).any fun s' =>
        ReceiptDemo.conflicted (s'.phase 1)) (by decide +kernel)
  simp only [Bool.and_eq_true, Bool.not_eq_true'] at hs
  obtain ⟨⟨hwinner, hbefore⟩, hstep⟩ := hs
  obtain ⟨payment, hpayment⟩ := Option.isSome_iff_exists.1 hwinner
  obtain ⟨s', hs', hconflict⟩ := Option.any_eq_true _ _ |>.1 hstep
  obtain ⟨message, hrejected⟩ := ReceiptDemo.rejected_of_conflicted hconflict
  refine ⟨s, s', hrun, hs', ⟨message, hrejected⟩, fun hanswers => ?_⟩
  have hanswer := hanswers 1 payment hpayment hbefore (by rw [hrejected]; rfl)
  rw [hrejected] at hanswer
  cases hanswer

end CreateRace

end FashionErp
