/-
Sales that use a promotion, and requests that change it, side by side.

A sale locks the row of its promotion, checks it, and raises its counter by one in the
transaction that inserts the sale.
-/
import FashionErp.Lib.SaveEntity
import FashionErp.Sales.SaleCreation

namespace FashionErp.PromotionRace

open Lib Lib.Tx SalesService

structure World where
  db : Db
  uses : List Uuid

inductive Lock
  | counter (companyId : Uuid) (year : ℕ)
  | promotion (id : Uuid)
  | creationKey (companyId : Uuid) (key : String)
  deriving DecidableEq

/-- The arguments of a `SalesService.create`, and the time it is called. -/
structure Call where
  companyId : Uuid
  userId : Uuid
  now : Instant
  dto : CreateSaleDto
  creation : Option Creation

def Call.transactionDate (c : Call) : Instant := c.dto.transactionDate.getD c.now

inductive Request
  | create (c : Call)
  | update (id companyId userId : Uuid) (dto : PromotionsService.UpdatePromotionDto)

inductive Phase
  | called
  /-- No sale of the creation key was found. -/
  | lookedUp
  | validated
  /-- In the transaction, which holds the counter row. -/
  | numbered
  /-- The locking read found no sale of the key either. -/
  | unreplayed
  /-- The row of the promotion is held, if the code names one. -/
  | locked
  | charged (charge : Charge)
  /-- The entry of the key in the unique index is held. -/
  | inserted (charge : Charge)
  | failed (error : Failure)
  /-- `update` is saving. -/
  | save (phase : SavePhase Promotion)
  | returned
  | rejected (error : Failure)
  | aborted

inductive Label
  | lookup
  /-- The checks before the transaction. -/
  | validate
  /-- The lock on the counter row. -/
  | number
  /-- The locking read of the creation key. -/
  | replay
  | lock
  | charge
  | insert
  | commit
  /-- The `catch`. -/
  | recover
  | read
  | save (l : SaveLabel)
  | abort
  deriving DecidableEq

abbrev Step := Move World Lock Phase

/-- The row of promotion `id`. -/
def promotionAccess (id : Uuid) : RowAccess World Promotion where
  find w := w.db.selling.promotions.find? id
  put promotion w := { w with db := { w.db with
    selling := { w.db.selling with promotions := w.db.selling.promotions.save promotion } } }
  merge := Promotion.merge

/-! ## The moves of a sale -/

def lookupMove (c : Call) (w : World) : Step :=
  match (run (findByCreationKey c.companyId c.creation) w.db).1 with
  | .ok (some _) => .goto .returned
  | .ok none => .goto .lookedUp
  | .error error => .goto (.rejected error)

def validateMove (c : Call) (w : World) : Step :=
  match (run (assertCreatable c.companyId c.dto) w.db).1 with
  | .ok _ => .goto .validated
  | .error error => .goto (.rejected error)

def numberMove (c : Call) (w : World) : Step :=
  match (run (match c.dto.salesAccountId with
    | none => pure ()
    | some salesAccountId => assertValidSalesAccount salesAccountId c.companyId c.userId)
    w.db).1 with
  | .ok _ => .acquire (.counter c.companyId c.transactionDate.getUTCFullYear) .numbered
  | .error error => .leave (.failed error)

def replayMove (c : Call) (w : World) : Step :=
  match (run (findByCreationKey c.companyId c.creation) w.db).1 with
  | .ok (some _) =>
    .commit
      { w with db := (run (generateSaleNumber c.companyId c.transactionDate.getUTCFullYear) w.db).2 }
      .returned
  | .ok none => .goto .unreplayed
  | .error error => .leave (.failed error)

def lockMove (c : Call) (w : World) : Step :=
  match c.dto.code.bind (PromotionsService.findByCode w.db c.companyId) with
  | none => .goto .locked
  | some promotion => .acquire (.promotion promotion.id) .locked

def chargeMove (c : Call) (w : World) : Step :=
  match (run (chargeSale c.companyId c.dto c.transactionDate) w.db).1 with
  | .ok charge => .goto (.charged charge)
  | .error error => .leave (.failed error)

def insertMove (c : Call) (charge : Charge) (w : World) : Step :=
  match c.creation with
  | none => .goto (.inserted charge)
  | some creation =>
    if (findSaleByKey w.db c.companyId creation).isSome then
      .leave (.failed (.duplicateEntry "uq_sales_creation_key"))
    else
      .acquire (.creationKey c.companyId creation.key) (.inserted charge)

def persist (c : Call) (charge : Charge) : DbTx Sale := do
  let saleNumber ← generateSaleNumber c.companyId c.transactionDate.getUTCFullYear
  insertSale c.companyId c.userId c.dto c.transactionDate c.creation saleNumber charge

def commitMove (c : Call) (charge : Charge) (w : World) : Step :=
  match run (persist c charge) w.db with
  | (.ok _, db') => .commit ⟨db', w.uses ++ charge.promotionId.toList⟩ .returned
  | (.error error, _) => .leave (.failed error)

def recoverMove (c : Call) (error : Failure) (w : World) : Step :=
  match (run (recoverCreation c.companyId c.creation error) w.db).1 with
  | .ok _ => .goto .returned
  | .error error => .goto (.rejected error)

def createMove (c : Call) : Label → Phase → World → Option Step
  | .lookup, .called, w => some (lookupMove c w)
  | .validate, .lookedUp, w => some (validateMove c w)
  | .number, .validated, w => some (numberMove c w)
  | .replay, .numbered, w => some (replayMove c w)
  | .lock, .unreplayed, w => some (lockMove c w)
  | .charge, .locked, w => some (chargeMove c w)
  | .insert, .charged charge, w => some (insertMove c charge w)
  | .commit, .inserted charge, w => some (commitMove c charge w)
  | .recover, .failed error, w => some (recoverMove c error w)
  | .abort, .returned, _ => none
  | .abort, _, _ => some (.leave .aborted)
  | _, _, _ => none

/-! ## The moves of an update -/

/-- The unlocked read of `update` and its check. -/
def readMove (id companyId userId : Uuid) (dto : PromotionsService.UpdatePromotionDto)
    (w : World) : Step :=
  match (run (do
    let entity ← PromotionsService.findByIdInCompany id companyId
    PromotionsService.assertEndDate dto entity
    return entity) w.db).1 with
  | .ok entity => .goto (.save (.changed (PromotionsService.applyUpdate dto userId entity)))
  | .error error => .goto (.rejected error)

def protocol (request : ℕ → Request) : Protocol World Lock Phase Label := fun i l p w =>
  match request i, l, p with
  | .create c, l, p => createMove c l p w
  | .update id companyId userId dto, .read, .called => some (readMove id companyId userId dto w)
  | .update id _ _ _, .save l, .save p =>
    (promotionAccess id).saveMove (.promotion id) Phase.save .returned l p w
  | .update .., .abort, .save _ => some (.leave .aborted)
  | _, _, _ => none

def machine (request : ℕ → Request) : Machine (Shared World Lock Phase) (ℕ × Label) :=
  concurrent (protocol request)

/-! ## What is claimed -/

def Exact (w : World) : Prop :=
  ∀ id p, w.db.selling.promotions.find? id = some p → p.usageCount = w.uses.count id

def WithinLimit (s s' : Shared World Lock Phase) : Prop :=
  s'.db.uses = s.db.uses ∨ ∃ id p, s'.db.uses = s.db.uses ++ [id] ∧
    s.db.db.selling.promotions.find? id = some p ∧ PromotionsService.UnderLimit p

def NotStale (s : Shared World Lock Phase) : ℕ × Label → Prop
  | (i, .save .commit) =>
    match s.phase i with
    | .save (.updated entity seen _) => entity.usageCount = seen.usageCount
    | _ => True
  | _ => True

instance (s : Shared World Lock Phase) (l : ℕ × Label) : Decidable (NotStale s l) := by
  unfold NotStale
  split
  · split <;> infer_instance
  · infer_instance

/-! ## The invariant -/

/-- How the counter may move: any way that goes on, and by one at least. -/
structure Counts (Q : ℕ → ℕ → Prop) : Prop where
  refl : ∀ n, Q n n
  trans : ∀ n n₁ n₂, Q n n₁ → Q n₁ n₂ → Q n n₂
  succ : ∀ n, Q n (n + 1)

theorem counts_any : Counts fun _ _ => True := ⟨fun _ => trivial, fun _ _ _ _ _ => trivial,
  fun _ => trivial⟩

theorem counts_up : Counts (· ≤ ·) := ⟨Nat.le_refl, fun _ _ _ => Nat.le_trans, Nat.le_succ⟩

structure Follows (Q : ℕ → ℕ → Prop) (p p' : Promotion) : Prop where
  companyId : p'.companyId = p.companyId
  code : p'.code = p.code
  usageCount : Q p.usageCount p'.usageCount

variable {request : ℕ → Request} {Q : ℕ → ℕ → Prop}

theorem Follows.refl (hQ : Counts Q) (p : Promotion) : Follows Q p p := ⟨rfl, rfl, hQ.refl _⟩

theorem Follows.trans (hQ : Counts Q) (p p₁ p₂ : Promotion) (h₁ : Follows Q p p₁)
    (h₂ : Follows Q p₁ p₂) : Follows Q p p₂ :=
  ⟨h₂.companyId.trans h₁.companyId, h₂.code.trans h₁.code,
    hQ.trans _ _ _ h₁.usageCount h₂.usageCount⟩

def ChargeOk (held : Lock → Prop) (w : World) (charge : Charge) : Prop :=
  ∀ id ∈ charge.promotionId, held (.promotion id) ∧
    ∃ p, w.db.selling.promotions.find? id = some p ∧ PromotionsService.UnderLimit p

/-- What holds of request `i`, which holds the rows `held`. -/
def PhaseOk (request : ℕ → Request) (Q : ℕ → ℕ → Prop) (held : Lock → Prop) (w : World) (i : ℕ)
    (p : Phase) : Prop :=
  match request i, p with
  | .create c, .locked => ∀ code ∈ c.dto.code, ∀ p,
      PromotionsService.findByCode w.db c.companyId code = some p → held (.promotion p.id)
  | .create _, .charged charge => ChargeOk held w charge
  | .create _, .inserted charge => ChargeOk held w charge
  | .update id _ userId dto, .save p => SaveOk (promotionAccess id) (.promotion id) (Follows Q)
      (PromotionsService.applyUpdate dto userId) held w p
  | _, _ => True

/-- What a commit does to the promotions: at most one row is written, over a row the
request holds. -/
inductive Writes (Q : ℕ → ℕ → Prop) (heldBy : Lock → Prop) (w w' : World) : Prop
  | none (h : w'.db.selling.promotions = w.db.selling.promotions)
  | saved (p p' : Promotion) (hfind : w.db.selling.promotions.find? p'.id = some p)
      (hby : heldBy (.promotion p'.id)) (hfollows : Follows Q p p')
      (h : w'.db.selling.promotions = w.db.selling.promotions.save p')

variable {w : World} {held : Lock → Prop} {p : Phase} {i : ℕ}
  {dto : PromotionsService.UpdatePromotionDto} {seen : Promotion} {s s' : Shared World Lock Phase}

variable {heldBy : Lock → Prop} {id : Uuid}

theorem Writes.find? {w' : World} (hQ : Counts Q) (h : Writes Q heldBy w w') {p : Promotion} (hp : w.db.selling.promotions.find? id = some p) :
    ∃ p', w'.db.selling.promotions.find? id = some p' ∧ Follows Q p p' ∧
      (¬ heldBy (.promotion id) → p' = p) := by
  cases h with
  | none h => exact ⟨p, by rw [h]; exact hp, .refl hQ p, fun _ => rfl⟩
  | saved q q' hfind hby hfollows h =>
    rw [h, Table.find?_save]
    split
    · rename_i hid
      change q'.id = id at hid
      subst hid
      obtain rfl := Option.some.inj (hfind.symm.trans hp)
      exact ⟨q', rfl, hfollows, fun hnot => absurd hby hnot⟩
    · exact ⟨p, hp, .refl hQ p, fun _ => rfl⟩

theorem Writes.findByCode {w' : World} (h : Writes Q heldBy w w')
    {companyId : Uuid} {code : String} {p' : Promotion}
    (hp : PromotionsService.findByCode w'.db companyId code = some p') :
    ∃ p, PromotionsService.findByCode w.db companyId code = some p ∧ p.id = p'.id := by
  unfold PromotionsService.findByCode at hp ⊢
  cases h with
  | none h =>
    rw [h] at hp
    exact ⟨p', hp, rfl⟩
  | saved q q' hfind _ hfollows h =>
    have hfind' : w.db.selling.promotions.find? (key q') = some q := hfind
    rw [h, Table.find?_rows_save_over hfind' (by rw [hfollows.companyId, hfollows.code])] at hp
    obtain ⟨p, hrow, rfl⟩ := Option.map_eq_some_iff.1 hp
    refine ⟨p, hrow, ?_⟩
    split
    · rename_i hkey
      exact hkey
    · rfl

theorem PhaseOk.of_writes (hQ : Counts Q) {w' : World} {j : ℕ}
    (h : Writes Q heldBy w w') (hapart : ∀ k, held k → ¬ heldBy k)
    (hp : PhaseOk request Q held w j p) : PhaseOk request Q held w' j p := by
  have hcharge : ∀ charge, ChargeOk held w charge → ChargeOk held w' charge := by
    intro charge hok id hid
    obtain ⟨hheld, p, hfind, hroom⟩ := hok id hid
    obtain ⟨p', hfind', -, hkeep⟩ := h.find? hQ hfind
    obtain rfl := hkeep (hapart _ hheld)
    exact ⟨hheld, p', hfind', hroom⟩
  unfold PhaseOk at hp ⊢
  split at hp
  · intro code hcode p' hp'
    obtain ⟨p, hfind, hid⟩ := h.findByCode hp'
    rw [← hid]
    exact hp code hcode p hfind
  · exact hcharge _ hp
  · exact hcharge _ hp
  · refine hp.mono (Follows.trans hQ) fun p hp => ?_
    obtain ⟨p', hfind, hfollows, hkeep⟩ := h.find? hQ hp
    exact ⟨p', hfind, hfollows, fun hheld => hkeep (hapart _ hheld)⟩
  · trivial

/-! ## Steps -/

abbrev savedRow (dto : PromotionsService.UpdatePromotionDto) (userId : Uuid)
    (first seen current : Promotion) : Promotion :=
  (PromotionsService.applyUpdate dto userId first).merge seen current

/-- What a move can be. One that is not a commit keeps the standing of its request. -/
inductive MoveCase (request : ℕ → Request) (Q : ℕ → ℕ → Prop) (held : Lock → Prop) (w : World)
    (i : ℕ) : Label → Phase → Step → Prop
  | quiet {l : Label} {p : Phase} {m : Step}
      (hok : Shared.MoveOk (fun _ => False) (PhaseOk request Q) held w i m) :
      MoveCase request Q held w i l p m
  | replayed {l : Label} {p : Phase} {db' : Db} (hl : l ≠ .save .commit)
      (h : db'.selling.promotions = w.db.selling.promotions) :
      MoveCase request Q held w i l p (.commit { w with db := db' } .returned)
  | created {l : Label} {p : Phase} {charge : Charge} {db' : Db} (hl : l ≠ .save .commit)
      (hcharge : ChargeOk held w charge)
      (h : db'.selling.promotions = countedUse w.db.selling.promotions charge.promotionId) :
      MoveCase request Q held w i l p
        (.commit ⟨db', w.uses ++ charge.promotionId.toList⟩ .returned)
  | saved {id companyId userId : Uuid} {dto : PromotionsService.UpdatePromotionDto}
      {first seen current : Promotion} (hrequest : request i = .update id companyId userId dto)
      (hfind : w.db.selling.promotions.find? id = some current)
      (hseen : Follows Q first seen) (hcurrent : Follows Q seen current)
      (hheld : held (.promotion id)) :
      MoveCase request Q held w i (.save .commit)
        (.save (.updated (PromotionsService.applyUpdate dto userId first) seen
          (savedRow dto userId first seen current)))
        (.commit ((promotionAccess id).put (savedRow dto userId first seen current) w) .returned)

def Phase.free : Phase → Bool
  | .locked | .charged _ | .inserted _ | .save _ => false
  | _ => true

theorem free_ok (held : Lock → Prop) (w : World) (i : ℕ) (hp : p.free = true) :
    PhaseOk request Q held w i p := by
  unfold PhaseOk
  split <;> trivial

theorem quiet_goto {l : Label} {q : Phase} (hp : p.free = true) :
    MoveCase request Q held w i l q (.goto p) :=
  .quiet (free_ok held w i hp)

theorem quiet_leave {l : Label} {q : Phase} (hp : p.free = true) :
    MoveCase request Q held w i l q (.leave p) :=
  .quiet (free_ok (fun _ => False) w i hp)

theorem replayMove_cases (c : Call) : MoveCase request Q held w i .replay p (replayMove c w) := by
  unfold replayMove
  split
  · refine .replayed nofun ?_
    obtain ⟨number, db', hnumber, hseq⟩ :=
      nextDocumentNumber_succeeds .Sale "SAL" c.companyId c.transactionDate.getUTCFullYear w.db
    have hrun : run (generateSaleNumber c.companyId c.transactionDate.getUTCFullYear) w.db =
        (.ok number, db') := by
      rw [run, generateSaleNumber, show nextDocumentNumber _ _ _ _ w.db = _ from hnumber]
    rw [hrun]
    show db'.selling.promotions = _
    rw [SequencesOnly] at hseq
    rw [hseq]
  · exact quiet_goto rfl
  · exact quiet_leave rfl

variable {c : Call}

theorem lockMove_cases (hrequest : request i = .create c) :
    MoveCase request Q held w i .lock p (lockMove c w) := by
  unfold lockMove
  split
  · rename_i hnone
    refine .quiet ?_
    simp only [Shared.MoveOk, PhaseOk, hrequest]
    intro code hcode promotion hfind
    rw [hcode, Option.bind_some, hfind] at hnone
    cases hnone
  · rename_i promotion hsome
    refine .quiet ?_
    simp only [Shared.MoveOk, PhaseOk, hrequest]
    intro code hcode promotion' hfind
    rw [hcode, Option.bind_some, hfind] at hsome
    exact .inl (by rw [Option.some.inj hsome])

theorem chargeMove_cases (hrequest : request i = .create c)
    (hheld : ∀ code ∈ c.dto.code, ∀ p, PromotionsService.findByCode w.db c.companyId code = some p → held (.promotion p.id)) :
    MoveCase request Q held w i .charge p (chargeMove c w) := by
  unfold chargeMove
  rcases run_cases (chargeSale c.companyId c.dto c.transactionDate) w.db with
    ⟨charge, _, hc, hrun⟩ | ⟨_, -, hrun⟩
  · rw [hrun]
    obtain ⟨rfl, hcharged⟩ := chargeSale_spec hc
    refine .quiet ?_
    simp only [Shared.MoveOk, PhaseOk, hrequest]
    intro id hid
    obtain ⟨code, hcode, promotion, hfind, rfl, hroom⟩ := hcharged.promotion id hid
    exact ⟨hheld code hcode promotion hfind, promotion,
      PromotionsService.find?_of_findByCode hfind, hroom⟩
  · rw [hrun]
    exact quiet_leave rfl

variable {charge : Charge}

theorem insertMove_cases (hrequest : request i = .create c) (hcharge : ChargeOk held w charge) :
    MoveCase request Q held w i .insert p (insertMove c charge w) := by
  unfold insertMove
  split
  · refine .quiet ?_
    simpa only [Shared.MoveOk, PhaseOk, hrequest] using hcharge
  · split
    · exact quiet_leave rfl
    · refine .quiet ?_
      simp only [Shared.MoveOk, PhaseOk, hrequest]
      intro id hid
      obtain ⟨hheld, hroom⟩ := hcharge id hid
      exact ⟨.inr hheld, hroom⟩

theorem commitMove_cases (hcharge : ChargeOk held w charge) :
    MoveCase request Q held w i .commit p (commitMove c charge w) := by
  unfold commitMove
  rcases run_cases (persist c charge) w.db with ⟨sale, db', hc, hrun⟩ | ⟨_, -, hrun⟩
  · rw [hrun]
    simp only [persist, commits_bind] at hc
    obtain ⟨number, db₁, hnumber, hinsert⟩ := hc
    have hseq := nextDocumentNumber_spec hnumber
    obtain ⟨id, items, -, -, hdb'⟩ := insertSale_spec hinsert
    refine .created (by rintro ⟨⟩) hcharge ?_
    rw [SequencesOnly] at hseq
    rw [hdb', hseq]
  · rw [hrun]
    exact quiet_leave rfl

variable {userId : Uuid}

theorem readMove_cases {companyId : Uuid} (hQ : Counts Q)
    (hrequest : request i = .update id companyId userId dto) :
    MoveCase request Q held w i .read p (readMove id companyId userId dto w) := by
  unfold readMove
  generalize hread : (do
    let entity ← PromotionsService.findByIdInCompany id companyId
    PromotionsService.assertEndDate dto entity
    return entity : DbTx Promotion) = t
  rcases run_cases t w.db with ⟨entity, _, hc, hrun⟩ | ⟨_, -, hrun⟩
  · rw [hrun]
    subst hread
    simp only [commits_bind, PromotionsService.commits_findByIdInCompany,
      PromotionsService.assertEndDate, commits_rejectIf, commits_pure] at hc
    obtain ⟨e, _, ⟨⟨hfind, -⟩, rfl⟩, _, _, ⟨-, rfl⟩, rfl, -⟩ := hc
    refine .quiet ?_
    simp only [Shared.MoveOk, PhaseOk, hrequest]
    exact ⟨entity, entity, rfl, hfind, .refl hQ entity⟩
  · rw [hrun]
    exact quiet_goto rfl

theorem createMove_cases {l : Label} {m : Step} (hrequest : request i = .create c)
    (hp : PhaseOk request Q held w i p) (h : createMove c l p w = some m) :
    MoveCase request Q held w i l p m := by
  unfold createMove at h
  split at h
  case h_1 =>
    cases h
    unfold lookupMove
    split <;> exact quiet_goto rfl
  case h_2 =>
    cases h
    unfold validateMove
    split <;> exact quiet_goto rfl
  case h_3 =>
    cases h
    unfold numberMove
    split
    · refine .quiet ?_
      simp only [Shared.MoveOk]
      exact free_ok _ w i rfl
    · exact quiet_leave rfl
  case h_4 =>
    cases h
    exact replayMove_cases c
  case h_5 =>
    cases h
    exact lockMove_cases hrequest
  case h_6 =>
    cases h
    simp only [PhaseOk, hrequest] at hp
    exact chargeMove_cases hrequest hp
  case h_7 =>
    cases h
    simp only [PhaseOk, hrequest] at hp
    exact insertMove_cases hrequest hp
  case h_8 =>
    cases h
    simp only [PhaseOk, hrequest] at hp
    exact commitMove_cases hp
  case h_9 =>
    cases h
    unfold recoverMove
    split <;> exact quiet_goto rfl
  case h_10 => cases h
  case h_11 =>
    cases h
    exact quiet_leave rfl
  case h_12 => cases h

theorem protocol_cases (hQ : Counts Q) {l : Label} {m : Step} (hp : PhaseOk request Q held w i p)
    (h : protocol request i l p w = some m) : MoveCase request Q held w i l p m := by
  unfold protocol at h
  split at h
  case h_1 hrequest => exact createMove_cases hrequest hp h
  case h_2 hrequest =>
    cases h
    exact readMove_cases hQ hrequest
  case h_3 id companyId userId dto l p hrequest =>
    simp only [PhaseOk, hrequest] at hp
    rcases hp.move (Follows.refl hQ) h with ⟨q, rfl, hok⟩ | ⟨q, rfl, hok⟩ |
      ⟨entity, seen, row, rfl, rfl, rfl⟩
    · refine .quiet ?_
      simpa only [Shared.MoveOk, PhaseOk, hrequest] using hok
    · refine .quiet ?_
      simpa only [Shared.MoveOk, PhaseOk, hrequest] using hok
    · obtain ⟨first, current, rfl, hfind, hseen, hcurrent, hheld, rfl⟩ := hp
      exact .saved hrequest hfind hseen hcurrent hheld
  case h_4 =>
    cases h
    exact quiet_leave rfl
  case h_5 => cases h

variable {current first : Promotion}

theorem savedRow_follows (hseen : Follows Q first seen)
    (hcount : Q current.usageCount (savedRow dto userId first seen current).usageCount) :
    Follows Q current (savedRow dto userId first seen current) where
  companyId := mergeCol_of_eq hseen.companyId.symm _
  code := mergeCol_of_eq hseen.code.symm _
  usageCount := hcount

theorem writes_of_created (hQ : Counts Q) {db' : Db} {uses : List Uuid}
    (hcharge : ChargeOk held w charge)
    (h : db'.selling.promotions = countedUse w.db.selling.promotions charge.promotionId) :
    Writes Q held w ⟨db', uses⟩ := by
  cases hid : charge.promotionId with
  | none =>
    rw [hid] at h
    exact .none h
  | some id =>
    obtain ⟨hheld, p, hfind, -⟩ := hcharge id hid
    have hp : p.id = id := Table.key_of_find? hfind
    subst hp
    rw [hid] at h
    refine .saved p { p with usageCount := p.usageCount + 1 } hfind hheld
      ⟨rfl, rfl, hQ.succ _⟩ (h.trans ?_)
    simp only [countedUse, PromotionsService.countUse, hfind]

theorem writes_of_saved
    (hfind : w.db.selling.promotions.find? id = some current) (hseen : Follows Q first seen)
    (hheld : held (.promotion id))
    (hcount : Q current.usageCount (savedRow dto userId first seen current).usageCount) :
    Writes Q held w ((promotionAccess id).put (savedRow dto userId first seen current) w) := by
  have hid : current.id = id := Table.key_of_find? hfind
  subst hid
  exact .saved current (savedRow dto userId first seen current) hfind hheld
    (savedRow_follows hseen hcount) rfl

/-- What the save of a step would have to do to the counter for it to move along `Q`. -/
def SaveMoves (Q : ℕ → ℕ → Prop) (s : Shared World Lock Phase) (l : ℕ × Label) : Prop :=
  l.2 = .save .commit → ∀ dto userId (first seen current row : Promotion),
    s.phase l.1 = .save (.updated (PromotionsService.applyUpdate dto userId first) seen row) →
      Follows Q first seen → Follows Q seen current →
        Q current.usageCount (savedRow dto userId first seen current).usageCount

variable {l : ℕ × Label} {G : World → Prop}

/-- One step keeps the standing of every request, as far as the counters move along
`Q`. -/
theorem inv_step (hQ : Counts Q)
    (h : s.Inv G (PhaseOk request Q)) (hs : (machine request).step s l = some s')
    (hsave : SaveMoves Q s l) (hG : G s'.db) : s'.Inv G (PhaseOk request Q) := by
  obtain ⟨i, l⟩ := l
  have hi := h.phase i
  generalize hp : s.phase i = p at hi
  have hcommit : ∀ w' q, protocol request i l (s.phase i) s.db = some (.commit w' q) →
      Writes Q (s.Holds i) s.db w' ∧ q = .returned := by
    intro w' q hm
    rw [hp] at hm
    generalize hmove : Move.commit w' q = m at hm
    cases protocol_cases hQ hi hm with
    | quiet hok =>
      subst hmove
      exact hok.1.elim
    | replayed _ hsame =>
      cases hmove
      exact ⟨.none hsame, rfl⟩
    | created _ hcharge hcounted =>
      cases hmove
      exact ⟨writes_of_created hQ hcharge hcounted, rfl⟩
    | saved _ hfind hseen hcurrent hheld =>
      cases hmove
      exact ⟨writes_of_saved hfind hseen hheld (hsave rfl _ _ _ _ _ _ hp hseen hcurrent), rfl⟩
  refine h.step hs (fun m hm => ?_) (fun w' q hm j _ held hapart hj => ?_)
  · cases m with
    | commit w' q =>
      obtain ⟨hwrites, rfl⟩ := hcommit w' q hm
      refine ⟨?_, free_ok _ _ i rfl⟩
      obtain ⟨m', hm', hmove⟩ := Option.bind_eq_some_iff.1 hs
      obtain rfl := Option.some.inj (hm.symm.trans hm')
      cases hmove
      exact hG
    | _ =>
      rw [hp] at hm
      cases protocol_cases hQ hi hm with
      | quiet hok => exact hok
  · exact hj.of_writes hQ (hcommit w' q hm).1 hapart

/-! ## What a step does to the counters -/

/-- A sale is committed with a promotion only within its limit, in any order of
steps. -/
theorem withinLimit_step
    (h : s.Inv G (PhaseOk request fun _ _ => True)) (hs : (machine request).step s l = some s') :
    WithinLimit s s' := by
  obtain ⟨i, l⟩ := l
  obtain ⟨m, hm, hmove⟩ := Shared.step_move hs
  have hi := h.phase i
  generalize hp : s.phase i = p at hi hm
  cases protocol_cases counts_any hi hm with
  | quiet hok => exact .inl (by rw [hok.db_eq hmove])
  | replayed _ _ =>
    cases hmove
    exact .inl rfl
  | @created _ _ charge _ _ hcharge _ =>
    cases hmove
    cases hid : charge.promotionId with
    | none => exact .inl (List.append_nil _)
    | some id =>
      obtain ⟨-, p, hfind, hroom⟩ := hcharge id hid
      exact .inr ⟨id, p, rfl, hfind, hroom⟩
  | saved _ _ _ _ _ =>
    cases hmove
    exact .inl rfl

theorem exact_created {promotionId : Option Uuid} {db' : Db} (hw : Exact w)
    (h : db'.selling.promotions = countedUse w.db.selling.promotions promotionId) :
    Exact ⟨db', w.uses ++ promotionId.toList⟩ := by
  intro id p hp
  change db'.selling.promotions.find? id = some p at hp
  rw [h] at hp
  cases promotionId with
  | none =>
    rw [Option.toList_none, List.append_nil]
    exact hw id p hp
  | some promotionId =>
    rw [countedUse, PromotionsService.find?_countUse] at hp
    obtain ⟨p₀, hp₀, rfl⟩ := Option.map_eq_some_iff.1 hp
    rw [Option.toList_some, List.count_append, List.count_singleton, ← hw id p₀ hp₀]
    by_cases hid : id = promotionId
    · rw [if_pos hid, if_pos (by rw [hid, beq_self_eq_true])]
    · have hne : ¬ (promotionId == id) = true := fun heq => hid (eq_of_beq heq).symm
      rw [if_neg hid, if_neg hne]
      rfl

/-- A save leaves the counters right exactly if it does not write one. -/
theorem exact_saved_iff (hw : Exact w) (hfind : w.db.selling.promotions.find? id = some current)
    (hseen : first.usageCount ≤ seen.usageCount) (hcurrent : seen.usageCount ≤ current.usageCount) :
    Exact ((promotionAccess id).put (savedRow dto userId first seen current) w) ↔
      first.usageCount = seen.usageCount := by
  have hkey : key (savedRow dto userId first seen current) = key current := rfl
  have hid : key (savedRow dto userId first seen current) = id :=
    hkey.trans (Table.key_of_find? hfind)
  have hcount : (savedRow dto userId first seen current).usageCount =
      mergeCol first.usageCount seen.usageCount current.usageCount := rfl
  constructor
  · intro hexact
    by_contra hne
    have hsaved := hexact id (savedRow dto userId first seen current) (by
      show (w.db.selling.promotions.save _).find? id = _
      rw [Table.find?_save, if_pos hid])
    rw [hcount, mergeCol_of_ne hne] at hsaved
    have hright := hw id current hfind
    change first.usageCount = w.uses.count id at hsaved
    omega
  · intro heq id' p hp
    change (w.db.selling.promotions.save _).find? id' = some p at hp
    rcases Table.find?_save_over hfind hkey hp with ⟨rfl, rfl⟩ | ⟨-, hp⟩
    · rw [hcount, mergeCol_of_eq heq]
      exact hw id' current hfind
    · exact hw id' p hp

theorem commit_of_updated {entity row : Promotion} {m : Step}
    (h : protocol request i (.save .commit) (.save (.updated entity seen row)) w = some m) :
    ∃ w' q, m = .commit w' q := by
  cases hrequest : request i with
  | create c =>
    simp only [protocol, hrequest, createMove] at h
    cases h
  | update id companyId userId dto =>
    simp only [protocol, hrequest, RowAccess.saveMove, Option.some.injEq] at h
    exact ⟨_, _, h.symm⟩

theorem exact_iff_notStale (h : s.Inv Exact (PhaseOk request (· ≤ ·)))
    (hs : (machine request).step s l = some s') : Exact s'.db ↔ NotStale s l := by
  obtain ⟨i, l⟩ := l
  obtain ⟨m, hm, hmove⟩ := Shared.step_move hs
  have hi := h.phase i
  generalize hp : s.phase i = p at hi hm
  have hother : l ≠ .save .commit → NotStale s (i, l) := by
    intro hl
    unfold NotStale
    split
    · rename_i heq
      exact absurd (Prod.mk.inj heq).2 hl
    · trivial
  cases protocol_cases counts_up hi hm with
  | quiet hok =>
    have hdb := hok.db_eq hmove
    refine iff_of_true (by rw [hdb]; exact h.db) ?_
    by_cases hl : l = .save .commit
    · subst hl
      simp only [NotStale, hp]
      split
      · -- A save that has updated its row commits; it is not quiet.
        obtain ⟨w', q, rfl⟩ := commit_of_updated hm
        exact hok.1.elim
      · trivial
    · exact hother hl
  | replayed hl hsame =>
    cases hmove
    refine iff_of_true (fun id p hp => ?_) (hother hl)
    exact h.db id p (by rw [← hsame]; exact hp)
  | created hl hcharge hcounted =>
    cases hmove
    exact iff_of_true (exact_created h.db hcounted) (hother hl)
  | saved hrequest hfind hseen hcurrent hheld =>
    cases hmove
    rw [exact_saved_iff h.db hfind hseen.usageCount hcurrent.usageCount]
    simp only [NotStale, hp, PromotionsService.applyUpdate_usageCount]

/-! ## Runs -/

theorem inv_start (hw : G w) :
    (Shared.start w .called : Shared World Lock Phase).Inv G (PhaseOk request Q) :=
  Shared.inv_start hw fun i held => free_ok held w i rfl

theorem saveMoves_of_notStale (h : NotStale s l) : SaveMoves (· ≤ ·) s l := by
  obtain ⟨i, l⟩ := l
  rintro rfl dto userId first seen current row hphase - -
  simp only [NotStale, hphase, PromotionsService.applyUpdate_usageCount] at h
  have hcount : (savedRow dto userId first seen current).usageCount = current.usageCount :=
    mergeCol_of_eq h _
  exact Nat.le_of_eq hcount.symm

/-- Uses are within the limit, and when the counters are exact. In every run each
sale that uses a promotion is committed while its row shows room for one more use; and
the counter of every promotion is the number of committed sales that used it in every
state of the run exactly when each update that commits its save had read the counter
which its save read again. -/
theorem usage_exact_iff (request : ℕ → Request) {w : World} (hw : Exact w) {ls : List (ℕ × Label)}
    {s : Shared World Lock Phase} (hrun : (machine request).Run (.start w .called) ls s) :
    (machine request).RunWith ((machine request).Steps WithinLimit) (.start w .called) ls s ∧
      ((∀ ks, ks <+: ls → ∀ s₁, (machine request).Run (.start w .called) ks s₁ → Exact s₁.db) ↔
        (machine request).RunWith NotStale (.start w .called) ls s) := by
  constructor
  · have hstart : (Shared.start w .called : Shared World Lock Phase).Inv (fun _ => True)
        (PhaseOk request fun _ _ => True) := inv_start trivial
    have hstep : ∀ s l s', s.Inv (fun _ => True) (PhaseOk request fun _ _ => True) →
        (machine request).step s l = some s' →
          s'.Inv (fun _ => True) (PhaseOk request fun _ _ => True) ∧ WithinLimit s s' := by
      intro s l s' h hs
      have hsave : SaveMoves (fun _ _ => True) s l := fun _ _ _ _ _ _ _ _ _ _ => trivial
      exact ⟨inv_step counts_any h hs hsave trivial, withinLimit_step h hs⟩
    exact (Machine.steps_iff_runWith (fun s l s' h _ hs => hstep s l s' h hs)
      (fun _ _ _ _ _ _ => trivial) hstart hrun).2 hrun
  · have hstart : (Shared.start w .called : Shared World Lock Phase).Inv Exact
        (PhaseOk request (· ≤ ·)) := inv_start hw
    refine Machine.prefixes_iff_runWith (fun s l s' h hc hs => ?_) (fun _ h => h.db)
      (fun _ _ _ h hs hexact => (exact_iff_notStale h hs).1 hexact) hstart hrun
    exact inv_step counts_up h hs (saveMoves_of_notStale hc) ((exact_iff_notStale h hs).2 hc)

/-! A promotion of ten percent that may be used once, a sale of one piece at 100.00,
and an update that changes the name. -/

namespace PromotionDemo

def now : Instant := { date := ⟨2026, 3, 1⟩, millis := 0 }

def summer : Promotion :=
  { id := 60, companyId := 10, code := "SUMMER", name := "Summer", description := none,
    discountType := .Percentage, discountValue := 100000, minimumPurchase := 0,
    maximumDiscountAmount := none, startDate := ⟨2026, 1, 1⟩, endDate := none,
    usageLimit := some 1, usageCount := 0, status := .Active, createdBy := none,
    updatedBy := none }

def db : Db where
  master :=
    { companies := .ofRows [{ id := 10, status := .Active, baseCurrency := "MMK" }]
      customers := .ofRows
        [{ id := 30, companyId := 10, customerCode := "C-1", receivableAccountId := none,
           status := .Active }]
      productVariants := .ofRows [{ id := 7, companyId := 10, status := .Active }]
      priceLists := .ofRows [{ id := 40, companyId := 10, status := .Active }]
      priceListItems :=
        [{ companyId := 10, priceListId := 40, productVariantId := 7, uomId := none,
           price := 10000, validFrom := ⟨⟨2026, 1, 1⟩, 0⟩, validTo := none, status := .Active }] }
  selling := { promotions := .ofRows [summer] }

def call : Call where
  companyId := 10
  userId := 99
  now := now
  dto :=
    { branchId := none, warehouseId := none, saleType := none, customerId := 30,
      salesAccountId := none, transactionDate := none, currency := "MMK", notes := none,
      promotionCode := some "SUMMER"
      items := [{ productVariantId := 7, uomId := none, quantity := 1, discountAmount := none,
                  taxAmount := none, priceListId := none }] }
  creation := none

def rename : PromotionsService.UpdatePromotionDto :=
  { name := some "Summer sale", description := none, minimumPurchase := none,
    maximumDiscountAmount := none, endDate := none, usageLimit := none, status := none }

def requests (i : ℕ) : Request := if i = 0 then .update 60 10 99 rename else .create call

def sell (i : ℕ) : List (ℕ × Label) :=
  [(i, .lookup), (i, .validate), (i, .number), (i, .replay), (i, .lock), (i, .charge),
    (i, .insert), (i, .commit)]

theorem exact : Exact ⟨db, []⟩ := by
  intro id p hp
  obtain rfl : p = summer := List.mem_singleton.1 (Table.mem_of_find? hp)
  rfl

end PromotionDemo

open PromotionDemo in
theorem usage_exact_iff_renamed :
    ∃ s, (machine requests).Run (.start ⟨db, []⟩ .called)
        (sell 1 ++ [(0, .read), (0, .save .reread), (0, .save .update), (0, .save .commit)]) s ∧
      Exact s.db ∧ s.db.uses = [60] ∧
      (machine requests).RunWith ((machine requests).Steps WithinLimit) (.start ⟨db, []⟩ .called)
        (sell 1 ++ [(0, .read), (0, .save .reread), (0, .save .update), (0, .save .commit)]) s := by
  obtain ⟨s, hrun, hs⟩ := Machine.exists_runWith (machine requests) NotStale
    (.start ⟨db, []⟩ .called)
    (sell 1 ++ [(0, .read), (0, .save .reread), (0, .save .update), (0, .save .commit)])
    (fun s => s.db.uses = [60]) (by decide +kernel)
  obtain ⟨hlimit, hiff⟩ := usage_exact_iff requests exact hrun.run
  exact ⟨s, hrun.run, hiff.2 hrun _ (List.prefix_refl _) s hrun.run, of_decide_eq_true hs, hlimit⟩

open PromotionDemo in
theorem rename_forgets_use :
    ∃ s, (machine requests).Run (.start ⟨db, []⟩ .called)
        ((0, .read) :: sell 1 ++ [(0, .save .reread), (0, .save .update), (0, .save .commit)] ++
          sell 2) s ∧
      s.db.uses = [60, 60] ∧
      (∃ p, s.db.db.selling.promotions.find? 60 = some p ∧ p.usageCount = 1 ∧
        p.usageLimit = some 1) ∧ ¬ Exact s.db := by
  obtain ⟨s, hrun, hs⟩ := Machine.exists_runWith (machine requests) (fun _ _ => True)
    (.start ⟨db, []⟩ .called)
    ((0, .read) :: sell 1 ++ [(0, .save .reread), (0, .save .update), (0, .save .commit)] ++
      sell 2)
    (fun s => s.db.uses = [60, 60] &&
      (s.db.db.selling.promotions.find? 60).any fun p => p.usageCount = 1 && p.usageLimit = some 1)
    (by decide +kernel)
  simp only [Bool.and_eq_true, Option.any_eq_true, decide_eq_true_eq] at hs
  obtain ⟨huses, p, hp, hcount, hlimit⟩ := hs
  refine ⟨s, hrun, huses, ⟨p, hp, hcount, hlimit⟩, fun hexact => ?_⟩
  have hright := hexact 60 p hp
  rw [hcount, huses] at hright
  exact absurd hright (by decide)

end FashionErp.PromotionRace
