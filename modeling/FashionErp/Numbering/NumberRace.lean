/-
Sales, payments and goods receipts created side by side.

Each creation goes through the steps of its own model (`PromotionRace`, `CreateRace`,
`ReceiptRace`); what is new here is that a transaction draws its number when it locks
the counter row, and keeps it in hand until it writes its document. The locked row is
what makes the number still be the next one at the commit.

A rolled-back transaction gives its number back with the row.
-/
import FashionErp.Lib.CommitLaw
import FashionErp.Numbering.DocumentNumbers

namespace FashionErp.NumberRace

open Lib Lib.Tx DocumentNumbers

inductive Creation
  | sale (c : PromotionRace.Call)
  | payment (c : CreateRace.Call)
  | goodsReceipt (c : ReceiptRace.Call)

def Creation.series : Creation → Series
  | .sale c => ⟨.sale, c.companyId, c.transactionDate.getUTCFullYear⟩
  | .payment c => ⟨.payment, c.companyId, c.paymentDate.getUTCFullYear⟩
  | .goodsReceipt c => ⟨.goodsReceipt, c.companyId, (c.dto.receiptDate.getD c.now).getUTCFullYear⟩

inductive Lock
  | counter (s : Series)
  | promotion (id : Uuid)
  | creationKey (companyId : Uuid) (key : String)
  | target (t : AllocationTarget)
  | idempotencyKey (companyId : Uuid) (key : String)
  | orderItem (id : Uuid)
  deriving DecidableEq

def Lock.ofSale : PromotionRace.Lock → Lock
  | .counter companyId year => .counter ⟨.sale, companyId, year⟩
  | .promotion id => .promotion id
  | .creationKey companyId key => .creationKey companyId key

def Lock.ofPayment : CreateRace.Lock → Lock
  | .counter companyId year => .counter ⟨.payment, companyId, year⟩
  | .target t => .target t
  | .idempotencyKey companyId key => .idempotencyKey companyId key

inductive Stage
  | called
  | sale (p : PromotionRace.Phase)
  | payment (p : CreateRace.Phase)
  | goodsReceipt (p : ReceiptRace.Phase)

structure Phase where
  number : Option ℕ
  stage : Stage

inductive Label
  | sale (l : PromotionRace.Label)
  | payment (l : CreateRace.Label)
  | goodsReceipt (l : LineLabel)
  /-- The lock on the counter row of a receipt. -/
  | number
  /-- The counter row trips over its unique index, as often as it is tried. -/
  | collide

abbrev Step := Move Db Lock Phase

/-! ## The moves -/

def within {σ κ π : Type} (number : Option ℕ) (lock : κ → Lock) (stage : π → Stage) :
    Move σ κ π → Option Step
  | .goto p => some (.goto ⟨number, stage p⟩)
  | .acquire k p => some (.acquire (lock k) ⟨number, stage p⟩)
  | .leave p => some (.leave ⟨none, stage p⟩)
  | .commit _ _ => none

def fileMove {α : Type} (t : DbTx α) (returned : α → Stage) (failed : Failure → Stage) (db : Db) :
    Step :=
  match run t db with
  | (.ok a, db') => .commit db' ⟨none, returned a⟩
  | (.error error, _) => .leave ⟨none, failed error⟩

/-- The counter row with `lastSequence` at `n`. -/
def counted (s : Series) (n : ℕ) (db : Db) : Db :=
  { db with
    sequences.counters := db.sequences.counters.save
      { series := s.kind.table, companyId := s.companyId, year := s.year, lastSequence := n } }

def next (db : Db) (s : Series) : ℕ := lastSequence db s + 1

def insertNumbered (c : PromotionRace.Call) (charge : SalesService.Charge) (n : ℕ) : DbTx Sale := do
  let s := (Creation.sale c).series
  modify (counted s n)
  SalesService.insertSale c.companyId c.userId c.dto c.transactionDate c.creation (s.write n) charge

def replayMove (c : PromotionRace.Call) (n : ℕ) (db : Db) : Step :=
  match (run (SalesService.findByCreationKey c.companyId c.creation) db).1 with
  | .ok (some _) => .commit (counted (Creation.sale c).series n db) ⟨none, .sale .returned⟩
  | .ok none => .goto ⟨some n, .sale .unreplayed⟩
  | .error error => .leave ⟨none, .sale (.failed error)⟩

/-- The moves of a sale. -/
def saleMove (c : PromotionRace.Call) (number : Option ℕ) (l : PromotionRace.Label)
    (p : PromotionRace.Phase) (db : Db) : Option Step :=
  match l, p, number with
  | .number, .validated, _ =>
    within (some (next db (Creation.sale c).series)) Lock.ofSale .sale
      (PromotionRace.numberMove c ⟨db, []⟩)
  | .replay, .numbered, some n => some (replayMove c n db)
  | .commit, .inserted charge, some n =>
    some (fileMove (insertNumbered c charge n) (fun _ => .sale .returned)
      (fun error => .sale (.failed error)) db)
  | l, p, number =>
    (PromotionRace.createMove c l p ⟨db, []⟩).bind (within number Lock.ofSale .sale)

def payNumbered (c : CreateRace.Call) (n : ℕ) : DbTx Payment := do
  let s := (Creation.payment c).series
  modify (counted s n)
  c.targets.forM c.apply
  let id ← randomUUID
  let payment := PaymentsService.newPayment id (s.write n) c.companyId c.userId c.paymentDate c.key
    c.dto
  PaymentsService.insertPayment payment
  PaymentsService.postToLedger c.now c.userId payment
  PaymentsService.announce c.now payment
  return payment

/-- The moves of a payment. -/
def paymentMove (c : CreateRace.Call) (number : Option ℕ) (l : CreateRace.Label)
    (p : CreateRace.Phase) (db : Db) : Option Step :=
  match l, p, number with
  | .begin, .validated, _ =>
    (CreateRace.createMove c .begin .validated db).bind
      (within (some (next db (Creation.payment c).series)) Lock.ofPayment .payment)
  | .commit, .inserted, some n =>
    some (fileMove (payNumbered c n) (fun payment => .payment (.returned payment false))
      (fun error => .payment (CreateRace.failed c error)) db)
  | l, p, number => (CreateRace.createMove c l p db).bind (within number Lock.ofPayment .payment)

def receiveNumbered (c : ReceiptRace.Call) (snapshot : Db) (itemRows : List GoodsReceiptItem)
    (n : ℕ) : DbTx GoodsReceipt := do
  let s := (Creation.goodsReceipt c).series
  let purchaseOrder ← liftM (value (ReceiptRace.openOrder c.companyId c.dto) snapshot)
  modify (counted s n)
  itemRows.forM fun row =>
    GoodsReceiptsService.increaseStock (stockKey c.dto.warehouseId row.productVariantId)
      row.receivedQuantity row.baseReceivedQuantity
  let id ← randomUUID
  let goodsReceipt : GoodsReceipt :=
    { id := id, receiptNumber := s.write n, purchaseOrderId := c.dto.purchaseOrderId,
      warehouseId := c.dto.warehouseId, supplierId := purchaseOrder.supplierId,
      companyId := c.companyId, receiptDate := c.dto.receiptDate.getD c.now, receivedBy := c.userId,
      items := itemRows }
  modify fun db =>
    { db with stock.goodsReceipts := db.stock.goodsReceipts ++ [goodsReceipt] }
  itemRows.forM (GoodsReceiptsService.saveReceiptMovement c.userId goodsReceipt)
  return goodsReceipt

/-- The moves of a receipt, which draws its number between the order and the lines. -/
def receiptMove (c : ReceiptRace.Call) (number : Option ℕ) (l : LineLabel) (p : ReceiptRace.Phase)
    (db : Db) : Option Step :=
  match l, p, number with
  | .commit, .checking snapshot rows [], some n =>
    some (fileMove (receiveNumbered c snapshot rows n) (fun _ => .goodsReceipt .returned)
      (fun error => .goodsReceipt (.rejected error)) db)
  | .lock, _, none => none
  | .check, _, none => none
  | l, p, number =>
    ((ReceiptRace.receiptTx c).move id l p db).bind (within number Lock.orderItem .goodsReceipt)

def receiptNumberMove (c : ReceiptRace.Call) (db : Db) : Phase → Option Step
  | ⟨none, .goodsReceipt (.checking snapshot rows todo)⟩ =>
    some (.acquire (.counter (Creation.goodsReceipt c).series)
      ⟨some (next db (Creation.goodsReceipt c).series),
        .goodsReceipt (.checking snapshot rows todo)⟩)
  | _ => none

/-- The transaction rolls back when the counter row could not be created or saved. -/
def collideMove (creation : Creation) (stage : Stage) : Option Step :=
  let error : Failure := .duplicateEntry creation.series.kind.index
  match creation, stage with
  | .sale _, .sale .validated => some (.leave ⟨none, .sale (.failed error)⟩)
  | .payment c, .payment .validated => some (.leave ⟨none, .payment (CreateRace.failed c error)⟩)
  | .goodsReceipt _, .goodsReceipt (.checking ..) =>
    some (.leave ⟨none, .goodsReceipt (.rejected error)⟩)
  | _, _ => none

def protocol (creation : ℕ → Creation) : Protocol Db Lock Phase Label := fun i l p db =>
  match creation i, l, p.stage with
  | .sale c, .sale l, .called => saleMove c p.number l .called db
  | .sale c, .sale l, .sale q => saleMove c p.number l q db
  | .payment c, .payment l, .called => paymentMove c p.number l .called db
  | .payment c, .payment l, .payment q => paymentMove c p.number l q db
  | .goodsReceipt c, .goodsReceipt l, .called => receiptMove c p.number l .called db
  | .goodsReceipt c, .goodsReceipt l, .goodsReceipt q => receiptMove c p.number l q db
  | .goodsReceipt c, .number, .goodsReceipt _ => receiptNumberMove c db p
  | creation, .collide, stage => if p.number = none then collideMove creation stage else none
  | _, _, _ => none

def machine (creation : ℕ → Creation) : Machine (Shared Db Lock Phase) (ℕ × Label) :=
  concurrent (protocol creation)

/-! ## The transactions are those of the services

A number that is the next one at the commit is the one the service would draw there. -/

variable {db : Db} {n : ℕ} {c : PromotionRace.Call} {p : Phase}

/-! ## What the transactions file -/

theorem lastSequence_counted (s s' : Series) (n : ℕ) (db : Db) :
    lastSequence (counted s n db) s' = if s' = s then n else lastSequence db s' := by
  have hkey : (s.kind.table, s.companyId, s.year) = (s'.kind.table, s'.companyId, s'.year) ↔
      s' = s := by
    constructor
    · intro h
      obtain ⟨htable, hrest⟩ := Prod.mk.inj h
      obtain ⟨hcompany, hyear⟩ := Prod.mk.inj hrest
      exact Series.ext (Kind.table_injective htable).symm hcompany.symm hyear.symm
    · rintro rfl
      rfl
  unfold lastSequence counted
  rw [Table.find?_save]
  change (Option.map _ (if (s.kind.table, s.companyId, s.year) = _ then _ else _)).getD 0 = _
  by_cases hs : s' = s
  · rw [if_pos (hkey.2 hs), if_pos hs]
    rfl
  · rw [if_neg fun h => hs (hkey.1 h), if_neg hs]

variable {db' : Db}

theorem insertNumbered_files {charge : SalesService.Charge} {sale : Sale}
    (hissued : Issued db) (h : Commits (insertNumbered c charge n) db sale db') :
    Filed ((Creation.sale c).series.filing ((Creation.sale c).series.write n))
      (counted (Creation.sale c).series n db) db' := by
  unfold insertNumbered SalesService.insertSale SalesService.saveSale at h
  simp only [commits_bind, commits_get, commits_rejectIf, commits_modify] at h
  obtain ⟨_, _, rfl, _, _, ⟨rfl, rfl⟩, _, _, ⟨-, rfl⟩, id, db₁, hid, items, db₂, hitems, _, _, rfl,
    h⟩ := h
  have hnumbered : Untouched db₁ db₂ :=
    (frame_foldlM fun items line _ => frame_randomUUID.bind fun _ => frame_pure _).of_commits hitems
  have huntouched : Untouched (counted (Creation.sale c).series n db) db₂ :=
    IsTrans.trans _ _ _ (frame_randomUUID.of_commits hid) hnumbered
  obtain ⟨hseq₁, hnext⟩ := randomUUID_spec hid
  have hselling : db₂.selling = db.selling := by
    have hseq₂ := (SalesService.saveSaleItems_spec hitems).1
    rw [SequencesOnly] at hseq₁ hseq₂
    rw [hseq₂, hseq₁]
    rfl
  -- The id is the next one, and the sales have earlier ones.
  have hsupply : id < db₂.sequences.nextId :=
    Nat.lt_of_lt_of_le (randomUUID_lt hid) hnumbered.supply
  have hfresh : db₂.selling.sales.find? id = none := by
    rw [hselling, Table.find?_eq_none]
    intro row hrow hkey
    have hearlier : row.id < id := by
      rw [hnext]
      exact hissued row hrow
    exact absurd hkey (Nat.ne_of_lt hearlier)
  have hsaved (sale : Sale) (hid : sale.id = id) :
      Filed (Series.filing ⟨.sale, sale.companyId, sale.transactionDate.getUTCFullYear⟩ sale.saleNumber)
        db₂ { db₂ with selling := { db₂.selling with sales := db₂.selling.sales.save sale } } := by
    subst hid
    exact filed_saveSale hsupply hfresh
  have hfiled := Filed.before huntouched (hsaved (SalesService.newSale c.companyId c.userId c.dto
    c.transactionDate c.creation ((Creation.sale c).series.write n) charge id items) rfl)
  refine hfiled.after ?_
  split at h
  · obtain ⟨-, rfl⟩ := (commits_pure _ _ _ _).1 h
    exact Std.Refl.refl _
  · simp only [PromotionsService.incrementUsage, commits_bind, commits_modify, commits_pure] at h
    obtain ⟨_, _, rfl, -, rfl⟩ := h
    exact .of_same rfl rfl rfl rfl

theorem payNumbered_files {c : CreateRace.Call} {payment : Payment}
    (h : Commits (payNumbered c n) db payment db') :
    Filed ((Creation.payment c).series.filing ((Creation.payment c).series.write n))
      (counted (Creation.payment c).series n db) db' := by
  simp only [payNumbered, commits_bind, commits_modify, PaymentsService.commits_insertPayment,
    commits_pure] at h
  obtain ⟨_, _, rfl, _, db₁, hloop, id, db₂, hid, _, _, ⟨⟨hfresh, -⟩, rfl⟩, _, db₃, hpost, _, db₄,
    hannounce, -, rfl⟩ := h
  have huntouched : Untouched (counted (Creation.payment c).series n db) db₂ :=
    IsTrans.trans _ _ _ ((frame_forM fun t _ => frame_applyTarget _ _ _ t).of_commits hloop)
      (frame_randomUUID.of_commits hid)
  refine ((Filed.before huntouched (filed_savePayment hfresh)).after ?_).after
    ((frame_announce _ _).of_commits hannounce)
  exact (frame_postToLedger _ _ _).of_commits hpost

theorem receiveNumbered_files {c : ReceiptRace.Call} {snapshot : Db} {rows : List GoodsReceiptItem}
    {receipt : GoodsReceipt} (h : Commits (receiveNumbered c snapshot rows n) db receipt db') :
    Filed ((Creation.goodsReceipt c).series.filing ((Creation.goodsReceipt c).series.write n))
      (counted (Creation.goodsReceipt c).series n db) db' := by
  simp only [receiveNumbered, commits_bind, commits_liftM, commits_modify, commits_pure] at h
  obtain ⟨order, _, ⟨-, rfl⟩, _, _, rfl, _, db₁, hstock, id, db₂, hid, _, _, rfl, _, db₃, hmoves, -,
    rfl⟩ := h
  have huntouched : Untouched (counted (Creation.goodsReceipt c).series n db) db₂ :=
    IsTrans.trans _ _ _ ((frame_forM fun row _ => frame_increaseStock _ _ _).of_commits hstock)
      (frame_randomUUID.of_commits hid)
  have hsaved := (frame_forM (R := Untouched) fun row _ =>
    frame_saveReceiptMovement _ _ row).of_commits hmoves
  exact (Filed.before huntouched (filed_saveReceipt db₂ _)).after hsaved

/-! ## What is claimed -/

def FindsSale (c : PromotionRace.Call) (db : Db) : Prop :=
  ∃ creation ∈ c.creation, ∃ sale ∈ SalesService.findSaleByKey db c.companyId creation,
    sale.creationHash = some creation.hash

instance (c : PromotionRace.Call) (db : Db) : Decidable (FindsSale c db) := by
  unfold FindsSale
  infer_instance

variable {creation : ℕ → Creation}

/-- The sale that `i` is asked for has been committed while `i` drew its number. -/
def Replays (creation : ℕ → Creation) (db : Db) (i : ℕ) (l : Label) (p : Phase) : Prop :=
  match creation i, l, p.number, p.stage with
  | .sale c, .sale .replay, some _, .sale .numbered => FindsSale c db
  | _, _, _, _ => False

instance (db : Db) (i : ℕ) (l : Label) (p : Phase) : Decidable (Replays creation db i l p) := by
  unfold Replays
  split <;> infer_instance

/-- No sale that has drawn a number finds itself created already. -/
def NoReplay (creation : ℕ → Creation) (s : Shared Db Lock Phase) (l : ℕ × Label) : Prop :=
  ¬ Replays creation s.db l.1 l.2 (s.phase l.1)

instance (s : Shared Db Lock Phase) (l : ℕ × Label) : Decidable (NoReplay creation s l) := by
  unfold NoReplay
  infer_instance

/-! ## The invariant -/

def PhaseOk (creation : ℕ → Creation) (held : Lock → Prop) (db : Db) (i : ℕ) (p : Phase) : Prop :=
  ∀ n, p.number = some n →
    held (.counter (creation i).series) ∧ n = next db (creation i).series

structure Sound (db : Db) : Prop where
  numbered : Numbered db
  issued : Issued db

def Stands (held : Lock → Prop) (db db' : Db) : Prop :=
  ∀ s, held (.counter s) → lastSequence db' s = lastSequence db s

theorem PhaseOk.mono {held : Lock → Prop} {db : Db} {i : ℕ} (h : PhaseOk creation held db i p)
    (hstands : Stands held db db') : PhaseOk creation held db' i p := by
  intro n hn
  obtain ⟨hheld, hnext⟩ := h n hn
  refine ⟨hheld, ?_⟩
  rw [next, hstands _ hheld]
  exact hnext

variable {held : Lock → Prop} {i : ℕ} {l : Label}

/-- What a move can be: one that nobody sees, a replay that commits nothing but the
raised counter, or a commit that files a document under the number in hand. -/
inductive MoveCase (creation : ℕ → Creation) (held : Lock → Prop) (db : Db) (i : ℕ) (l : Label)
    (p : Phase) : Step → Prop
  | quiet {m : Step} (hok : Shared.MoveOk (fun _ => False) (PhaseOk creation) held db i m)
      (hreplay : ¬ Replays creation db i l p) : MoveCase creation held db i l p m
  | replayed {n : ℕ} {stage : Stage} (hnumber : p.number = some n)
      (hreplay : Replays creation db i l p) :
      MoveCase creation held db i l p (.commit (counted (creation i).series n db) ⟨none, stage⟩)
  | filed {n : ℕ} {stage : Stage} {db' : Db} (hnumber : p.number = some n)
      (hreplay : ¬ Replays creation db i l p)
      (hfiled : Filed ((creation i).series.filing ((creation i).series.write n))
        (counted (creation i).series n db) db') :
      MoveCase creation held db i l p (.commit db' ⟨none, stage⟩)

/-! ## Moves -/

theorem leave_ok (stage : Stage) :
    Shared.MoveOk (fun _ => False) (PhaseOk creation) held db i (.leave ⟨none, stage⟩) :=
  fun _ h => nomatch h

theorem within_ok {σ κ π : Type} {number : Option ℕ} {lock : κ → Lock} {stage : π → Stage}
    {m : Move σ κ π} {step : Step} (h : within number lock stage m = some step)
    (hok : ∀ p, PhaseOk creation held db i ⟨number, p⟩) :
    Shared.MoveOk (fun _ => False) (PhaseOk creation) held db i step := by
  cases m with
  | goto p =>
    cases h
    exact hok _
  | acquire k p =>
    cases h
    intro n hn
    obtain ⟨hheld, hnext⟩ := hok (stage p) n hn
    exact ⟨.inr hheld, hnext⟩
  | leave p =>
    cases h
    exact leave_ok _
  | commit db' p => cases h

theorem draw_ok {s : Series} (hs : (creation i).series = s) (stage : Stage) :
    Shared.MoveOk (fun _ => False) (PhaseOk creation) held db i
      (.acquire (.counter s) ⟨some (next db s), stage⟩) := by
  subst hs
  intro n hn
  cases hn
  exact ⟨.inl rfl, rfl⟩

theorem fileMove_cases {α : Type} {t : DbTx α} {returned : α → Stage} {failed : Failure → Stage}
    {n : ℕ} (hnumber : p.number = some n) (hreplay : ¬ Replays creation db i l p)
    (hfiled : ∀ a db', Commits t db a db' → Filed ((creation i).series.filing ((creation i).series.write n)) (counted (creation i).series n db) db') :
    MoveCase creation held db i l p (fileMove t returned failed db) := by
  unfold fileMove
  rcases run_cases t db with ⟨a, db', hcommits, hrun⟩ | ⟨error, -, hrun⟩
  · rw [hrun]
    exact .filed hnumber hreplay (hfiled a db' hcommits)
  · rw [hrun]
    exact .quiet (leave_ok _) hreplay

theorem finds_iff : FindsSale c db ↔
    ∃ sale, (run (SalesService.findByCreationKey c.companyId c.creation) db).1 = .ok (some sale) := by
  have hcommits : ∀ sale, (run (SalesService.findByCreationKey c.companyId c.creation) db).1 =
      .ok (some sale) ↔ ∃ creation ∈ c.creation,
        SalesService.findSaleByKey db c.companyId creation = some sale ∧
          sale.creationHash = some creation.hash := by
    intro sale
    rw [run_fst_eq_ok]
    simp only [SalesService.findByCreationKey, commits_bind, commits_get]
    cases c.creation with
    | none => simp
    | some creation =>
      cases hfind : SalesService.findSaleByKey db c.companyId creation with
      | none => simp [hfind]
      | some found =>
        have hboth : found.creationHash = some creation.hash ∧ sale = found ↔
            sale = found ∧ sale.creationHash = some creation.hash := by
          constructor
          · rintro ⟨hhash, rfl⟩
            exact ⟨rfl, hhash⟩
          · rintro ⟨rfl, hhash⟩
            exact ⟨hhash, rfl⟩
        simpa [hfind, SalesService.assertCreationHash, eq_comm] using hboth
  simp only [hcommits]
  constructor
  · rintro ⟨creation, hcreation, sale, hsale, hhash⟩
    exact ⟨sale, creation, hcreation, hsale, hhash⟩
  · rintro ⟨sale, creation, hcreation, hsale, hhash⟩
    exact ⟨creation, hcreation, sale, hsale, hhash⟩

theorem replays_iff (hcreation : creation i = .sale c) :
    Replays creation db i l p ↔ l = .sale .replay ∧ p.stage = .sale .numbered ∧
      p.number.isSome ∧ FindsSale c db := by
  unfold Replays
  split
  · rename_i c' n hc hnumber hstage
    obtain rfl := Creation.sale.inj (hcreation.symm.trans hc)
    simp [hnumber, hstage]
  · rename_i hnot
    refine ⟨False.elim, fun ⟨hl, hstage, hnumber, _⟩ => ?_⟩
    obtain ⟨n, hn⟩ := Option.isSome_iff_exists.1 hnumber
    exact hnot c n hcreation hl hn hstage

variable {m : Step}

theorem saleMove_cases {l : PromotionRace.Label} {q : PromotionRace.Phase}
    (hcreation : creation i = .sale c)
    (hstage : p.stage = .sale q ∨ (p.stage = .called ∧ q = .called)) (hissued : Issued db)
    (hok : PhaseOk creation held db i p) (hm : saleMove c p.number l q db = some m) :
    MoveCase creation held db i (.sale l) p m := by
  have hseries : (creation i).series = (Creation.sale c).series := by rw [hcreation]
  have hother : l ≠ .replay → ¬ Replays creation db i (.sale l) p := by
    intro hl h
    exact hl (Label.sale.inj ((replays_iff hcreation).1 h).1)
  unfold saleMove at hm
  split at hm
  case h_1 =>
    refine .quiet ?_ (hother nofun)
    unfold PromotionRace.numberMove at hm
    split at hm
    · cases hm
      exact draw_ok hseries _
    · cases hm
      exact leave_ok _
  case h_2 n hnumber =>
    cases hm
    have hq : p.stage = .sale .numbered := hstage.resolve_right fun h => nomatch h.2
    have hfinds : Replays creation db i (.sale .replay) p ↔ FindsSale c db := by
      rw [replays_iff hcreation, hnumber]
      exact ⟨fun h => h.2.2.2, fun h => ⟨rfl, hq, rfl, h⟩⟩
    rw [finds_iff] at hfinds
    unfold replayMove
    rw [← hseries]
    split
    · rename_i sale hsale
      exact .replayed hnumber (hfinds.2 ⟨sale, hsale⟩)
    · rename_i hnone
      refine .quiet (fun n' hn' => hok n' (hnumber.trans hn')) fun h => ?_
      obtain ⟨sale, hsale⟩ := hfinds.1 h
      rw [hnone] at hsale
      cases hsale
    · rename_i error herror
      refine .quiet (leave_ok _) fun h => ?_
      obtain ⟨sale, hsale⟩ := hfinds.1 h
      rw [herror] at hsale
      cases hsale
  case h_3 charge n hnumber =>
    cases hm
    refine fileMove_cases hnumber (hother nofun) fun sale db' h => ?_
    rw [hseries]
    exact insertNumbered_files hissued h
  case h_4 _ hnot _ =>
    obtain ⟨m₀, -, hm⟩ := Option.bind_eq_some_iff.1 hm
    refine .quiet (within_ok hm fun _ => hok) fun h => ?_
    obtain ⟨hl, hq, hnumber, -⟩ := (replays_iff hcreation).1 h
    obtain ⟨n, hn⟩ := Option.isSome_iff_exists.1 hnumber
    rw [hq] at hstage
    rcases hstage with hstage | ⟨hstage, -⟩
    · exact hnot n (Label.sale.inj hl) (Stage.sale.inj hstage).symm hn
    · cases hstage

theorem not_replays (h : ∀ c, creation i ≠ .sale c) : ¬ Replays creation db i l p := by
  unfold Replays
  split
  · rename_i c _ hc _ _
    exact absurd hc (h c)
  · exact id

theorem paymentMove_cases {c : CreateRace.Call} {l' : CreateRace.Label} {q : CreateRace.Phase} (hcreation : creation i = .payment c) (hok : PhaseOk creation held db i p)
    (hm : paymentMove c p.number l' q db = some m) : MoveCase creation held db i l p m := by
  have hseries : (creation i).series = (Creation.payment c).series := by rw [hcreation]
  have hreplay : ¬ Replays creation db i l p := not_replays fun _ h => by
    rw [hcreation] at h
    cases h
  unfold paymentMove at hm
  split at hm
  case h_1 =>
    cases hm
    exact .quiet (draw_ok hseries _) hreplay
  case h_2 n hnumber =>
    cases hm
    refine fileMove_cases hnumber hreplay fun payment db' h => ?_
    rw [hseries]
    exact payNumbered_files h
  case h_3 =>
    obtain ⟨m₀, -, hm⟩ := Option.bind_eq_some_iff.1 hm
    exact .quiet (within_ok hm fun _ => hok) hreplay

theorem receiptMove_cases {c : ReceiptRace.Call} {l' : LineLabel} {q : ReceiptRace.Phase}
    (hcreation : creation i = .goodsReceipt c) (hok : PhaseOk creation held db i p)
    (hm : receiptMove c p.number l' q db = some m) : MoveCase creation held db i l p m := by
  have hseries : (creation i).series = (Creation.goodsReceipt c).series := by rw [hcreation]
  have hreplay : ¬ Replays creation db i l p := not_replays fun _ h => by
    rw [hcreation] at h
    cases h
  unfold receiptMove at hm
  split at hm
  case h_1 snapshot rows n hnumber =>
    cases hm
    refine fileMove_cases hnumber hreplay fun receipt db' h => ?_
    rw [hseries]
    exact receiveNumbered_files h
  case h_2 => cases hm
  case h_3 => cases hm
  case h_4 =>
    obtain ⟨m₀, -, hm⟩ := Option.bind_eq_some_iff.1 hm
    exact .quiet (within_ok hm fun _ => hok) hreplay

/-- What the moves can be. -/
theorem protocol_cases (hissued : Issued db) (hok : PhaseOk creation held db i p)
    (hm : protocol creation i l p db = some m) : MoveCase creation held db i l p m := by
  unfold protocol at hm
  split at hm
  case h_1 c l hcreation hstage => exact saleMove_cases hcreation (.inr ⟨hstage, rfl⟩) hissued hok hm
  case h_2 c l q hcreation hstage => exact saleMove_cases hcreation (.inl hstage) hissued hok hm
  case h_3 c l hcreation hstage => exact paymentMove_cases hcreation hok hm
  case h_4 c l q hcreation hstage => exact paymentMove_cases hcreation hok hm
  case h_5 c l hcreation hstage => exact receiptMove_cases hcreation hok hm
  case h_6 c l q hcreation hstage => exact receiptMove_cases hcreation hok hm
  case h_7 c q hcreation hstage =>
    have hseries : (creation i).series = (Creation.goodsReceipt c).series := by rw [hcreation]
    unfold receiptNumberMove at hm
    split at hm
    · cases hm
      refine .quiet (draw_ok hseries _) (not_replays fun _ h => ?_)
      rw [hcreation] at h
      cases h
    · cases hm
  case h_8 =>
    split at hm
    · refine .quiet ?_ ?_
      · unfold collideMove at hm
        dsimp only at hm
        split at hm
        all_goals first | cases hm; exact leave_ok _ | cases hm
      · unfold Replays
        split
        · rename_i hlabel _ _
          cases hlabel
        · exact id
    · cases hm
  case h_9 => cases hm

/-! ## Runs -/

theorem not_numbered_counted {s : Series} (h : Numbered db) :
    ¬ Numbered (counted s (next db s) db) := by
  intro hcounted
  obtain ⟨hgapless, -⟩ := hcounted s
  rw [lastSequence_counted, if_pos rfl] at hgapless
  exact (h s).1.not_skip hgapless

theorem sound_filed {s : Series} (h : Sound db)
    (hfiled : Filed (s.filing (s.write (next db s))) (counted s (next db s) db) db') : Sound db' where
  numbered := h.numbered.file (fun s' => lastSequence_counted s s' _ db) (fun _ => rfl) hfiled
  issued := hfiled.issued h.issued

/-- The commits decide: a document is filed under the next number, or a replay leaves
a gap. -/
theorem commitLaw (creation : ℕ → Creation) :
    CommitLaw (protocol creation) Sound (PhaseOk creation) Stands Numbered (NoReplay creation) where
  good h := h.numbered
  mono h hstands := h.mono hstands
  weaken h hheld := fun s hs => h s (hheld _ hs)
  quiet := by
    intro s i l m hI hm hquiet
    cases protocol_cases hI.db.issued (hI.phase i) hm with
    | quiet hok hreplay => exact ⟨hok, hreplay⟩
    | replayed _ _ => exact absurd rfl (hquiet _ _)
    | filed _ _ _ => exact absurd rfl (hquiet _ _)
  commit := by
    intro s i l db' q hI hm
    cases protocol_cases hI.db.issued (hI.phase i) hm with
    | quiet hok _ => exact hok.1.elim
    | replayed hnumber hreplay =>
      obtain ⟨-, rfl⟩ := hI.phase i _ hnumber
      have hnot := not_numbered_counted (s := (creation i).series) hI.db.numbered
      exact ⟨iff_of_false hnot fun hno => hno hreplay, fun h => absurd h hnot⟩
    | filed hnumber hreplay hfiled =>
      obtain ⟨hheld, rfl⟩ := hI.phase i _ hnumber
      have hsound := sound_filed hI.db hfiled
      refine ⟨iff_of_true hsound.numbered hreplay, fun _ => ⟨⟨hsound, fun _ h => nomatch h⟩, ?_⟩⟩
      intro s' hs'
      have hne : s' ≠ (creation i).series := by
        rintro rfl
        exact hs' hheld
      rw [hfiled.counters, lastSequence_counted, if_neg hne]

/-- When numbers are gapless. However many sales, payments and goods receipts are
created side by side, under every counter row the committed documents have the numbers 1
to `lastSequence`, each once and in the order of the commits, in every state of a run
exactly when no sale that has drawn its number finds that it was created already. The
numbers of a series are written differently, however large they are. -/
theorem numbers_gapless_iff (creation : ℕ → Creation) {db : Db} (hnumbered : Numbered db)
    (hissued : Issued db) {ls : List (ℕ × Label)} {s : Shared Db Lock Phase}
    (hrun : (machine creation).Run (.start db ⟨none, .called⟩) ls s) :
    ((∀ ks, ks <+: ls → ∀ s₁, (machine creation).Run (.start db ⟨none, .called⟩) ks s₁ →
        Numbered s₁.db) ↔
      (machine creation).RunWith (NoReplay creation) (.start db ⟨none, .called⟩) ls s) ∧
      ∀ series : Series, Function.Injective series.write := by
  have hstart : (Shared.start db ⟨none, .called⟩ : Shared Db Lock Phase).Inv Sound
      (PhaseOk creation) := Shared.inv_start ⟨hnumbered, hissued⟩ fun _ _ _ h => nomatch h
  exact ⟨(commitLaw creation).run_iff hstart hrun, Series.write_injective⟩

/-! A sale of one piece at 100.00, asked for twice under one key, and its payment. -/

namespace NumberDemo

def now : Instant := { date := ⟨2026, 3, 1⟩, millis := 0 }

def shop : Db where
  master :=
    { companies := .ofRows [PayablesDemo.company]
      customers := .ofRows
        [{ id := 30, companyId := 10, customerCode := "C-1", receivableAccountId := some 33,
           status := .Active }]
      paymentMethods := .ofRows [PayablesDemo.bankTransfer]
      accounts := .ofRows [PayablesDemo.bank, CreateRace.ReceiptDemo.receivable]
      productVariants := .ofRows [{ id := 7, companyId := 10, status := .Active }]
      priceLists := .ofRows [{ id := 40, companyId := 10, status := .Active }]
      priceListItems :=
        [{ companyId := 10, priceListId := 40, productVariantId := 7, uomId := none,
           price := 10000, validFrom := ⟨⟨2026, 1, 1⟩, 0⟩, validTo := none, status := .Active }] }
  sequences := { nextId := 100 }

def sale : PromotionRace.Call :=
  { PromotionRace.PromotionDemo.call with
    dto := { PromotionRace.PromotionDemo.call.dto with promotionCode := none }
    creation := some { key := "K-1", hash := "H-1" } }

def payment : CreateRace.Call where
  companyId := 10
  userId := 99
  now := now
  dto := { CreateRace.ReceiptDemo.dto 10000 with customerId := some 30 }
  idempotencyKeyHeader := none

def creations (i : ℕ) : Creation := if i = 0 then .payment payment else .sale sale

def draw (i : ℕ) : List (ℕ × Label) :=
  [(i, .sale .lookup), (i, .sale .validate), (i, .sale .number)]

def sell (i : ℕ) : List (ℕ × Label) :=
  [(i, .sale .replay), (i, .sale .lock), (i, .sale .charge), (i, .sale .insert), (i, .sale .commit)]

def pay : List (ℕ × Label) :=
  [(0, .payment .lookup), (0, .payment .validate), (0, .payment .begin), (0, .payment .lock),
    (0, .payment .apply), (0, .payment .insert), (0, .payment .commit)]

theorem numbered : Numbered shop := by
  intro s
  have hnumbers : numbersOf shop s = [] := by
    cases s with
    | mk kind companyId year => cases kind <;> rfl
  rw [hnumbers]
  exact ⟨rfl, List.nodup_nil⟩

theorem issued : Issued shop := fun _ hsale => absurd hsale List.not_mem_nil

end NumberDemo

open NumberDemo in
theorem numbers_gapless_iff_given_back :
    ∃ s, (machine creations).Run (.start shop ⟨none, .called⟩)
        ([(2, .sale .lookup), (2, .sale .validate)] ++ draw 1 ++ sell 1 ++ pay ++
          [(2, .sale .number), (2, .sale .abort)]) s ∧
      Numbered s.db ∧ (documentsOf s.db .sale).map (·.number) = ["SAL-2026-000001"] ∧
      (documentsOf s.db .payment).map (·.number) = ["PMT-2026-000001"] := by
  obtain ⟨s, hrun, hs⟩ := Machine.exists_runWith (machine creations) (NoReplay creations)
    (.start shop ⟨none, .called⟩)
    ([(2, .sale .lookup), (2, .sale .validate)] ++ draw 1 ++ sell 1 ++ pay ++
      [(2, .sale .number), (2, .sale .abort)])
    (fun s => (documentsOf s.db .sale).map (·.number) = ["SAL-2026-000001"] ∧
      (documentsOf s.db .payment).map (·.number) = ["PMT-2026-000001"]) (by decide +kernel)
  obtain ⟨hiff, -⟩ := numbers_gapless_iff creations numbered issued hrun.run
  exact ⟨s, hrun.run, hiff.2 hrun _ (List.prefix_refl _) s hrun.run, of_decide_eq_true hs⟩

open NumberDemo in
/-- Two sales of one key look it up before either is there. The second draws number 2,
finds the first, and commits: number 2 is gone. -/
theorem replay_leaves_gap :
    ∃ s, (machine creations).Run (.start shop ⟨none, .called⟩)
        ([(2, .sale .lookup), (2, .sale .validate)] ++ draw 1 ++ sell 1 ++
          [(2, .sale .number), (2, .sale .replay)]) s ∧
      (documentsOf s.db .sale).map (·.number) = ["SAL-2026-000001"] ∧
      lastSequence s.db ⟨.sale, 10, 2026⟩ = 2 ∧ ¬ Numbered s.db := by
  obtain ⟨s, hrun, hs⟩ := Machine.exists_runWith (machine creations) (fun _ _ => True)
    (.start shop ⟨none, .called⟩)
    ([(2, .sale .lookup), (2, .sale .validate)] ++ draw 1 ++ sell 1 ++
      [(2, .sale .number), (2, .sale .replay)])
    (fun s => (documentsOf s.db .sale).map (·.number) = ["SAL-2026-000001"] ∧
      lastSequence s.db ⟨.sale, 10, 2026⟩ = 2 ∧ (numbersOf s.db ⟨.sale, 10, 2026⟩).length = 1)
    (by decide +kernel)
  obtain ⟨hdocuments, hlast, hlength⟩ := of_decide_eq_true hs
  refine ⟨s, hrun, hdocuments, hlast, fun hnumbered => ?_⟩
  have hgapless := (hnumbered ⟨.sale, 10, 2026⟩).1.length
  rw [hlast, hlength] at hgapless
  exact absurd hgapless (by decide)

end FashionErp.NumberRace
