/-
`outbox/services/outbox-publisher.service.ts`: any number of publisher processes
beside the calls that create payments.

A tick claims a batch in a short transaction, which locks its rows until it commits
and changes nothing; then it publishes one event after the other, outside any
transaction, and records each outcome by an update of the row.
-/
import FashionErp.Payments.CreateRace
import Mathlib.Data.Fintype.Basic

namespace FashionErp

open Lib Lib.Tx

namespace OutboxPublisherService

structure KafkaPublishRequest where
  topic : String
  key : Uuid
  value : EventEnvelope
  xEventId : Uuid
  xEventType : String

/-- What `publishOne` sends; `none` is the error for a type without a topic. -/
def publishRequest (event : OutboxEvent) : Option KafkaPublishRequest :=
  (resolveTopicForEventType event.eventType).map fun topic =>
    { topic := topic, key := event.aggregateId, value := event.toEnvelope,
      xEventId := event.eventId, xEventType := event.eventType }

/-- The row may be claimed at `now`. -/
def Claimable (now : Instant) (event : OutboxEvent) : Prop :=
  (event.status = .Pending ∨ event.status = .Failed) ∧ event.availableAt ≤ now.getTime

instance (now : Instant) (event : OutboxEvent) : Decidable (Claimable now event) :=
  inferInstanceAs (Decidable (_ ∧ _))

/-- The query of `claimBatch`, over the rows in the order the server comes upon them;
`locked` are the rows of other open transactions. -/
def claimBatch (batchSize : ℕ) (now : Instant) (locked : Uuid → Prop) [DecidablePred locked]
    (scan : List OutboxEvent) : List OutboxEvent :=
  ((scan.filter fun event => Claimable now event ∧ ¬ locked event.id).insertionSort
    fun a b => a.availableAt ≤ b.availableAt).take batchSize

/-- What `markPublished` writes. -/
def setPublished (now : Instant) (row : OutboxEvent) : OutboxEvent :=
  { row with status := .Published, publishedAt := some now }

/-- What `markFailed` writes; the attempts are those of the event as it was claimed. -/
def setFailed (now : Instant) (event row : OutboxEvent) : OutboxEvent :=
  { row with
    status := .Failed
    attemptCount := event.attemptCount + 1
    availableAt := EpochMillis.addDelay now.getTime (computeBackoffMs (event.attemptCount + 1)) }

/-- `update(id, ..)`. -/
def updateEvent (id : Uuid) (change : OutboxEvent → OutboxEvent) (db : Db) : Db :=
  match db.paying.outboxEvents.find? id with
  | none => db
  | some row =>
    { db with paying := { db.paying with
      outboxEvents := db.paying.outboxEvents.save (change row) } }

/-! ## The processes -/

inductive Publisher
  /-- Not ticking. -/
  | idle
  | claiming (batch : List OutboxEvent)
  | publishing (claimed : List OutboxEvent)
  | acknowledged (event : OutboxEvent) (rest : List OutboxEvent)
  | failed (event : OutboxEvent) (rest : List OutboxEvent)

/-- The loop of `tick` over the events left. -/
def continueTick : List OutboxEvent → Publisher
  | [] => .idle
  | event :: rest => .publishing (event :: rest)

def Publisher.locks : Publisher → List Uuid
  | .claiming batch => batch.map (·.id)
  | _ => []

def Publisher.events : Publisher → List OutboxEvent
  | .idle => []
  | .claiming batch => batch
  | .publishing claimed => claimed
  | .acknowledged event rest => event :: rest
  | .failed event rest => event :: rest

inductive BrokerAnswer
  | accepted
  /-- It is accepted, and the process sees an error. -/
  | unacknowledged
  | refused
  deriving DecidableEq

inductive UpdateOutcome
  | done
  /-- It is done, and the process sees an error. -/
  | unacknowledged
  | lost
  deriving DecidableEq

/-- The committed database, what the broker has accepted, and `n` processes. -/
structure World (n : ℕ) where
  db : Db
  accepted : List KafkaPublishRequest
  publisher : Fin n → Publisher

variable {n : ℕ}

def World.setPublisher (w : World n) (i : Fin n) (p : Publisher) : World n :=
  { w with publisher := Function.update w.publisher i p }

@[simp] theorem World.setPublisher_self (w : World n) (i : Fin n) (p : Publisher) :
    (w.setPublisher i p).publisher i = p := by
  simp [World.setPublisher]

theorem World.setPublisher_ne (w : World n) (i : Fin n) (p : Publisher) {j : Fin n} (hj : j ≠ i) :
    (w.setPublisher i p).publisher j = w.publisher j := by
  simp [World.setPublisher, hj]

/-- The row is locked by a process other than `i`. -/
def World.Locked (w : World n) (i : Fin n) (id : Uuid) : Prop :=
  ∃ j, j ≠ i ∧ id ∈ (w.publisher j).locks

instance (w : World n) (i : Fin n) : DecidablePred (w.Locked i) :=
  fun id => inferInstanceAs (Decidable (∃ j, j ≠ i ∧ id ∈ (w.publisher j).locks))

def World.update (w : World n) (outcome : UpdateOutcome) (id : Uuid)
    (change : OutboxEvent → OutboxEvent) : World n :=
  if outcome = .lost then w else { w with db := updateEvent id change w.db }

inductive Step (n : ℕ)
  | create (companyId userId : Uuid) (now : Instant) (dto : PaymentsService.CreatePaymentDto)
      (idempotencyKeyHeader : Option String)
  /-- Any other request: payments and events stay as they are. -/
  | elsewhere (db : Db)
  | claim (i : Fin n) (now : Instant) (scan : List OutboxEvent)
  | commitClaim (i : Fin n)
  | publish (i : Fin n) (answer : BrokerAnswer)
  | markPublished (i : Fin n) (now : Instant) (outcome : UpdateOutcome)
  | markFailed (i : Fin n) (now : Instant) (outcome : UpdateOutcome)
  /-- The process dies, or its tick is given up for an error of the database. -/
  | crash (i : Fin n)

/-- The database after a call of `create`. -/
def createStep (companyId userId : Uuid) (now : Instant) (dto : PaymentsService.CreatePaymentDto)
    (idempotencyKeyHeader : Option String) (db : Db) : Db :=
  match run (PaymentsService.create companyId userId now dto idempotencyKeyHeader) db with
  | (.ok _, db') => db'
  | (.error _, _) => db

/-- The next event of process `i` is handed to the broker. -/
def World.publish (w : World n) (i : Fin n) (answer : BrokerAnswer) (event : OutboxEvent)
    (rest : List OutboxEvent) : World n :=
  match publishRequest event, answer with
  | some request, .accepted =>
    { w with accepted := w.accepted ++ [request] }.setPublisher i (.acknowledged event rest)
  | some request, .unacknowledged =>
    { w with accepted := w.accepted ++ [request] }.setPublisher i (.failed event rest)
  | _, _ => w.setPublisher i (.failed event rest)

/-- A claim is made by an idle process (`ticking`), the loop goes on from its own
state, and an update waits for a row another transaction has locked. -/
def step (batchSize : ℕ) (w : World n) : Step n → Option (World n)
  | .create companyId userId now dto key =>
    some { w with db := createStep companyId userId now dto key w.db }
  | .elsewhere db => some { w with db := { db with paying := w.db.paying } }
  | .claim i now scan =>
    match w.publisher i with
    | .idle =>
      if scan.Perm w.db.paying.outboxEvents.rows then
        some (w.setPublisher i (.claiming (claimBatch batchSize now (w.Locked i) scan)))
      else
        none
    | _ => none
  | .commitClaim i =>
    match w.publisher i with
    | .claiming batch => some (w.setPublisher i (continueTick batch))
    | _ => none
  | .publish i answer =>
    match w.publisher i with
    | .publishing (event :: rest) => some (w.publish i answer event rest)
    | _ => none
  | .markPublished i now outcome =>
    match w.publisher i with
    | .acknowledged event rest =>
      if outcome ≠ .lost ∧ w.Locked i event.id then
        none
      else
        some ((w.update outcome event.id (setPublished now)).setPublisher i
          (if outcome = .done then continueTick rest else .failed event rest))
    | _ => none
  | .markFailed i now outcome =>
    match w.publisher i with
    | .failed event rest =>
      if outcome ≠ .lost ∧ w.Locked i event.id then
        none
      else
        some ((w.update outcome event.id (setFailed now event)).setPublisher i
          (if outcome = .done then continueTick rest else .idle))
    | _ => none
  | .crash i => some (w.setPublisher i .idle)

/-- Every interleaving of calls and ticks; `batchSize` is `OUTBOX_BATCH_SIZE`. -/
def machine (n batchSize : ℕ) : Machine (World n) (Step n) := ⟨step batchSize⟩

/-! ## What the steps touch -/

structure Announced (db db' : Db) : Prop where
  entry : ∃ payment event now id eventId,
    event = OutboxService.newOutboxEvent id eventId now (PaymentsService.confirmedEvent payment) ∧
      db.paying.payments.find? payment.id = none ∧
      db'.paying.payments = db.paying.payments.save payment ∧
      db.paying.outboxEvents.find? event.id = none ∧
      (∀ e ∈ db.paying.outboxEvents.rows, e.eventId ≠ event.eventId) ∧
      db'.paying.outboxEvents = db.paying.outboxEvents.save event

theorem runCreate_announced {companyId userId : Uuid} {now paymentDate : Instant}
    {key : Option String} {dto : PaymentsService.CreatePaymentDto} {db db' : Db}
    {payment : Payment}
    (h : Commits (PaymentsService.runCreate companyId userId now paymentDate key dto) db payment
      db') : Announced db db' := by
  obtain ⟨number, id, db₁, db₂, db₃, db₄, hseq₁, hloop, hseq₃, -, hfresh, -, hpost, event,
    hevent⟩ := PaymentsService.runCreate_spec h
  have hdocs := PaymentsService.applyTargets_documents hloop
  obtain ⟨hledger, -⟩ := PaymentsService.postToLedger_touches hpost
  have hpaying₃ : db₃.paying = db.paying := by rw [hseq₃, hdocs, hseq₁]
  have hpayments : db₄.paying.payments = db.paying.payments.save payment := by
    rw [hledger, ← hpaying₃]
  have hevents : db₄.paying.outboxEvents = db.paying.outboxEvents := by
    rw [hledger, ← hpaying₃]
  obtain ⟨⟨eventRow, eventId, hrow⟩, hfreshRow, hfreshEvent, hdb'⟩ := hevent
  rw [hevents] at hfreshRow hfreshEvent
  refine ⟨payment, event, now, eventRow, eventId, hrow, ?_, ?_, hfreshRow, hfreshEvent, ?_⟩
  · rw [← hpaying₃]
    exact hfresh
  · rw [hdb', ← hpayments]
  · rw [hdb', ← hevents]

theorem createStep_cases (companyId userId : Uuid) (now : Instant)
    (dto : PaymentsService.CreatePaymentDto) (key : Option String) (db : Db) :
    createStep companyId userId now dto key db = db ∨
      Announced db (createStep companyId userId now dto key db) := by
  unfold createStep
  rcases run_cases (PaymentsService.create companyId userId now dto key) db with
    ⟨result, db', hc, hrun⟩ | ⟨error, -, hrun⟩
  · rw [hrun]
    rcases PaymentsService.create_cases hc with ⟨-, rfl⟩ | ⟨-, -, hcreate⟩
    · exact .inl rfl
    · exact .inr (runCreate_announced hcreate)
  · rw [hrun]
    exact .inl rfl

/-- The changes `markPublished` and `markFailed` make. -/
structure KeepsEnvelope (change : OutboxEvent → OutboxEvent) : Prop where
  id : ∀ row, (change row).id = row.id
  toEnvelope : ∀ row, (change row).toEnvelope = row.toEnvelope

theorem setPublished_keeps (now : Instant) : KeepsEnvelope (setPublished now) :=
  ⟨fun _ => rfl, fun _ => rfl⟩

theorem setFailed_keeps (now : Instant) (event : OutboxEvent) :
    KeepsEnvelope (setFailed now event) :=
  ⟨fun _ => rfl, fun _ => rfl⟩

variable {change : OutboxEvent → OutboxEvent} {w : World n}

theorem updateEvent_rows (hkeeps : KeepsEnvelope change) (id : Uuid) (db : Db) :
    (updateEvent id change db).paying.outboxEvents.rows =
      db.paying.outboxEvents.rows.map fun e => if e.id = id then change e else e := by
  unfold updateEvent
  cases hrow : db.paying.outboxEvents.find? id with
  | none =>
    have hnone := Table.find?_eq_none.1 hrow
    refine ((List.map_congr_left fun e he => if_neg ?_).trans (List.map_id _)).symm
    exact hnone e he
  | some row =>
    have hid : row.id = id := Table.key_of_find? hrow
    have hkey : (change row).id = id := (hkeeps.id row).trans hid
    have hfound : db.paying.outboxEvents.find? (key (change row)) = some row := by
      rw [← hrow]
      exact congrArg _ hkey
    show (db.paying.outboxEvents.save (change row)).rows = _
    rw [Table.rows_save_over hfound]
    refine List.map_congr_left fun e he => ?_
    show (if e.id = (change row).id then change row else e) = _
    rw [hkey]
    split
    · rename_i he'
      rw [Table.eq_of_key he (Table.mem_of_find? hrow) (he'.trans hid.symm)]
    · rfl

theorem updateEvent_payments (id : Uuid) (change : OutboxEvent → OutboxEvent) (db : Db) :
    (updateEvent id change db).paying.payments = db.paying.payments := by
  unfold updateEvent
  split <;> rfl

/-! ## No event is lost -/

/-- The row of the `payment.confirmed` event of a payment. -/
def Confirms (event : OutboxEvent) (payment : Payment) : Prop :=
  event.eventType = PAYMENT_CONFIRMED_EVENT_TYPE ∧
    event.aggregateType = PAYMENT_AGGREGATE_TYPE ∧ event.aggregateId = payment.id

def World.Accepted (w : World n) (event : OutboxEvent) : Prop :=
  ∃ request ∈ w.accepted, request.value = event.toEnvelope

def Retryable (event : OutboxEvent) : Prop :=
  (event.status = .Pending ∨ event.status = .Failed) ∧ event.availableAt ≠ ⊤

/-- Nothing is lost: every payment has one event, every event is of a payment, and
is still to be published or has been accepted. -/
structure NothingLost (w : World n) : Prop where
  announced : ∀ payment ∈ w.db.paying.payments.rows,
    ∃! event, event ∈ w.db.paying.outboxEvents.rows ∧ Confirms event payment
  committed : ∀ event ∈ w.db.paying.outboxEvents.rows,
    ∃ payment ∈ w.db.paying.payments.rows, Confirms event payment
  delivered : ∀ event ∈ w.db.paying.outboxEvents.rows, Retryable event ∨ w.Accepted event

def HasRow (db : Db) (event : OutboxEvent) : Prop :=
  ∃ row ∈ db.paying.outboxEvents.rows, row.id = event.id ∧ row.toEnvelope = event.toEnvelope

/-- What `acknowledged` promises. -/
def World.Promised (w : World n) : Publisher → Prop
  | .acknowledged event _ => w.Accepted event
  | _ => True

/-- The invariant. -/
structure OutboxInv (w : World n) : Prop where
  announced : ∀ payment ∈ w.db.paying.payments.rows,
    ∃ event ∈ w.db.paying.outboxEvents.rows, Confirms event payment
  once : ∀ e ∈ w.db.paying.outboxEvents.rows, ∀ e' ∈ w.db.paying.outboxEvents.rows,
    e.aggregateId = e'.aggregateId → e.id = e'.id
  committed : ∀ event ∈ w.db.paying.outboxEvents.rows,
    ∃ payment ∈ w.db.paying.payments.rows, Confirms event payment
  available : ∀ event ∈ w.db.paying.outboxEvents.rows, event.availableAt ≠ ⊤
  published : ∀ event ∈ w.db.paying.outboxEvents.rows,
    event.status = .Published → w.Accepted event
  claimed : ∀ i, ∀ event ∈ (w.publisher i).events, HasRow w.db event
  promised : ∀ i, w.Promised (w.publisher i)

theorem OutboxInv.nothingLost (h : OutboxInv w) : NothingLost w := by
  refine ⟨fun payment hp => ?_, h.committed, fun event he => ?_⟩
  · obtain ⟨event, he, hconfirms⟩ := h.announced payment hp
    refine ⟨event, ⟨he, hconfirms⟩, fun e' ⟨he', hconfirms'⟩ => ?_⟩
    exact Table.eq_of_key he' he (h.once e' he' event he (hconfirms'.2.2.trans hconfirms.2.2.symm))
  · cases hstatus : event.status with
    | Published => exact .inr (h.published event he hstatus)
    | Pending => exact .inl ⟨.inl hstatus, h.available event he⟩
    | Failed => exact .inl ⟨.inr hstatus, h.available event he⟩

theorem OutboxInv.setPublisher (h : OutboxInv w) (i : Fin n) {p : Publisher}
    (hclaimed : ∀ event ∈ p.events, HasRow w.db event) (hpromised : w.Promised p) :
    OutboxInv (w.setPublisher i p) := by
  refine ⟨h.announced, h.once, h.committed, h.available, h.published, fun j => ?_, fun j => ?_⟩
  · by_cases hj : j = i
    · rw [hj, w.setPublisher_self]
      exact hclaimed
    · rw [w.setPublisher_ne i p hj]
      exact h.claimed j
  · by_cases hj : j = i
    · rw [hj, w.setPublisher_self]
      exact hpromised
    · rw [w.setPublisher_ne i p hj]
      exact h.promised j

theorem World.Promised.mono {w' : World n} (hsub : ∀ r ∈ w.accepted, r ∈ w'.accepted)
    {p : Publisher} (h : w.Promised p) : w'.Promised p := by
  cases p with
  | acknowledged event rest =>
    obtain ⟨r, hr, hvalue⟩ := h
    exact ⟨r, hsub r hr, hvalue⟩
  | _ => trivial

theorem OutboxInv.accept (h : OutboxInv w) (request : KafkaPublishRequest) :
    OutboxInv { w with accepted := w.accepted ++ [request] } := by
  have hsub : ∀ r ∈ w.accepted, r ∈ w.accepted ++ [request] :=
    fun r hr => List.mem_append_left _ hr
  refine ⟨h.announced, h.once, h.committed, h.available, fun event he hstatus => ?_, h.claimed,
    fun j => World.Promised.mono hsub (h.promised j)⟩
  obtain ⟨r, hr, hvalue⟩ := h.published event he hstatus
  exact ⟨r, hsub r hr, hvalue⟩

theorem continueTick_events (claimed : List OutboxEvent) : (continueTick claimed).events = claimed := by
  cases claimed <;> rfl

theorem continueTick_promised (w : World n) (claimed : List OutboxEvent) :
    w.Promised (continueTick claimed) := by
  cases claimed <;> trivial

theorem mem_of_mem_claimBatch {batchSize : ℕ} {now : Instant} {locked : Uuid → Prop}
    [DecidablePred locked] {scan : List OutboxEvent} {event : OutboxEvent}
    (h : event ∈ claimBatch batchSize now locked scan) :
    event ∈ scan ∧ Claimable now event ∧ ¬ locked event.id := by
  have hmem := List.mem_of_mem_take h
  rw [List.mem_insertionSort, List.mem_filter, decide_eq_true_eq] at hmem
  exact hmem

theorem OutboxInv.updateEvent (h : OutboxInv w) {id : Uuid} (hkeeps : KeepsEnvelope change)
    (havailable : ∀ row, row.availableAt ≠ ⊤ → (change row).availableAt ≠ ⊤)
    (hpublished : ∀ row ∈ w.db.paying.outboxEvents.rows, row.id = id → (change row).status = .Published → w.Accepted row) :
    OutboxInv { w with db := updateEvent id change w.db } := by
  have hrows := updateEvent_rows hkeeps id w.db
  have hpayments := updateEvent_payments id change w.db
  -- Row by row: the same id and the same envelope.
  have hback : ∀ e ∈ (OutboxPublisherService.updateEvent id change w.db).paying.outboxEvents.rows,
      ∃ e₀ ∈ w.db.paying.outboxEvents.rows,
        e = (if e₀.id = id then change e₀ else e₀) ∧ e₀.id = e.id ∧ e₀.toEnvelope = e.toEnvelope := by
    intro e he
    rw [hrows, List.mem_map] at he
    obtain ⟨e₀, he₀, rfl⟩ := he
    refine ⟨e₀, he₀, rfl, ?_, ?_⟩
    · split
      · exact (hkeeps.id e₀).symm
      · rfl
    · split
      · exact (hkeeps.toEnvelope e₀).symm
      · rfl
  have hforth : ∀ e₀ ∈ w.db.paying.outboxEvents.rows,
      ∃ e ∈ (OutboxPublisherService.updateEvent id change w.db).paying.outboxEvents.rows,
        e.id = e₀.id ∧ e.toEnvelope = e₀.toEnvelope := by
    intro e₀ he₀
    refine ⟨if e₀.id = id then change e₀ else e₀, ?_, ?_, ?_⟩
    · rw [hrows]
      exact List.mem_map_of_mem he₀
    · split
      · exact hkeeps.id e₀
      · rfl
    · split
      · exact hkeeps.toEnvelope e₀
      · rfl
  have hconfirms : ∀ {e e₀ : OutboxEvent} {payment : Payment}, e₀.toEnvelope = e.toEnvelope →
      Confirms e₀ payment → Confirms e payment := by
    intro e e₀ payment heq hc
    have htype : e₀.eventType = e.eventType := congrArg EventEnvelope.eventType heq
    have haggregate : e₀.aggregateType = e.aggregateType :=
      congrArg EventEnvelope.aggregateType heq
    have hid : e₀.aggregateId = e.aggregateId := congrArg EventEnvelope.aggregateId heq
    unfold Confirms
    rw [← htype, ← haggregate, ← hid]
    exact hc
  refine ⟨fun payment hp => ?_, fun e he e' he' heq => ?_, fun e he => ?_, fun e he => ?_,
    fun e he hstatus => ?_, fun i event hevent => ?_, h.promised⟩
  · rw [hpayments] at hp
    obtain ⟨e₀, he₀, hc⟩ := h.announced payment hp
    obtain ⟨e, he, -, henv⟩ := hforth e₀ he₀
    exact ⟨e, he, hconfirms henv.symm hc⟩
  · obtain ⟨e₀, he₀, -, hid, henv⟩ := hback e he
    obtain ⟨e₀', he₀', -, hid', henv'⟩ := hback e' he'
    rw [← hid, ← hid']
    apply h.once e₀ he₀ e₀' he₀'
    have ha : e₀.aggregateId = e.aggregateId := congrArg EventEnvelope.aggregateId henv
    have ha' : e₀'.aggregateId = e'.aggregateId := congrArg EventEnvelope.aggregateId henv'
    rw [ha, ha', heq]
  · obtain ⟨e₀, he₀, -, -, henv⟩ := hback e he
    obtain ⟨payment, hp, hc⟩ := h.committed e₀ he₀
    exact ⟨payment, by rw [hpayments]; exact hp, hconfirms henv hc⟩
  · obtain ⟨e₀, he₀, rfl, -⟩ := hback e he
    split
    · exact havailable e₀ (h.available e₀ he₀)
    · exact h.available e₀ he₀
  · obtain ⟨e₀, he₀, heq, -, henv⟩ := hback e he
    have haccepted : w.Accepted e₀ := by
      rw [heq] at hstatus
      split at hstatus
      · exact hpublished e₀ he₀ ‹_› hstatus
      · exact h.published e₀ he₀ hstatus
    obtain ⟨r, hr, hvalue⟩ := haccepted
    exact ⟨r, hr, hvalue.trans henv⟩
  · obtain ⟨row, hrow, hid, henv⟩ := h.claimed i event hevent
    obtain ⟨e, he, hid', henv'⟩ := hforth row hrow
    exact ⟨e, he, hid'.trans hid, henv'.trans henv⟩

theorem OutboxInv.announce (h : OutboxInv w) {db' : Db} (ha : Announced w.db db') :
    OutboxInv { w with db := db' } := by
  obtain ⟨payment, event, now, id, eventId, hevent, hfresh, hpayments, hfreshRow, -, hevents⟩ :=
    ha.entry
  have hconfirms : Confirms event payment := by
    rw [hevent]
    exact ⟨rfl, rfl, rfl⟩
  -- No event is about the new payment yet.
  have hother : ∀ e ∈ w.db.paying.outboxEvents.rows, e.aggregateId ≠ payment.id := by
    intro e he heq
    obtain ⟨p, hp, hc⟩ := h.committed e he
    exact Table.find?_eq_none.1 hfresh p hp (hc.2.2.symm.trans heq)
  have hmem : ∀ e, e ∈ db'.paying.outboxEvents.rows ↔
      e = event ∨ e ∈ w.db.paying.outboxEvents.rows := by
    intro e
    rw [hevents, Table.mem_save]
    refine or_congr_right (and_iff_left_of_imp fun he => ?_)
    exact Table.find?_eq_none.1 hfreshRow e he
  have hkeep : ∀ p ∈ w.db.paying.payments.rows, p ∈ db'.paying.payments.rows := by
    intro p hp
    rw [hpayments]
    exact (Table.mem_save _ _ _).2 (.inr ⟨hp, Table.find?_eq_none.1 hfresh p hp⟩)
  refine ⟨fun p hp => ?_, fun e he e' he' heq => ?_, fun e he => ?_, fun e he => ?_,
    fun e he hstatus => ?_, fun i e he => ?_, h.promised⟩
  · rw [hpayments] at hp
    rcases (Table.mem_save _ _ _).1 hp with rfl | ⟨hp, -⟩
    · exact ⟨event, (hmem event).2 (.inl rfl), hconfirms⟩
    · obtain ⟨e, he, hc⟩ := h.announced p hp
      exact ⟨e, (hmem e).2 (.inr he), hc⟩
  · rcases (hmem e).1 he with rfl | he
    · rcases (hmem e').1 he' with rfl | he'
      · rfl
      · exact absurd (heq.symm.trans hconfirms.2.2) (hother e' he')
    · rcases (hmem e').1 he' with rfl | he'
      · exact absurd (heq.trans hconfirms.2.2) (hother e he)
      · exact h.once e he e' he' heq
  · rcases (hmem e).1 he with rfl | he
    · refine ⟨payment, ?_, hconfirms⟩
      rw [hpayments]
      exact (Table.mem_save _ _ _).2 (.inl rfl)
    · obtain ⟨p, hp, hc⟩ := h.committed e he
      exact ⟨p, hkeep p hp, hc⟩
  · rcases (hmem e).1 he with rfl | he
    · rw [hevent]
      exact getTime_ne_top now
    · exact h.available e he
  · rcases (hmem e).1 he with rfl | he
    · rw [hevent] at hstatus
      cases hstatus
    · exact h.published e he hstatus
  · obtain ⟨row, hrow, hrest⟩ := h.claimed i e he
    exact ⟨row, (hmem row).2 (.inr hrow), hrest⟩

theorem OutboxInv.publish (h : OutboxInv w) (i : Fin n) (answer : BrokerAnswer)
    {event : OutboxEvent} {rest : List OutboxEvent} (hclaimed : ∀ e ∈ event :: rest, HasRow w.db e) :
    OutboxInv (w.publish i answer event rest) := by
  unfold World.publish
  cases hrequest : publishRequest event with
  | none =>
    apply h.setPublisher i
    · exact hclaimed
    · trivial
  | some request =>
    have hvalue : request.value = event.toEnvelope := by
      obtain ⟨topic, -, rfl⟩ := Option.map_eq_some_iff.1 hrequest
      rfl
    cases answer with
    | accepted =>
      apply (h.accept request).setPublisher i
      · exact hclaimed
      · exact ⟨request, List.mem_append_right _ (List.mem_singleton_self request), hvalue⟩
    | unacknowledged =>
      apply (h.accept request).setPublisher i
      · exact hclaimed
      · trivial
    | refused =>
      apply h.setPublisher i
      · exact hclaimed
      · trivial

theorem OutboxInv.update (h : OutboxInv w) (outcome : UpdateOutcome) {id : Uuid}
    (hkeeps : KeepsEnvelope change)
    (havailable : ∀ row, row.availableAt ≠ ⊤ → (change row).availableAt ≠ ⊤)
    (hpublished : ∀ row ∈ w.db.paying.outboxEvents.rows, row.id = id → (change row).status = .Published → w.Accepted row) :
    OutboxInv (w.update outcome id change) := by
  unfold World.update
  split
  · exact h
  · exact h.updateEvent hkeeps havailable hpublished

theorem World.update_accepted (w : World n) (outcome : UpdateOutcome) (id : Uuid)
    (change : OutboxEvent → OutboxEvent) :
    (w.update outcome id change).publisher = w.publisher ∧
      (w.update outcome id change).accepted = w.accepted := by
  unfold World.update
  split <;> exact ⟨rfl, rfl⟩

/-- Every step keeps the invariant. -/
theorem OutboxInv.step {batchSize : ℕ} {w' : World n} {l : Step n} (h : OutboxInv w)
    (hs : step batchSize w l = some w') : OutboxInv w' := by
  cases l with
  | create companyId userId now dto key =>
    cases hs
    rcases createStep_cases companyId userId now dto key w.db with hsame | hannounced
    · rw [hsame]
      exact h
    · exact h.announce hannounced
  | elsewhere db =>
    cases hs
    exact ⟨h.announced, h.once, h.committed, h.available, h.published, h.claimed, h.promised⟩
  | claim i now scan =>
    simp only [OutboxPublisherService.step] at hs
    split at hs
    · split at hs
      · rename_i hperm
        cases hs
        refine h.setPublisher i (fun event he => ?_) trivial
        have hscan := (mem_of_mem_claimBatch he).1
        exact ⟨event, hperm.mem_iff.1 hscan, rfl, rfl⟩
      · cases hs
    · cases hs
  | commitClaim i =>
    simp only [OutboxPublisherService.step] at hs
    split at hs
    · rename_i batch hphase
      cases hs
      refine h.setPublisher i ?_ (continueTick_promised w batch)
      rw [continueTick_events]
      have hclaimed := h.claimed i
      rw [hphase] at hclaimed
      exact hclaimed
    · cases hs
  | publish i answer =>
    simp only [OutboxPublisherService.step] at hs
    split at hs
    · rename_i event rest hphase
      cases hs
      have hclaimed := h.claimed i
      rw [hphase] at hclaimed
      exact h.publish i answer hclaimed
    · cases hs
  | markPublished i now outcome =>
    simp only [OutboxPublisherService.step] at hs
    split at hs
    · rename_i event rest hphase
      split at hs
      · cases hs
      · cases hs
        have hclaimed := h.claimed i
        have hpromised := h.promised i
        rw [hphase] at hclaimed hpromised
        -- The row of the event has its envelope, which the broker has acknowledged.
        have hinv : OutboxInv (w.update outcome event.id (setPublished now)) := by
          refine h.update outcome (setPublished_keeps now) (fun _ havailable => havailable)
            fun row hrow hid _ => ?_
          obtain ⟨row', hrow', hid', henv⟩ := hclaimed event List.mem_cons_self
          obtain rfl := Table.eq_of_key hrow hrow' (hid.trans hid'.symm)
          obtain ⟨r, hr, hvalue⟩ := hpromised
          exact ⟨r, hr, hvalue.trans henv.symm⟩
        have hevents := hinv.claimed i
        rw [(w.update_accepted outcome event.id (setPublished now)).1, hphase] at hevents
        split
        · refine hinv.setPublisher i ?_ (continueTick_promised _ rest)
          rw [continueTick_events]
          exact fun e he => hevents e (List.mem_cons_of_mem event he)
        · exact hinv.setPublisher i hevents trivial
    · cases hs
  | markFailed i now outcome =>
    simp only [OutboxPublisherService.step] at hs
    split at hs
    · rename_i event rest hphase
      split at hs
      · cases hs
      · cases hs
        have hinv : OutboxInv (w.update outcome event.id (setFailed now event)) := by
          refine h.update outcome (setFailed_keeps now event) (fun _ _ => ?_)
            fun row _ _ hstatus => by cases hstatus
          exact nextAttempt_ne_top (getTime_ne_top now) _
        have hevents := hinv.claimed i
        rw [(w.update_accepted outcome event.id (setFailed now event)).1, hphase] at hevents
        split
        · refine hinv.setPublisher i ?_ (continueTick_promised _ rest)
          rw [continueTick_events]
          exact fun e he => hevents e (List.mem_cons_of_mem event he)
        · exact hinv.setPublisher i (fun e he => absurd he List.not_mem_nil) trivial
    · cases hs
  | crash i =>
    cases hs
    exact h.setPublisher i (fun e he => absurd he List.not_mem_nil) trivial

structure BeforeEvents (w : World n) : Prop where
  payments : w.db.paying.payments.rows = []
  events : w.db.paying.outboxEvents.rows = []
  idle : ∀ i, w.publisher i = .idle

theorem BeforeEvents.inv (h : BeforeEvents w) : OutboxInv w := by
  refine ⟨?_, ?_, ?_, ?_, ?_, fun i => ?_, fun i => ?_⟩
  · simp [h.payments]
  · simp [h.events]
  · simp [h.events]
  · simp [h.events]
  · simp [h.events]
  · rw [h.idle i]
    exact fun e he => absurd he List.not_mem_nil
  · rw [h.idle i]
    trivial

/-- No event is lost, whatever commits or rolls back, however the broker answers
and whichever process crashes. -/
theorem outbox_never_loses {batchSize : ℕ} {w₀ w : World n} (h₀ : BeforeEvents w₀)
    (hreaches : (machine n batchSize).Reaches w₀ w) : NothingLost w :=
  (hreaches.invariant h₀.inv fun _ _ _ h hs => h.step hs).nothingLost

/-! A receipt of 60.00 and the processes that publish it. -/

namespace OutboxDemo

def now : Instant := PayablesDemo.now

def later : Instant := { date := ⟨2026, 3, 1⟩, millis := 60000 }

def world (n : ℕ) : World n := ⟨CreateRace.ReceiptDemo.db, [], fun _ => .idle⟩

def receipt : Step n := .create 10 1 now (CreateRace.ReceiptDemo.dto 6000) none

def events : List OutboxEvent :=
  (createStep 10 1 now (CreateRace.ReceiptDemo.dto 6000) none
    CreateRace.ReceiptDemo.db).paying.outboxEvents.rows

end OutboxDemo

/-- A second receipt is rejected, the first process crashes with its message accepted,
and the second one publishes the event again. -/
theorem outbox_never_loses_receipt : ∃ w, (machine 2 50).Reaches (OutboxDemo.world 2) w ∧
    NothingLost w ∧ w.accepted.length = 2 ∧ w.db.paying.payments.rows.length = 1 := by
  obtain ⟨w, hrun, hw⟩ := Machine.exists_runWith (machine 2 50) (fun _ _ => True)
    (OutboxDemo.world 2)
    [OutboxDemo.receipt, OutboxDemo.receipt, .claim 0 OutboxDemo.now OutboxDemo.events,
      .commitClaim 0, .publish 0 .accepted, .crash 0, .claim 1 OutboxDemo.later OutboxDemo.events,
      .commitClaim 1, .publish 1 .unacknowledged, .markFailed 1 OutboxDemo.later .done]
    (fun w => w.accepted.length = 2 ∧ w.db.paying.payments.rows.length = 1) (by decide +kernel)
  have hreaches : (machine 2 50).Reaches (OutboxDemo.world 2) w := ⟨_, hrun⟩
  have hlengths := of_decide_eq_true hw
  exact ⟨w, hreaches, outbox_never_loses ⟨rfl, rfl, fun _ => rfl⟩ hreaches, hlengths⟩

end OutboxPublisherService

end FashionErp
