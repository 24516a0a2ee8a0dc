/-
`outbox/services/outbox.service.ts`, `outbox/outbox-topic-resolver.ts` and
`outbox/utils/backoff.ts`: the row an event is written as, where it is published to,
and how long a failed attempt waits for the next one.

`OutboxService.create` writes through the transaction it is called in, so the row
and whatever it announces commit together (`create_spec`).
-/
import FashionErp.Core.Db
import Mathlib.Algebra.Order.Monoid.WithTop
import Mathlib.Order.Lattice.Nat

namespace FashionErp

open Lib Lib.Tx

def EVENT_SOURCE : String := "fashion-erp-api"

def DEFAULT_EVENT_VERSION : ℕ := 1

def PAYMENT_CONFIRMED_EVENT_TYPE : String := "payment.confirmed"

def PAYMENT_CONFIRMED_EVENT_VERSION : ℕ := 1

def PAYMENT_AGGREGATE_TYPE : String := "Payment"

def PAYMENT_EVENTS_TOPIC : String := "erp.payment.events"

/-- `resolveTopicForEventType`; `none` is the error for a type nobody registered. -/
def resolveTopicForEventType (eventType : String) : Option String :=
  if eventType = "payment.confirmed" then some PAYMENT_EVENTS_TOPIC else none

/-! ## The envelope -/

structure EventEnvelope where
  eventId : Uuid
  eventType : String
  eventVersion : ℕ
  occurredAt : Instant
  aggregateType : String
  aggregateId : Uuid
  companyId : Uuid
  branchId : Option Uuid
  source : String
  payload : PaymentConfirmedEventPayload

def OutboxEvent.toEnvelope (event : OutboxEvent) : EventEnvelope where
  eventId := event.eventId
  eventType := event.eventType
  eventVersion := event.eventVersion
  occurredAt := event.occurredAt
  aggregateType := event.aggregateType
  aggregateId := event.aggregateId
  companyId := event.companyId
  branchId := event.branchId
  source := event.source
  payload := event.payload

/-! ## Backoff -/

def MAX_BACKOFF_MS : ℕ := 5 * 60 * 1000

def BASE_BACKOFF_MS : ℕ := 1000

/-- A number of this size or more is `Infinity`. -/
@[irreducible] def INFINITE : ℕ := 2 ^ 1024

/-- `BASE_BACKOFF_MS * 2 ** (attemptCount - 1)`. -/
def exponential (attemptCount : ℕ) : WithTop ℕ :=
  let delay := BASE_BACKOFF_MS * 2 ^ (attemptCount - 1)
  if delay < INFINITE then delay else ⊤

def computeBackoffMs (attemptCount : ℕ) : WithTop ℕ :=
  if attemptCount = 0 then 0 else min (exponential attemptCount) MAX_BACKOFF_MS

theorem computeBackoffMs_le (attemptCount : ℕ) : computeBackoffMs attemptCount ≤ MAX_BACKOFF_MS := by
  unfold computeBackoffMs
  split
  · exact WithTop.coe_le_coe.2 (Nat.zero_le _)
  · exact inf_le_right

/-- `new Date(now + delay)`, an invalid date if the delay is infinite. -/
def EpochMillis.addDelay (now : EpochMillis) (delay : WithTop ℕ) : EpochMillis :=
  now + delay.map Int.ofNat

theorem addDelay_ne_top {now : EpochMillis} {delay : WithTop ℕ} (hnow : now ≠ ⊤)
    (hdelay : delay ≠ ⊤) : EpochMillis.addDelay now delay ≠ ⊤ := by
  lift delay to ℕ using hdelay
  exact WithTop.add_ne_top.2 ⟨hnow, WithTop.coe_ne_top⟩

theorem nextAttempt_ne_top {now : EpochMillis} (hnow : now ≠ ⊤) (attemptCount : ℕ) :
    EpochMillis.addDelay now (computeBackoffMs attemptCount) ≠ ⊤ := by
  apply addDelay_ne_top hnow
  exact ne_top_of_le_ne_top WithTop.coe_ne_top (computeBackoffMs_le attemptCount)

theorem getTime_ne_top (t : Instant) : t.getTime ≠ ⊤ := WithTop.coe_ne_top

/-! ## `OutboxService` -/

structure CreateOutboxEventInput where
  eventType : String
  eventVersion : Option ℕ
  aggregateType : String
  aggregateId : Uuid
  companyId : Uuid
  branchId : Option Uuid
  payload : PaymentConfirmedEventPayload

namespace OutboxService

def newOutboxEvent (id eventId : Uuid) (now : Instant) (event : CreateOutboxEventInput) :
    OutboxEvent where
  id := id
  eventId := eventId
  eventType := event.eventType
  eventVersion := event.eventVersion.getD DEFAULT_EVENT_VERSION
  aggregateType := event.aggregateType
  aggregateId := event.aggregateId
  companyId := event.companyId
  branchId := event.branchId
  source := EVENT_SOURCE
  occurredAt := now
  payload := event.payload
  status := .Pending
  attemptCount := 0
  availableAt := now.getTime
  publishedAt := none

/-- Insert a row, past the primary key and the unique index on `event_id`. -/
def insertOutboxEvent (row : OutboxEvent) : DbTx Unit := do
  let db ← get
  rejectIf (db.paying.outboxEvents.find? row.id).isSome (.duplicateEntry "PRIMARY")
  rejectIf (db.paying.outboxEvents.rows.any fun e => e.eventId = row.eventId)
    (.duplicateEntry "outbox_events.event_id")
  set { db with paying := { db.paying with
    outboxEvents := db.paying.outboxEvents.save row } }

def create (now : Instant) (event : CreateOutboxEventInput) : DbTx OutboxEvent := do
  let eventId ← randomUUID
  let id ← randomUUID
  let row := newOutboxEvent id eventId now event
  insertOutboxEvent row
  return row

/-- `row` is new in `db'`, the row of `event`, and nothing else is. -/
structure Announces (now : Instant) (event : CreateOutboxEventInput) (db : Db) (row : OutboxEvent)
    (db' : Db) : Prop where
  row_eq : ∃ id eventId, row = newOutboxEvent id eventId now event
  fresh : db.paying.outboxEvents.find? row.id = none
  freshEvent : ∀ e ∈ db.paying.outboxEvents.rows, e.eventId ≠ row.eventId
  db_eq : db' = { db with
    paying := { db.paying with outboxEvents := db.paying.outboxEvents.save row }
    sequences := db'.sequences }

theorem create_spec {now : Instant} {event : CreateOutboxEventInput} {db db' : Db}
    {row : OutboxEvent} (h : Commits (create now event) db row db') :
    Announces now event db row db' := by
  simp only [create, insertOutboxEvent, commits_bind, commits_get, commits_rejectIf, commits_set,
    commits_pure, Bool.not_eq_true, Option.isSome_eq_false_iff, Option.isNone_iff_eq_none,
    List.any_eq_false, decide_eq_true_eq] at h
  obtain ⟨eventId, db₁, hevent, id, db₂, hid, _, _, ⟨_, _, ⟨rfl, rfl⟩, _, _, ⟨hfresh, rfl⟩, _, _,
    ⟨hfreshEvent, rfl⟩, rfl⟩, rfl, rfl⟩ := h
  have hseq : db₂ = { db with sequences := db₂.sequences } := by
    obtain ⟨h₁, -⟩ := randomUUID_spec hevent
    obtain ⟨h₂, -⟩ := randomUUID_spec hid
    rw [h₂, h₁]
  have hpaying : db₂.paying = db.paying := by rw [hseq]
  rw [hpaying] at hfresh hfreshEvent
  refine ⟨⟨id, eventId, rfl⟩, hfresh, hfreshEvent, ?_⟩
  rw [hseq]

end OutboxService

end FashionErp
