/-
`notifications/consumers/notification-event.consumer.ts` and
`webhooks/consumers/webhook-dispatch.consumer.ts`: the two consumers of the payment events.

Each makes rows out of an event, one notification, or a delivery for every subscription that
is active and wants the event, and a job for each row.
-/
import FashionErp.Lib.Consumer
import FashionErp.Notifications.Notifications
import FashionErp.Outbox.Outbox

namespace FashionErp

open Lib

namespace NotificationEventConsumer

/-- `handleMessage`, up to `processIdempotently`: the message is `none` where it is empty or
cannot be parsed. -/
def handleMessage (message : Option EventEnvelope) : Option EventEnvelope :=
  message.filter (·.eventType = PAYMENT_CONFIRMED_EVENT_TYPE)

def buildTitle (payload : PaymentConfirmedEventPayload) : String :=
  if payload.direction = .Receipt then "Payment received: " ++ payload.paymentNumber
  else "Payment sent: " ++ payload.paymentNumber

def buildBody (payload : PaymentConfirmedEventPayload) : String :=
  let amount := toFixed2 payload.amount
  s!"Payment {payload.paymentNumber} for {amount} {payload.currency} has been confirmed."

/-- The row `createPending` inserts for an envelope. -/
def pendingNotification (id : Uuid) (channel : NotificationChannel) (envelope : EventEnvelope) :
    Notification where
  id := id
  companyId := envelope.companyId
  eventType := envelope.eventType
  channel := channel
  title := buildTitle envelope.payload
  body := buildBody envelope.payload
  data :=
    { paymentId := envelope.payload.paymentId
      paymentNumber := envelope.payload.paymentNumber
      direction := envelope.payload.direction
      amount := envelope.payload.amount
      currency := envelope.payload.currency }
  sourceEventId := envelope.eventId

/-- `processIdempotently`; its one target is the channel. -/
def consumer : Consumer Unit EventEnvelope NotificationChannel Uuid Notification where
  eventId envelope := envelope.eventId
  targets _ _ := [.InApp]
  row := pendingNotification
  id notification := notification.id
  key notification := (notification.channel, notification.sourceEventId)
  id_row _ _ _ := rfl
  key_row _ _ _ := rfl

abbrev State :=
  Shared (ConsumerDb Unit NotificationChannel Uuid Notification) Unit
    (Handling NotificationChannel)

def toCall (message : Option EventEnvelope) : ConsumerCall Unit EventEnvelope :=
  match handleMessage message with
  | some envelope => .handle envelope
  | none => .skip

/-- Every interleaving of the handlers of any messages; message `i` has handler `i`. -/
def machine (messages : ℕ → Option EventEnvelope) : Machine State (ℕ × ConsumerLabel) :=
  consumer.machine fun i => toCall (messages i)

def start : State := .start { world := () } .received

def RecordedOnce (db : ConsumerDb Unit NotificationChannel Uuid Notification) : Prop :=
  (∀ eventId channel,
    db.rows.countP (fun n => n.sourceEventId = eventId ∧ n.channel = channel) ≤ 1) ∧
  ∀ processed ∈ db.marks, ∃ n ∈ db.rows,
    n.sourceEventId = processed.1 ∧ n.channel = .InApp ∧ n.id ∈ db.jobs

end NotificationEventConsumer

structure WebhookSubscriptionRow extends WebhookSubscription where
  events : List String

structure WebhookDeliveryRow extends WebhookDelivery where
  id : Uuid

namespace WebhookDispatchConsumer

def SUPPORTED_WEBHOOK_EVENT_TYPES : List String := [PAYMENT_CONFIRMED_EVENT_TYPE]

/-- `handleMessage`, up to `processIdempotently`. -/
def handleMessage (message : Option EventEnvelope) : Option EventEnvelope :=
  message.filter (·.eventType ∈ SUPPORTED_WEBHOOK_EVENT_TYPES)

def findActiveForEvent (companyId : Uuid) (eventType : String)
    (subscriptions : List WebhookSubscriptionRow) : List WebhookSubscriptionRow :=
  let active := subscriptions.filter fun subscription =>
    subscription.companyId = companyId ∧ subscription.isActive = true
  active.filter fun subscription => eventType ∈ subscription.events

def newDelivery (id webhookSubscriptionId : Uuid) (envelope : EventEnvelope) :
    WebhookDeliveryRow where
  id := id
  webhookSubscriptionId := webhookSubscriptionId
  eventId := envelope.eventId
  eventType := envelope.eventType

/-- `processIdempotently`; its targets are the ids of the subscriptions. -/
def consumer : Consumer (List WebhookSubscriptionRow) EventEnvelope Uuid Uuid
    WebhookDeliveryRow where
  eventId envelope := envelope.eventId
  targets subscriptions envelope :=
    (findActiveForEvent envelope.companyId envelope.eventType subscriptions).map (·.id)
  row := newDelivery
  id delivery := delivery.id
  key delivery := (delivery.webhookSubscriptionId, delivery.eventId)
  id_row _ _ _ := rfl
  key_row _ _ _ := rfl

abbrev State :=
  Shared (ConsumerDb (List WebhookSubscriptionRow) Uuid Uuid WebhookDeliveryRow) Unit
    (Handling Uuid)

inductive Call
  | message (value : Option EventEnvelope)
  | subscriptions (change : List WebhookSubscriptionRow → List WebhookSubscriptionRow)

def toCall : Call → ConsumerCall (List WebhookSubscriptionRow) EventEnvelope
  | .message value =>
    match handleMessage value with
    | some envelope => .handle envelope
    | none => .skip
  | .subscriptions change => .change change

def machine (call : ℕ → Call) : Machine State (ℕ × ConsumerLabel) :=
  consumer.machine fun i => toCall (call i)

def start (subscriptions : List WebhookSubscriptionRow) : State :=
  .start { world := subscriptions } .received

def RecordedOnce (db : ConsumerDb (List WebhookSubscriptionRow) Uuid Uuid WebhookDeliveryRow) :
    Prop :=
  (∀ subscriptionId eventId, db.rows.countP (fun d =>
    d.webhookSubscriptionId = subscriptionId ∧ d.eventId = eventId) ≤ 1) ∧
  ∀ processed ∈ db.marks, ∀ subscriptionId ∈ processed.2, ∃ d ∈ db.rows,
    d.webhookSubscriptionId = subscriptionId ∧ d.eventId = processed.1 ∧ d.id ∈ db.jobs

end WebhookDispatchConsumer

theorem countP_key_le_one {ρ κ : Type} [DecidableEq κ] {key : ρ → κ} {rows : List ρ}
    (h : (rows.map key).Nodup) (k : κ) : rows.countP (fun r => key r = k) ≤ 1 := by
  have hcount := List.nodup_iff_count_le_one.1 h k
  rw [List.count, List.countP_map] at hcount
  calc rows.countP (fun r => key r = k) = rows.countP ((fun x => x == k) ∘ key) :=
        List.countP_congr fun r _ => by simp
    _ ≤ 1 := hcount

namespace ConsumerDemo

def envelope : EventEnvelope :=
  { eventId := 4, eventType := "payment.confirmed", eventVersion := 1
    occurredAt := { date := ⟨2026, 3, 1⟩, millis := 0 }, aggregateType := "Payment"
    aggregateId := 3, companyId := 10, branchId := none, source := "fashion-erp-api"
    payload :=
      { paymentId := 3, paymentNumber := "PAY-1", direction := .Receipt, amount := 5000
        currency := "USD", paymentMethodId := 6, customerId := none, supplierId := none
        paymentDate := { date := ⟨2026, 3, 1⟩, millis := 0 } } }

def subscription (id : Uuid) : WebhookSubscriptionRow :=
  { id, companyId := 10, url := "", secret := "", events := ["payment.confirmed"] }

def overlap : List (ℕ × ConsumerLabel) :=
  [(0, .findMark), (1, .findMark), (0, .readTargets), (1, .readTargets), (0, .findRow),
    (1, .findRow), (0, .insert .done), (1, .insert .done), (0, .enqueue .unacknowledged),
    (1, .refetch), (1, .enqueue .done)]

def rest : List (ℕ × ConsumerLabel) := [(1, .findRow), (1, .insert .done), (1, .enqueue .done)]

end ConsumerDemo

end FashionErp
