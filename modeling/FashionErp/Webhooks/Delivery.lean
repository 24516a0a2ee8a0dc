/-
`webhooks/workers/webhook-delivery.worker.ts`: any number of jobs for one delivery.

A job reads the delivery, skips if it is DELIVERED, reads the subscription, posts, and
records the outcome; each of these is a step of its own, and between two of them the other
jobs go on.
-/
import FashionErp.Lib.Machine
import FashionErp.Shopping.Catalog
import Mathlib.Data.Fintype.Basic

namespace FashionErp

open Lib

inductive WebhookDeliveryStatus
  | Pending
  | Delivered
  | Failed
  deriving DecidableEq

structure WebhookDelivery where
  webhookSubscriptionId : Uuid
  eventId : Uuid
  eventType : String
  status : WebhookDeliveryStatus := .Pending
  attempt : ℕ := 0
  responseStatus : Option ℕ := none
  responseBody : Option String := none
  errorMessage : Option String := none
  deliveredAt : Option Instant := none

structure WebhookSubscription where
  id : Uuid
  companyId : Uuid
  url : String
  secret : String
  isActive : Bool := true
  failureCount : ℕ := 0
  lastDeliveredAt : Option Instant := none

structure WebhookPostResult where
  status : ℕ
  body : Option String

structure WebhookPost where
  url : String
  secret : String
  id : Uuid
  type : String
  occurredAt : Instant
  companyId : Uuid

/-- What a job is run with: `job.attemptsMade` and `job.opts.attempts`. -/
structure WebhookDeliveryJob where
  attemptsMade : ℕ
  attempts : Option ℕ

namespace WebhookDeliveryWorker

/-- `job.attemptsMade + 1`. -/
def attemptNumber (job : WebhookDeliveryJob) : ℕ := job.attemptsMade + 1

def isLastAttempt (job : WebhookDeliveryJob) : Bool := attemptNumber job ≥ job.attempts.getD 1

/-! ## The writes of `process` -/

/-- The update for a subscription that is gone or inactive. -/
def setUndeliverable (job : WebhookDeliveryJob) (errorMessage : String)
    (delivery : WebhookDelivery) : WebhookDelivery :=
  { delivery with
    status := .Failed
    attempt := attemptNumber job
    errorMessage := some errorMessage }

def setDelivered (job : WebhookDeliveryJob) (result : WebhookPostResult) (now : Instant)
    (delivery : WebhookDelivery) : WebhookDelivery :=
  { delivery with
    status := .Delivered
    attempt := attemptNumber job
    responseStatus := some result.status
    responseBody := result.body
    errorMessage := none
    deliveredAt := some now }

def setUnsuccessful (job : WebhookDeliveryJob) (result : WebhookPostResult)
    (delivery : WebhookDelivery) : WebhookDelivery :=
  { delivery with
    status := .Pending
    attempt := attemptNumber job
    responseStatus := some result.status
    responseBody := result.body
    errorMessage := some s!"Receiver returned HTTP {result.status}" }

/-- The update of the `catch`. -/
def setCaught (job : WebhookDeliveryJob) (message : String) (delivery : WebhookDelivery) :
    WebhookDelivery :=
  { delivery with
    status := if isLastAttempt job then .Failed else .Pending
    attempt := attemptNumber job
    errorMessage := some (Shopping.slice 1000 message) }

structure World where
  delivery : Option WebhookDelivery
  subscription : Option WebhookSubscription

def World.update (w : World) (change : WebhookDelivery → WebhookDelivery) : World :=
  { w with delivery := w.delivery.map change }

def World.updateSubscription (w : World) (change : WebhookSubscription → WebhookSubscription) :
    World :=
  { w with subscription := w.subscription.map change }

/-! ## The steps of a job -/

inductive Phase
  | waiting
  | loaded (delivery : WebhookDelivery)
  /-- The subscription is gone or inactive; the FAILED write is next. -/
  | undeliverable (errorMessage : String)
  | ready (delivery : WebhookDelivery) (subscription : WebhookSubscription)
  | posting (subscription : WebhookSubscription)
  /-- The answer was 2xx; the DELIVERED write is next. -/
  | accepted (subscription : WebhookSubscription) (result : WebhookPostResult)
  | recording (subscription : WebhookSubscription)
  /-- Another answer; the PENDING write is next. -/
  | unsuccessful (subscription : WebhookSubscription) (result : WebhookPostResult)
  /-- In the `catch`, before its write. -/
  | caught (subscription : WebhookSubscription) (message : String)
  /-- The last attempt has failed; the increment of `failureCount` is next. -/
  | incrementing (subscription : WebhookSubscription)
  | ended

structure Write where
  effect : World → World
  next : Phase
  failed : String → Phase

def Phase.write (job : WebhookDeliveryJob) (now : Instant) : Phase → Option Write
  | undeliverable errorMessage => some
    { effect := fun w => w.update (setUndeliverable job errorMessage)
      next := ended
      failed := fun _ => ended }
  | accepted subscription result => some
    { effect := fun w => w.update (setDelivered job result now)
      next := recording subscription
      failed := caught subscription }
  | recording subscription => some
    { effect := fun w => w.updateSubscription fun row =>
        { row with lastDeliveredAt := some now, failureCount := 0 }
      next := ended
      failed := caught subscription }
  | unsuccessful subscription result => some
    { effect := fun w => w.update (setUnsuccessful job result)
      next := caught subscription s!"Webhook receiver returned HTTP {result.status}"
      failed := caught subscription }
  | caught subscription message => some
    { effect := fun w => w.update (setCaught job message)
      next := if isLastAttempt job then incrementing subscription else ended
      failed := fun _ => ended }
  | incrementing _ => some
    { effect := fun w => w.updateSubscription fun row =>
        { row with failureCount := row.failureCount + 1 }
      next := ended
      failed := fun _ => ended }
  | _ => none

inductive WriteOutcome
  | done
  | unacknowledged (error : String)
  | lost (error : String)
  /-- It is done, and the process dies. -/
  | lastWords

def WriteOutcome.isDone : WriteOutcome → Bool
  | lost _ => false
  | _ => true

def Write.dest (write : Write) : WriteOutcome → Phase
  | .done => write.next
  | .unacknowledged error | .lost error => write.failed error
  | .lastWords => .ended

inductive Label
  | findDelivery
  | findSubscription
  | refuseUrl (message : String)
  /-- `fetch` sends the request. -/
  | post (now : Instant)
  | respond (result : WebhookPostResult)
  | requestFails (message : String)
  | write (now : Instant) (outcome : WriteOutcome)
  /-- A read fails, or the process dies. -/
  | crash

/-- The committed rows, `n` jobs, and two facts about the past: the delivery has been
DELIVERED at some time, and the POSTs that were started after that. -/
structure State (n : ℕ) where
  world : World
  phase : Fin n → Phase
  everDelivered : Bool
  late : List WebhookPost

variable {n : ℕ}

def World.delivered (w : World) : Bool :=
  w.delivery.any fun delivery => delivery.status = .Delivered

def State.setPhase (s : State n) (i : Fin n) (p : Phase) : State n :=
  { s with phase := Function.update s.phase i p }

/-- A step of job `i`. -/
def stepJob (job : WebhookDeliveryJob) (s : State n) (i : Fin n) : Label → Phase → Option (State n)
  | .findDelivery, .waiting => some <| s.setPhase i <|
    match s.world.delivery with
    | none => .ended
    | some delivery => if delivery.status = .Delivered then .ended else .loaded delivery
  | .findSubscription, .loaded delivery => some <| s.setPhase i <|
    match s.world.subscription with
    | none => .undeliverable "Webhook subscription no longer exists"
    | some subscription =>
      if subscription.isActive then .ready delivery subscription
      else .undeliverable "Webhook subscription is inactive"
  | .refuseUrl message, .ready _ subscription => some (s.setPhase i (.caught subscription message))
  | .post now, .ready delivery subscription =>
    let post : WebhookPost :=
      { url := subscription.url, secret := subscription.secret, id := delivery.eventId
        type := delivery.eventType, occurredAt := now, companyId := subscription.companyId }
    some { s.setPhase i (.posting subscription) with
      late := if s.everDelivered then s.late ++ [post] else s.late }
  | .respond result, .posting subscription => some <| s.setPhase i <|
    if 200 ≤ result.status ∧ result.status < 300 then .accepted subscription result
    else .unsuccessful subscription result
  | .requestFails message, .posting subscription =>
    some (s.setPhase i (.caught subscription message))
  | .write now outcome, phase => (phase.write job now).map fun write =>
    let world := if outcome.isDone then write.effect s.world else s.world
    { s.setPhase i (write.dest outcome) with
      world
      everDelivered := s.everDelivered || world.delivered }
  | .crash, _ => some (s.setPhase i .ended)
  | _, _ => none

inductive Event (n : ℕ)
  | job (i : Fin n) (label : Label)
  | subscription (found : Option WebhookSubscription)

def machine (jobs : Fin n → WebhookDeliveryJob) : Machine (State n) (Event n) where
  step s
    | .job i label => stepJob (jobs i) s i label (s.phase i)
    | .subscription found => some { s with world := { s.world with subscription := found } }

def start (n : ℕ) (w : World) : State n :=
  { world := w, phase := fun _ => .waiting, everDelivered := w.delivered, late := [] }

/-! ## A delivered webhook stays delivered -/

/-- Past the check for DELIVERED, with a POST or a write to the delivery still to come. -/
def Phase.UnderWay : Phase → Prop
  | waiting | recording _ | incrementing _ | ended => False
  | _ => True

instance : DecidablePred Phase.UnderWay := fun p => by
  cases p <;> unfold Phase.UnderWay <;> infer_instance

/-- A write of job `i` in the phase, with the outcome, undoes no delivery. -/
def UndisturbedWrite (s : State n) (i : Fin n) : Phase → WriteOutcome → Prop
  | .accepted .., .done | .accepted .., .lastWords => ∀ j, j ≠ i → ¬ (s.phase j).UnderWay
  | .accepted .., .unacknowledged _ => False
  | .recording _, .unacknowledged _ | .recording _, .lost _ => False
  | _, _ => True

/-- What undoes no delivery. When DELIVERED is written no other job is under way and
the write is not taken for failed, and the write to the subscription that follows it does
not fail. -/
def Undisturbed (s : State n) : Event n → Prop
  | .job i (.write _ outcome) => UndisturbedWrite s i (s.phase i) outcome
  | _ => True

instance (s : State n) (i : Fin n) (p : Phase) (outcome : WriteOutcome) :
    Decidable (UndisturbedWrite s i p outcome) := by
  cases p <;> cases outcome <;> unfold UndisturbedWrite <;> infer_instance

instance (s : State n) : (event : Event n) → Decidable (Undisturbed s event)
  | .job i (.write _ outcome) => inferInstanceAs (Decidable (UndisturbedWrite s i (s.phase i) outcome))
  | .job _ .findDelivery | .job _ .findSubscription | .job _ (.refuseUrl _) | .job _ (.post _)
  | .job _ (.respond _) | .job _ (.requestFails _) | .job _ .crash | .subscription _ =>
    inferInstanceAs (Decidable True)

/-- The invariant: no POST was late; the ghost is no less than the row; and once
the delivery has been DELIVERED it is, and no job is under way. -/
structure Inv (s : State n) : Prop where
  late : s.late = []
  ever : s.world.delivered = true → s.everDelivered = true
  stays : s.everDelivered = true → ∀ delivery ∈ s.world.delivery, delivery.status = .Delivered
  quiet : s.everDelivered = true → ∀ i, ¬ (s.phase i).UnderWay

variable {s : State n} {i : Fin n}

theorem Inv.setPhase (h : Inv s) {p : Phase}
    (hp : s.everDelivered = true → ¬ p.UnderWay) : Inv (s.setPhase i p) := by
  refine ⟨h.late, h.ever, h.stays, fun hever j => ?_⟩
  show ¬ (Function.update s.phase i p j).UnderWay
  by_cases hj : j = i
  · subst hj
    rw [Function.update_self]
    exact hp hever
  · rw [Function.update_of_ne hj]
    exact h.quiet hever j

theorem Inv.not_ever (h : Inv s) (hp : (s.phase i).UnderWay) : s.everDelivered = false := by
  by_contra hever
  exact h.quiet (by simpa using hever) i hp

theorem delivered_update (w : World) {change : WebhookDelivery → WebhookDelivery}
    (hchange : ∀ delivery, (change delivery).status ≠ .Delivered) :
    (w.update change).delivered = false := by
  unfold World.delivered World.update
  cases w.delivery with
  | none => rfl
  | some delivery => simp [hchange delivery]

variable {job : WebhookDeliveryJob}

theorem write_cases {now : Instant} {p : Phase} {write : Write} (h : p.write job now = some write) :
    (∃ subscription result, p = .accepted subscription result ∧
      write.effect = (fun w => w.update (setDelivered job result now)) ∧
      write.next = .recording subscription) ∨
    (¬ p.UnderWay ∧ (∀ w, (write.effect w).delivery = w.delivery) ∧ write.next = .ended ∧
      ((∃ subscription, p = .recording subscription) ∨ ∀ error, write.failed error = .ended)) ∨
    (p.UnderWay ∧ ∀ w, (write.effect w).delivered = false) := by
  cases p with
  | accepted subscription result =>
    cases h
    exact .inl ⟨subscription, result, rfl, rfl, rfl⟩
  | recording subscription =>
    cases h
    exact .inr (.inl ⟨id, fun _ => rfl, rfl, .inl ⟨subscription, rfl⟩⟩)
  | incrementing subscription =>
    cases h
    exact .inr (.inl ⟨id, fun _ => rfl, rfl, .inr fun _ => rfl⟩)
  | undeliverable errorMessage =>
    cases h
    refine .inr (.inr ⟨trivial, fun w => delivered_update w fun _ => ?_⟩)
    simp [setUndeliverable]
  | unsuccessful subscription result =>
    cases h
    refine .inr (.inr ⟨trivial, fun w => delivered_update w fun _ => ?_⟩)
    simp [setUnsuccessful]
  | caught subscription message =>
    cases h
    refine .inr (.inr ⟨trivial, fun w => delivered_update w fun _ => ?_⟩)
    unfold setCaught
    dsimp only
    split <;> decide
  | waiting | loaded | ready | posting | ended => cases h

theorem Inv.undelivered (hlate : s.late = []) (hworld : s.world.delivered = false)
    (hever : s.everDelivered = false) : Inv s where
  late := hlate
  ever h := absurd h (by simp [hworld])
  stays h := absurd h (by simp [hever])
  quiet h := absurd h (by simp [hever])

theorem Inv.not_delivered (h : Inv s) (hever : s.everDelivered = false) :
    s.world.delivered = false := by
  by_contra hdelivered
  rw [h.ever (by simpa using hdelivered)] at hever
  cases hever

theorem inv_setDelivered {result : WebhookPostResult} {now : Instant} {p : Phase} (h : Inv s) (hp : ¬ p.UnderWay)
    (hothers : ∀ j, j ≠ i → ¬ (s.phase j).UnderWay) :
    Inv { s.setPhase i p with
      world := s.world.update (setDelivered job result now)
      everDelivered := s.everDelivered || (s.world.update (setDelivered job result now)).delivered }
    where
  late := h.late
  ever hdelivered := by
    dsimp only at hdelivered ⊢
    rw [hdelivered, Bool.or_true]
  stays _ delivery hdelivery := by
    obtain ⟨before, -, rfl⟩ := Option.map_eq_some_iff.1 hdelivery
    rfl
  quiet _ j := by
    show ¬ (Function.update s.phase i p j).UnderWay
    by_cases hj : j = i
    · subst hj
      rwa [Function.update_self]
    · rw [Function.update_of_ne hj]
      exact hothers j hj

theorem inv_write {now : Instant} {outcome : WriteOutcome}
    {write : Write} (h : Inv s) (hundisturbed : Undisturbed s (.job i (.write now outcome)))
    (hw : (s.phase i).write job now = some write) {world : World}
    (hworld : world = if outcome.isDone then write.effect s.world else s.world) :
    Inv { s.setPhase i (write.dest outcome) with
      world, everDelivered := s.everDelivered || world.delivered } := by
  rcases write_cases hw with ⟨subscription, result, hp, heffect, hnext⟩ |
    ⟨hp, heffect, hnext, hfailed⟩ | ⟨hp, heffect⟩
  · have hever := h.not_ever (i := i) (by rw [hp]; trivial)
    rw [heffect] at hworld
    change UndisturbedWrite s i (s.phase i) outcome at hundisturbed
    rw [hp] at hundisturbed
    cases outcome with
    | done =>
      subst hworld
      unfold Write.dest
      rw [hnext]
      exact inv_setDelivered h id hundisturbed
    | lastWords =>
      subst hworld
      exact inv_setDelivered h id hundisturbed
    | unacknowledged error => exact hundisturbed.elim
    | lost error =>
      subst hworld
      refine .undelivered h.late (h.not_delivered hever) ?_
      show (s.everDelivered || s.world.delivered) = false
      rw [hever, h.not_delivered hever, Bool.or_false]
  · -- neither the delivery nor what is known of it changes
    have hdelivery : world.delivery = s.world.delivery := by
      rw [hworld]
      split
      · exact heffect s.world
      · rfl
    have hdelivered : world.delivered = s.world.delivered := by
      unfold World.delivered
      rw [hdelivery]
    have hsame : (s.everDelivered || world.delivered) = s.everDelivered := by
      rw [hdelivered]
      cases hever : s.everDelivered with
      | true => rfl
      | false => rw [h.not_delivered hever, Bool.or_false]
    have hdest : ¬ (write.dest outcome).UnderWay := by
      change UndisturbedWrite s i (s.phase i) outcome at hundisturbed
      rcases hfailed with ⟨subscription, hp⟩ | hfailed
      · rw [hp] at hundisturbed
        cases outcome with
        | done =>
          unfold Write.dest
          rw [hnext]
          exact id
        | lastWords => exact id
        | unacknowledged | lost => exact hundisturbed.elim
      · cases outcome <;> simp [Write.dest, hnext, hfailed, Phase.UnderWay]
    have hset := h.setPhase (i := i) fun _ => hdest
    refine ⟨hset.late, fun hd => ?_, fun he => ?_, fun he => ?_⟩
    · dsimp only at hd ⊢
      rw [hd, Bool.or_true]
    · dsimp only at he ⊢
      rw [hsame] at he
      rw [hdelivery]
      exact hset.stays he
    · dsimp only at he ⊢
      rw [hsame] at he
      exact hset.quiet he
  · have hever := h.not_ever hp
    have hdelivered : world.delivered = false := by
      rw [hworld]
      split
      · exact heffect s.world
      · exact h.not_delivered hever
    refine .undelivered h.late hdelivered ?_
    show (s.everDelivered || world.delivered) = false
    rw [hever, hdelivered, Bool.or_false]

theorem inv_step {jobs : Fin n → WebhookDeliveryJob} {s' : State n} {event : Event n} (h : Inv s)
    (hundisturbed : Undisturbed s event) (hs : (machine jobs).step s event = some s') : Inv s' := by
  cases event with
  | subscription found =>
    cases hs
    exact ⟨h.late, h.ever, h.stays, h.quiet⟩
  | job i label =>
    change stepJob (jobs i) s i label (s.phase i) = some s' at hs
    unfold stepJob at hs
    split at hs
    · -- the read of the delivery
      cases hs
      refine h.setPhase fun hever => ?_
      cases hdelivery : s.world.delivery with
      | none => exact id
      | some delivery =>
        dsimp only
        rw [if_pos (h.stays hever delivery hdelivery)]
        exact id
    · rename_i delivery hp
      cases hs
      exact h.setPhase fun hever => absurd (by rw [hp]; trivial) (h.quiet hever i)
    · rename_i delivery subscription hp
      cases hs
      exact h.setPhase fun hever => absurd (by rw [hp]; trivial) (h.quiet hever i)
    · -- a POST: the job has passed its check, so the delivery is not DELIVERED yet
      rename_i delivery subscription hp
      cases hs
      have hever := h.not_ever (i := i) (by rw [hp]; trivial)
      refine .undelivered ?_ (h.not_delivered hever) hever
      dsimp only
      rw [hever]
      exact h.late
    · rename_i subscription hp
      cases hs
      exact h.setPhase fun hever => absurd (by rw [hp]; trivial) (h.quiet hever i)
    · rename_i subscription hp
      cases hs
      exact h.setPhase fun hever => absurd (by rw [hp]; trivial) (h.quiet hever i)
    · rename_i now outcome
      obtain ⟨write, hw, rfl⟩ := Option.map_eq_some_iff.1 hs
      exact inv_write h hundisturbed hw rfl
    · cases hs
      exact h.setPhase fun _ => id
    · cases hs

/-- A delivered webhook stays delivered, in every run whose steps undo no delivery: once
DELIVERED it is neither PENDING nor FAILED again, and no POST is started. -/
theorem stays_delivered (jobs : Fin n → WebhookDeliveryJob) {w : World} {ls : List (Event n)}
    {s : State n} (hrun : (machine jobs).RunWith Undisturbed (start n w) ls s) :
    s.late = [] ∧
      (s.everDelivered = true → ∀ delivery ∈ s.world.delivery, delivery.status = .Delivered) := by
  have hstart : Inv (start n w) := by
    refine ⟨rfl, id, fun hever delivery hdelivery => ?_, fun _ _ => id⟩
    have hdelivered : w.delivery.any fun delivery => delivery.status = .Delivered := hever
    rw [show w.delivery = some delivery from hdelivery] at hdelivered
    simpa using hdelivered
  have hinv := hrun.invariant hstart fun _ _ _ h hundisturbed hs => inv_step h hundisturbed hs
  exact ⟨hinv.late, hinv.stays⟩

/-! One delivery, its first attempt and the retry. -/

namespace DeliveryDemo

def now : Instant := { date := ⟨2026, 3, 1⟩, millis := 0 }

def world : World where
  delivery := some { webhookSubscriptionId := 1, eventId := 2, eventType := "sale.confirmed" }
  subscription := some { id := 1, companyId := 10, url := "receiver", secret := "s" }

def jobs (i : Fin 2) : WebhookDeliveryJob := { attemptsMade := i, attempts := some 5 }

/-- Job `i` posts, and the receiver answers 200. -/
def posts (i : Fin 2) : List (Event 2) :=
  [.job i .findDelivery, .job i .findSubscription, .job i (.post now),
    .job i (.respond { status := 200, body := none })]

def writes (i : Fin 2) (outcome : WriteOutcome) : Event 2 := .job i (.write now outcome)

def undisturbed : List (Event 2) :=
  posts 0 ++ [writes 0 .done, writes 0 .done, .job 1 .findDelivery]

def subscriptionLost : List (Event 2) :=
  posts 0 ++ [writes 0 .done, writes 0 (.lost "deadlock"), writes 0 .done] ++ posts 1

def overlapping : List (Event 2) :=
  [.job 1 .findDelivery, .job 1 .findSubscription, .job 1 (.post now)] ++ posts 0 ++
    [writes 0 .done, writes 0 .done, .job 1 (.respond { status := 500, body := none }),
      writes 1 .done]

def status (s : State 2) : Option WebhookDeliveryStatus := s.world.delivery.map (·.status)

end DeliveryDemo

open DeliveryDemo in
theorem stays_delivered_undisturbed :
    ∃ s, (machine jobs).RunWith Undisturbed (start 2 world) undisturbed s ∧
      s.everDelivered = true ∧ s.late = [] := by
  obtain ⟨s, hrun, hs⟩ := Machine.exists_runWith (machine jobs) Undisturbed (start 2 world)
    undisturbed (fun s => s.everDelivered) (by decide +kernel)
  exact ⟨s, hrun, hs, (stays_delivered jobs hrun).1⟩

open DeliveryDemo in
theorem delivery_undone :
    (∃ s, (machine jobs).Run (start 2 world) subscriptionLost s ∧ s.everDelivered = true ∧
      status s = some .Pending ∧ s.late ≠ []) ∧
    ∃ s, (machine jobs).Run (start 2 world) overlapping s ∧ s.everDelivered = true ∧
      status s = some .Pending := by
  constructor
  · obtain ⟨s, hrun, hs⟩ := Machine.exists_runWith (machine jobs) (fun _ _ => True)
      (start 2 world) subscriptionLost
      (fun s => s.everDelivered && decide (status s = some .Pending) && !s.late.isEmpty)
      (by decide +kernel)
    simp only [Bool.and_eq_true, decide_eq_true_eq, Bool.not_eq_true',
      List.isEmpty_eq_false_iff] at hs
    exact ⟨s, hrun, hs.1.1, hs.1.2, hs.2⟩
  · obtain ⟨s, hrun, hs⟩ := Machine.exists_runWith (machine jobs) (fun _ _ => True)
      (start 2 world) overlapping
      (fun s => s.everDelivered && decide (status s = some .Pending)) (by decide +kernel)
    simp only [Bool.and_eq_true, decide_eq_true_eq] at hs
    exact ⟨s, hrun, hs.1, hs.2⟩

end WebhookDeliveryWorker

end FashionErp
