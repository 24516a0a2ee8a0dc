/-
`notifications/services/notifications.service.ts` and
`notifications/workers/notification.worker.ts`: jobs that deliver a notification, beside
requests that mark it read.

A job reads the notification, skips it if it is SENT, delivers it and writes SENT or
FAILED by id, whatever the row says by then.
-/
import FashionErp.Core.Entities
import FashionErp.Lib.Column
import FashionErp.Lib.SaveEntity
import FashionErp.Webhooks.Delivery

namespace FashionErp

open Lib

open WebhookDeliveryWorker (WriteOutcome)

inductive NotificationStatus
  | Pending
  | Sent
  | Failed
  deriving DecidableEq

inductive NotificationChannel
  | InApp
  deriving DecidableEq

def NotificationChannel.toString : NotificationChannel → String
  | InApp => "IN_APP"

structure NotificationData where
  paymentId : Uuid
  paymentNumber : String
  direction : PaymentDirection
  amount : Cents
  currency : String
  deriving DecidableEq

structure Notification where
  id : Uuid
  companyId : Uuid
  userId : Option Uuid := none
  eventType : String
  channel : NotificationChannel := .InApp
  title : String
  body : String
  data : NotificationData
  status : NotificationStatus := .Pending
  sourceEventId : Uuid
  sentAt : Option Instant := none
  failedAt : Option Instant := none
  lastError : Option String := none
  readAt : Option Instant := none

instance : Keyed Notification Uuid := ⟨Notification.id⟩

namespace NotificationsService

abbrev Notifications := Table Notification

/-! ## The service -/

def findByIdInCompany (id companyId : Uuid) (db : Notifications) : Except Failure Notification :=
  match (db.find? id).filter (·.companyId = companyId) with
  | some notification => pure notification
  | none => throw (appException .NotFound "Notification not found")

/-- What `markSent` sets. -/
def setSent (now : Instant) (notification : Notification) : Notification :=
  { notification with status := .Sent, sentAt := some now, lastError := none }

/-- What `markFailed` sets. -/
def setFailed (errorMessage : String) (now : Instant) (notification : Notification) :
    Notification :=
  { notification with
    status := .Failed
    failedAt := some now
    lastError := some (Shopping.slice 1000 errorMessage) }

/-- `repository.update(id, ..)`: nothing happens if there is no such row. -/
def updateRow (id : Uuid) (change : Notification → Notification) (db : Notifications) :
    Notifications :=
  match db.find? id with
  | some row => db.save (change row)
  | none => db

/-- `save`: the row with the columns in which the entity differs from what was read. -/
def mergeNotification (entity seen row : Notification) : Notification where
  id := row.id
  companyId := mergeCol entity.companyId seen.companyId row.companyId
  userId := mergeCol entity.userId seen.userId row.userId
  eventType := mergeCol entity.eventType seen.eventType row.eventType
  channel := mergeCol entity.channel seen.channel row.channel
  title := mergeCol entity.title seen.title row.title
  body := mergeCol entity.body seen.body row.body
  data := mergeCol entity.data seen.data row.data
  status := mergeCol entity.status seen.status row.status
  sourceEventId := mergeCol entity.sourceEventId seen.sourceEventId row.sourceEventId
  sentAt := mergeCol entity.sentAt seen.sentAt row.sentAt
  failedAt := mergeCol entity.failedAt seen.failedAt row.failedAt
  lastError := mergeCol entity.lastError seen.lastError row.lastError
  readAt := mergeCol entity.readAt seen.readAt row.readAt

def notificationRow (id : Uuid) : RowAccess Notifications Notification where
  find db := db.find? id
  put row db := db.save row
  merge := mergeNotification

/-! ## Jobs and requests beside each other -/

/-- A job of `NotificationWorker`, or a request to `markRead` with its `new Date()`. -/
inductive Call
  | job (notificationId : Uuid)
  | markRead (id companyId : Uuid) (now : Instant)

inductive Mark
  | sent
  | failed (errorMessage : String)

def Mark.set (now : Instant) : Mark → Notification → Notification
  | sent => setSent now
  | failed errorMessage => setFailed errorMessage now

inductive Phase
  | called
  | delivering (notification : Notification)
  /-- The write is next. -/
  | marking (mark : Mark)
  | locked (mark : Mark)
  /-- `markRead` has read the notification and changed the entity. -/
  | saving (p : SavePhase Notification)
  | returned
  | rejected (error : Failure)
  /-- The job ends with an error, which the queue retries as another job. -/
  | threw (message : String)
  /-- The process dies. -/
  | crashed

inductive Label
  | read
  | deliver (error : Option String)
  | lock
  | write (now : Instant) (outcome : WriteOutcome)
  | save (l : SaveLabel)
  | crash

/-- Where the job goes on after a write. A failed `markSent` is caught as a failed delivery
is. -/
def Mark.dest : Mark → WriteOutcome → Phase
  | sent, .done => .returned
  | sent, .unacknowledged error | sent, .lost error => .marking (.failed error)
  | failed errorMessage, .done => .threw errorMessage
  | failed _, .unacknowledged error | failed _, .lost error => .threw error
  | _, .lastWords => .crashed

def noProvider (channel : NotificationChannel) : String :=
  let name := channel.toString
  s!"No NotificationProvider registered for channel \"{name}\""

/-- The moves of a job; `providers` are the channels somebody delivers to. -/
def jobMove (providers : List NotificationChannel) (id : Uuid) :
    Label → Phase → Notifications → Option (Move Notifications Uuid Phase)
  | .read, .called, db =>
    match db.find? id with
    | none => some (.leave .returned)
    | some notification =>
      if notification.status = .Sent then some (.leave .returned)
      else if notification.channel ∈ providers then some (.goto (.delivering notification))
      else some (.goto (.marking (.failed (noProvider notification.channel))))
  | .deliver none, .delivering _, _ => some (.goto (.marking .sent))
  | .deliver (some error), .delivering _, _ => some (.goto (.marking (.failed error)))
  | .lock, .marking mark, _ => some (.acquire id (.locked mark))
  | .write now outcome, .locked mark, db =>
    if outcome.isDone then some (.commit (updateRow id (mark.set now) db) (mark.dest outcome))
    else some (.leave (mark.dest outcome))
  | .crash, .delivering _, _ => some (.leave .crashed)
  | .crash, .marking _, _ => some (.leave .crashed)
  | .crash, .locked _, _ => some (.leave .crashed)
  | _, _, _ => none

/-- The moves of `markRead`. -/
def markReadMove (id companyId : Uuid) (now : Instant) :
    Label → Phase → Notifications → Option (Move Notifications Uuid Phase)
  | .read, .called, db =>
    match findByIdInCompany id companyId db with
    | .error error => some (.leave (.rejected error))
    | .ok notification =>
      if notification.readAt = none then
        some (.goto (.saving (.changed { notification with readAt := some now })))
      else some (.leave .returned)
  | .save l, .saving p, db => (notificationRow id).saveMove id .saving .returned l p db
  | .crash, .saving _, _ => some (.leave .crashed)
  | _, _, _ => none

def protocol (providers : List NotificationChannel) (call : ℕ → Call) :
    Protocol Notifications Uuid Phase Label := fun i l p db =>
  match call i with
  | .job id => jobMove providers id l p db
  | .markRead id companyId now => markReadMove id companyId now l p db

/-- Every interleaving of jobs and `markRead` requests, for any notifications. -/
def machine (providers : List NotificationChannel) (call : ℕ → Call) :
    Machine (Shared Notifications Uuid Phase) (ℕ × Label) :=
  concurrent (protocol providers call)

/-! ## What is claimed -/

/-- Writing `row` over `current` leaves it SENT if it is, and read when it was read. -/
def KeepsSent (current row : Notification) : Prop :=
  (current.status = .Sent → row.status = .Sent) ∧
    (current.readAt ≠ none → row.readAt = current.readAt)

def StaysSent (db db' : Notifications) : Prop :=
  ∀ id r, db.find? id = some r → ∃ r', db'.find? id = some r' ∧ KeepsSent r r'

/-- The columns a save of `entity` writes over `row` undo nothing. -/
def Spares (entity seen row : Notification) : Prop :=
  (row.status = .Sent → entity.status = seen.status ∨ entity.status = .Sent) ∧
    (row.readAt ≠ none → entity.readAt = seen.readAt ∨ entity.readAt = row.readAt)

instance (entity seen row : Notification) : Decidable (Spares entity seen row) :=
  inferInstanceAs (Decidable (_ ∧ _))

/-- The writes that undo nothing: FAILED is not written over SENT, and the entity
`markRead` saves writes neither another status over SENT nor another time over a
`readAt`. -/
def Respects (call : ℕ → Call) (s : Shared Notifications Uuid Phase) : ℕ × Label → Prop
  | (i, .write _ outcome) =>
    match call i, s.phase i with
    | .job id, .locked (.failed _) =>
      outcome.isDone = true → ∀ row ∈ s.db.find? id, row.status ≠ .Sent
    | _, _ => True
  | (i, .save .commit) =>
    match call i, s.phase i with
    | .markRead id .., .saving (.updated entity seen _) => ∀ row ∈ s.db.find? id, Spares entity seen row
    | _, _ => True
  | _ => True

instance (call : ℕ → Call) (s : Shared Notifications Uuid Phase) (l : ℕ × Label) :
    Decidable (Respects call s l) := by
  unfold Respects
  split
  · split <;> infer_instance
  · split <;> infer_instance
  · infer_instance

/-! ## The invariant -/

def PhaseOk (call : ℕ → Call) (held : Uuid → Prop) (db : Notifications) (i : ℕ) (p : Phase) :
    Prop :=
  match call i, p with
  | .job id, .locked _ => held id
  | .markRead id _ now, .saving p =>
    SaveOk (notificationRow id) id (fun _ _ => True) (fun first => { first with readAt := some now })
      held db p
  | _, _ => True

def Phase.Free : Phase → Prop
  | locked _ | saving _ => False
  | _ => True

variable {held : Uuid → Prop} {m : Move Notifications Uuid Phase}
  {s : Shared Notifications Uuid Phase}

variable {p : Phase} {i : ℕ}

theorem PhaseOk.of_free {call : ℕ → Call} {db : Notifications} (hp : p.Free) :
    PhaseOk call held db i p := by
  cases p with
  | locked | saving => exact hp.elim
  | _ => unfold PhaseOk; split <;> trivial

theorem Mark.dest_free (mark : Mark) (outcome : WriteOutcome) : (mark.dest outcome).Free := by
  cases mark <;> cases outcome <;> trivial

/-! ## What a commit does -/

section

variable {providers : List NotificationChannel} {call : ℕ → Call} {id : Uuid} {db : Notifications}
  {current row : Notification}

theorem find_put (hid : row.id = id) (j : Uuid) :
    (db.save row).find? j = if id = j then some row else db.find? j := by
  have hkey : key row = id := hid
  rw [Table.find?_save, hkey]

theorem merge_id (entity seen : Notification) (hfind : db.find? id = some current) :
    (mergeNotification entity seen current).id = id := Table.key_of_find? hfind

theorem mark_id (mark : Mark) (now : Instant) (hfind : db.find? id = some current) :
    (mark.set now current).id = id := by
  cases mark <;> exact Table.key_of_find? hfind

theorem KeepsSent.refl (row : Notification) : KeepsSent row row := ⟨id, fun _ => rfl⟩

theorem KeepsSent.trans {row₁ row₂ row₃ : Notification} (h : KeepsSent row₁ row₂)
    (h' : KeepsSent row₂ row₃) : KeepsSent row₁ row₃ := by
  refine ⟨fun hsent => h'.1 (h.1 hsent), fun hread => ?_⟩
  have hsame := h.2 hread
  rw [h'.2 (hsame ▸ hread), hsame]

theorem StaysSent.refl (db : Notifications) : StaysSent db db := fun _ r hr => ⟨r, hr, .refl r⟩

theorem StaysSent.trans {db₁ db₂ db₃ : Notifications} (h : StaysSent db₁ db₂)
    (h' : StaysSent db₂ db₃) : StaysSent db₁ db₃ := by
  intro id r hr
  obtain ⟨r₁, hr₁, hkeeps⟩ := h id r hr
  obtain ⟨r₂, hr₂, hkeeps'⟩ := h' id r₁ hr₁
  exact ⟨r₂, hr₂, hkeeps.trans hkeeps'⟩

theorem staysSent_save_iff (hid : row.id = id) (hfind : db.find? id = some current) :
    StaysSent db (db.save row) ↔ KeepsSent current row := by
  constructor
  · intro hstays
    obtain ⟨r', hr', hkeeps⟩ := hstays id current hfind
    rw [find_put hid, if_pos rfl] at hr'
    exact Option.some.inj hr' ▸ hkeeps
  · intro hkeeps j r hr
    rw [find_put hid]
    by_cases hj : id = j
    · subst hj
      obtain rfl := Option.some.inj (hfind.symm.trans hr)
      exact ⟨row, if_pos rfl, hkeeps⟩
    · exact ⟨r, (if_neg hj).trans hr, .refl r⟩

/-- The condition on a save is exact. -/
theorem keepsSent_merge_iff {entity seen row : Notification} :
    KeepsSent row (mergeNotification entity seen row) ↔ Spares entity seen row := by
  have hstatus : (row.status = .Sent → mergeCol entity.status seen.status row.status = .Sent) ↔
      (row.status = .Sent → entity.status = seen.status ∨ entity.status = .Sent) := by
    refine imp_congr_right fun hsent => ?_
    unfold mergeCol
    split
    · rename_i hsame
      simp [hsent, hsame]
    · rename_i hdiff
      simp [hdiff]
  have hread : (row.readAt ≠ none → mergeCol entity.readAt seen.readAt row.readAt = row.readAt) ↔
      (row.readAt ≠ none → entity.readAt = seen.readAt ∨ entity.readAt = row.readAt) := by
    refine imp_congr_right fun _ => ?_
    unfold mergeCol
    split
    · rename_i hsame
      simp [hsame]
    · rename_i hdiff
      simp [hdiff]
  exact and_congr hstatus hread

/-- The condition on a write of a job is exact: SENT may be written over anything. -/
theorem keepsSent_mark_iff (mark : Mark) (now : Instant) (row : Notification) :
    KeepsSent row (mark.set now row) ↔ ∀ errorMessage, mark = .failed errorMessage →
      row.status ≠ .Sent := by
  cases mark with
  | sent => exact ⟨fun _ => nofun, fun _ => ⟨fun _ => rfl, fun _ => rfl⟩⟩
  | failed errorMessage =>
    constructor
    · intro h _ _ hsent
      cases h.1 hsent
    · intro h
      exact ⟨fun hsent => absurd hsent (h errorMessage rfl), fun _ => rfl⟩

abbrev findRow (id : Uuid) (db : Notifications) : Option Notification := db.find? id

theorem updateRow_cases (id : Uuid) (change : Notification → Notification) (db : Notifications) :
    (db.find? id = none ∧ updateRow id change db = db) ∨
      ∃ row, db.find? id = some row ∧ updateRow id change db = db.save (change row) := by
  unfold updateRow
  split
  · rename_i row hrow
    exact .inr ⟨row, hrow, rfl⟩
  · rename_i hrow
    exact .inl ⟨hrow, rfl⟩

/-! ## Steps -/

/-- The moves of a process: a job writes, `markRead` saves, or nobody sees it. -/
inductive MoveCase (call : ℕ → Call) (held : Uuid → Prop) (db : Notifications) (i : ℕ) :
    Label → Phase → Move Notifications Uuid Phase → Prop
  | quiet {l p m} (hok : Shared.MoveOk (fun _ => False) (PhaseOk call) held db i m) :
    MoveCase call held db i l p m
  | marked {id mark now outcome} (hcall : call i = .job id) (hheld : held id)
      (hdone : outcome.isDone = true) :
    MoveCase call held db i (.write now outcome) (.locked mark)
      (.commit (updateRow id (mark.set now) db) (mark.dest outcome))
  | saved {id companyId now current entity seen row} (hcall : call i = .markRead id companyId now)
      (hfind : db.find? id = some current) (hheld : held id)
      (hrow : row = mergeNotification entity seen current) :
    MoveCase call held db i (.save .commit) (.saving (.updated entity seen row))
      (.commit (db.save row) .returned)

variable {l : Label}

theorem jobMove_cases (hcall : call i = .job id)
    (h : PhaseOk call held db i p) (hm : jobMove providers id l p db = some m) :
    MoveCase call held db i l p m := by
  unfold jobMove at hm
  split at hm
  case h_1 =>
    split at hm
    · cases hm
      exact .quiet (.of_free trivial)
    · split at hm
      · cases hm
        exact .quiet (.of_free trivial)
      · split at hm <;>
        · cases hm
          exact .quiet (.of_free trivial)
  case h_4 mark =>
    cases hm
    refine .quiet ?_
    simp only [Shared.MoveOk, PhaseOk, hcall, true_or]
  case h_5 now outcome mark =>
    simp only [PhaseOk, hcall] at h
    split at hm
    · rename_i hdone
      cases hm
      exact .marked hcall h hdone
    · cases hm
      exact .quiet (.of_free (mark.dest_free outcome))
  case h_9 => cases hm
  all_goals
    cases hm
    exact .quiet (.of_free trivial)

theorem markReadMove_cases {companyId : Uuid} {now : Instant}
    (hcall : call i = .markRead id companyId now) (h : PhaseOk call held db i p)
    (hm : markReadMove id companyId now l p db = some m) : MoveCase call held db i l p m := by
  unfold markReadMove at hm
  split at hm
  case h_1 =>
    split at hm
    · cases hm
      exact .quiet (.of_free trivial)
    · rename_i notification hread
      split at hm
      · cases hm
        have hfind : db.find? id = some notification := by
          unfold findByIdInCompany at hread
          split at hread
          · rename_i hfound
            cases hread
            exact (Option.filter_eq_some_iff.1 hfound).1
          · cases hread
        refine .quiet ?_
        simp only [Shared.MoveOk, PhaseOk, hcall]
        exact ⟨notification, notification, rfl, hfind, trivial⟩
      · cases hm
        exact .quiet (.of_free trivial)
  case h_2 l p =>
    simp only [PhaseOk, hcall] at h
    rcases h.move (fun _ => trivial) hm with ⟨q, rfl, hq⟩ | ⟨q, rfl, hq⟩ |
      ⟨entity, seen, row, rfl, rfl, rfl⟩
    · refine .quiet ?_
      simp only [Shared.MoveOk, PhaseOk, hcall]
      exact hq
    · refine .quiet ?_
      simp only [Shared.MoveOk, PhaseOk, hcall]
      exact hq
    · obtain ⟨first, current, rfl, hfind, -, -, hheld, rfl⟩ := h
      exact .saved hcall hfind hheld rfl
  case h_3 =>
    cases hm
    exact .quiet (.of_free trivial)
  case h_4 => cases hm

theorem protocol_cases (h : PhaseOk call held db i p)
    (hm : protocol providers call i l p db = some m) : MoveCase call held db i l p m := by
  unfold protocol at hm
  split at hm
  · exact jobMove_cases ‹_› h hm
  · exact markReadMove_cases ‹_› h hm

theorem PhaseOk.mono {db' : Notifications} {j : ℕ} (h : PhaseOk call held db j p)
    (hkept : Kept findRow held db db') : PhaseOk call held db' j p := by
  unfold PhaseOk at h ⊢
  split
  case h_1 hcall =>
    simp only [hcall] at h
    exact h
  case h_2 hcall =>
    simp only [hcall] at h
    refine h.mono (fun _ _ _ _ _ => trivial) fun r hr => ?_
    obtain ⟨r', hr', hsame⟩ := hkept _ r hr
    exact ⟨r', hr', trivial, hsame⟩
  case h_3 => trivial

abbrev Inv (call : ℕ → Call) (s : Shared Notifications Uuid Phase) : Prop :=
  s.Inv (fun _ => True) (PhaseOk call)

variable {s' : Shared Notifications Uuid Phase}

/-- A step keeps the invariant, whatever it does to a notification. -/
theorem inv_step {l : ℕ × Label} (h : Inv call s)
    (hs : (machine providers call).step s l = some s') : Inv call s' := by
  obtain ⟨i, l⟩ := l
  have hmono : ∀ held db db' j p, PhaseOk call held db j p → Kept findRow held db db' →
      PhaseOk call held db' j p := fun _ _ _ _ _ => PhaseOk.mono
  refine h.step_rows hmono hs fun m hm => ?_
  generalize hp : s.phase i = p at hm
  have hi := h.phase i
  rw [hp] at hi
  cases protocol_cases hi hm with
  | quiet hok =>
    cases m with
    | commit db' p => exact hok.1.elim
    | _ => exact hok
  | @marked id mark now outcome hcall hheld hdone =>
    refine ⟨⟨trivial, ?_⟩, .of_free (mark.dest_free outcome)⟩
    rcases updateRow_cases id (mark.set now) s.db with ⟨-, hsame⟩ | ⟨row, hrow, hsave⟩
    · rw [hsame]
      exact Kept.refl _ _ _
    · rw [hsave]
      exact .of_write hheld (find_put (mark_id mark now hrow))
  | saved hcall hfind hheld hrow =>
    subst hrow
    exact ⟨⟨trivial, .of_write hheld (find_put (merge_id _ _ hfind))⟩, .of_free trivial⟩

theorem respects_of_quiet
    (hm : protocol providers call i l (s.phase i) s.db = some m) (hquiet : ∀ db p, m ≠ .commit db p) :
    Respects call s (i, l) := by
  cases l with
  | write now outcome =>
    simp only [Respects]
    split
    · rename_i id errorMessage hcall hp
      intro hdone
      simp only [protocol, hcall, hp, jobMove, hdone, if_true, Option.some.injEq] at hm
      exact absurd hm.symm (hquiet _ _)
    · trivial
  | save l =>
    cases l with
    | commit =>
      simp only [Respects]
      split
      · rename_i id companyId now entity seen row hcall hp
        simp only [protocol, hcall, hp, markReadMove, RowAccess.saveMove, Option.some.injEq] at hm
        exact absurd hm.symm (hquiet _ _)
      · trivial
    | _ => trivial
  | _ => trivial

/-- A step undoes nothing exactly when it meets the condition. -/
theorem staysSent_step_iff {l : ℕ × Label} (h : Inv call s)
    (hs : (machine providers call).step s l = some s') :
    StaysSent s.db s'.db ↔ Respects call s l := by
  obtain ⟨i, l⟩ := l
  obtain ⟨m, hm, hmove⟩ := Shared.step_move hs
  have hi := h.phase i
  generalize hp : s.phase i = p at hi hm
  cases protocol_cases hi hm with
  | quiet hok =>
    rw [hok.db_eq hmove]
    refine ⟨fun _ => respects_of_quiet (hp ▸ hm) fun db p hcommit => ?_, fun _ => .refl _⟩
    rw [hcommit] at hok
    exact hok.1
  | @marked id mark now outcome hcall hheld hdone =>
    cases hmove
    show StaysSent s.db (updateRow id (mark.set now) s.db) ↔ _
    rcases updateRow_cases id (mark.set now) s.db with ⟨hnone, hsame⟩ | ⟨row, hrow, hsave⟩
    · rw [hsame]
      refine ⟨fun _ => ?_, fun _ => .refl _⟩
      cases mark <;> simp [Respects, hcall, hp, hnone]
    · rw [hsave, staysSent_save_iff (mark_id mark now hrow) hrow, keepsSent_mark_iff]
      cases mark <;> simp [Respects, hcall, hp, hrow, hdone]
  | saved hcall hfind hheld hrow =>
    cases hmove
    subst hrow
    show StaysSent s.db (s.db.save _) ↔ _
    rw [staysSent_save_iff (merge_id _ _ hfind) hfind, keepsSent_merge_iff]
    simp [Respects, hcall, hp, hfind]

end

/-! A notification that is delivered while it is read. -/

namespace NotificationDemo

def notification : Notification :=
  { id := 1, companyId := 10, eventType := "payment.confirmed", title := "Payment received: PAY-1"
    body := "Payment PAY-1 for 50.00 USD has been confirmed."
    data := { paymentId := 3, paymentNumber := "PAY-1", direction := .Receipt, amount := 5000
              currency := "USD" }
    sourceEventId := 4 }

def db : Notifications := .ofRows [notification]

def now : Instant := { date := ⟨2026, 3, 1⟩, millis := 0 }

def calls : ℕ → Call
  | 0 => .job 1
  | _ => .markRead 1 10 now

def deliver : List (ℕ × Label) := [(0, .read), (0, .deliver none), (0, .lock), (0, .write now .done)]

def save : List (ℕ × Label) := [(1, .save .reread), (1, .save .update), (1, .save .commit)]

def seen (s : Shared Notifications Uuid Phase) : Option (NotificationStatus × Option Instant) :=
  (s.db.find? 1).map fun r => (r.status, r.readAt)

end NotificationDemo

end NotificationsService

end FashionErp
