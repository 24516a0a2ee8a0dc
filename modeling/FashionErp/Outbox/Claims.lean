/-
Whether two publishers ever publish one event.

`claimBatch` locks the rows it reads, skips the locked ones and changes nothing, and
the locks are gone before the first event of the batch is published.
-/
import FashionErp.Outbox.Publisher

namespace FashionErp

open Lib Lib.Tx

namespace OutboxPublisherService

variable {n : ℕ}

/-! ## Claims that do not overlap -/

def Publisher.inFlight : Publisher → List OutboxEvent
  | .claiming _ => []
  | p => p.events

def ClaimsApart (batchSize : ℕ) (w : World n) : Step n → Prop
  | .claim i now scan => ∀ event ∈ claimBatch batchSize now (w.Locked i) scan,
      ∀ j, event.id ∉ (w.publisher j).inFlight.map (·.id)
  | _ => True

instance (batchSize : ℕ) (w : World n) (l : Step n) : Decidable (ClaimsApart batchSize w l) := by
  unfold ClaimsApart
  split <;> infer_instance

/-- The database does every update it is asked for, and says so. -/
def Recorded : Step n → Prop
  | .markPublished _ _ outcome => outcome = .done
  | .markFailed _ _ outcome => outcome = .done
  | _ => True

instance (l : Step n) : Decidable (Recorded l) := by
  unfold Recorded
  split <;> infer_instance

def Reliable : Step n → Prop
  | .publish _ answer => answer = .accepted
  | .crash _ => False
  | l => Recorded l

instance (l : Step n) : Decidable (Reliable l) := by
  unfold Reliable
  split <;> infer_instance

def World.timesPublished (w : World n) (event : OutboxEvent) : ℕ :=
  w.accepted.countP fun request => request.value.eventId = event.eventId

/-- What claims that do not overlap keep: no event is in two hands, and none in
anybody's hands is `PUBLISHED`. -/
structure Apart (w : World n) : Prop where
  nodup : ∀ i, ((w.publisher i).events.map (·.id)).Nodup
  disjoint : ∀ i j, i ≠ j → ∀ e ∈ (w.publisher i).events, ∀ e' ∈ (w.publisher j).events,
    e.id ≠ e'.id
  unpublished : ∀ i, ∀ e ∈ (w.publisher i).events, ∀ row ∈ w.db.paying.outboxEvents.rows,
    row.id = e.id → row.status ≠ .Published

variable {w w' : World n} {batchSize : ℕ} {i : Fin n} {change : OutboxEvent → OutboxEvent}
  {p : Publisher}

theorem Apart.setPublisher (h : Apart w) (i : Fin n) (hnodup : (p.events.map (·.id)).Nodup)
    (hothers : ∀ j, j ≠ i → ∀ e ∈ p.events, ∀ e' ∈ (w.publisher j).events, e.id ≠ e'.id)
    (hunpublished : ∀ e ∈ p.events, ∀ row ∈ w.db.paying.outboxEvents.rows, row.id = e.id → row.status ≠ .Published) :
    Apart (w.setPublisher i p) := by
  have hself := w.setPublisher_self i p
  have hother : ∀ j, j ≠ i → (w.setPublisher i p).publisher j = w.publisher j :=
    fun j hj => w.setPublisher_ne i p hj
  refine ⟨fun j => ?_, fun j k hjk e he e' he' => ?_, fun j e he => ?_⟩
  · by_cases hj : j = i
    · rw [hj, hself]
      exact hnodup
    · rw [hother j hj]
      exact h.nodup j
  · by_cases hj : j = i
    · subst hj
      rw [hself] at he
      rw [hother k (Ne.symm hjk)] at he'
      exact hothers k (Ne.symm hjk) e he e' he'
    · rw [hother j hj] at he
      by_cases hk : k = i
      · rw [hk, hself] at he'
        exact (hothers j hj e' he' e he).symm
      · rw [hother k hk] at he'
        exact h.disjoint j k hjk e he e' he'
  · by_cases hj : j = i
    · rw [hj, hself] at he
      exact hunpublished e he
    · rw [hother j hj] at he
      exact h.unpublished j e he

theorem Apart.goOn (h : Apart w) (i : Fin n)
    (hsub : p.events.Sublist (w.publisher i).events) : Apart (w.setPublisher i p) := by
  apply h.setPublisher i
  · exact (h.nodup i).sublist (hsub.map _)
  · intro j hj e he e' he'
    exact h.disjoint i j (Ne.symm hj) e (hsub.subset he) e' he'
  · intro e he
    exact h.unpublished i e (hsub.subset he)

theorem Apart.of_rows (h : Apart w) {db' : Db}
    (hrows : ∀ row ∈ db'.paying.outboxEvents.rows, row.status = .Published → (∃ row₀ ∈ w.db.paying.outboxEvents.rows, row₀.id = row.id ∧ row₀.status = .Published) ∨ ∀ i, ∀ e ∈ (w.publisher i).events, row.id ≠ e.id) :
    Apart { w with db := db' } := by
  refine ⟨h.nodup, h.disjoint, fun i e he row hrow hid hstatus => ?_⟩
  rcases hrows row hrow hstatus with ⟨row₀, hrow₀, hid₀, hstatus₀⟩ | hnobody
  · exact h.unpublished i e he row₀ hrow₀ (hid₀.trans hid) hstatus₀
  · exact hnobody i e he hid

theorem Apart.claim (h : Apart w) {now : Instant} {scan : List OutboxEvent}
    (hperm : scan.Perm w.db.paying.outboxEvents.rows)
    (hapart : ClaimsApart batchSize w (.claim i now scan)) :
    Apart (w.setPublisher i (.claiming (claimBatch batchSize now (w.Locked i) scan))) := by
  apply h.setPublisher i
  · show ((claimBatch batchSize now (w.Locked i) scan).map (·.id)).Nodup
    have hrows : (scan.map (·.id)).Nodup := (hperm.map _).nodup_iff.2 w.db.paying.outboxEvents.nodup
    have hsorted := (List.perm_insertionSort
      (fun a b : OutboxEvent => a.availableAt ≤ b.availableAt)
      (scan.filter fun event => Claimable now event ∧ ¬ w.Locked i event.id)).map (·.id)
    refine List.Nodup.sublist ((List.take_sublist _ _).map _) (hsorted.nodup_iff.2 ?_)
    exact hrows.sublist (List.filter_sublist.map _)
  · intro j hj e he e' he' hid
    have hfree := (mem_of_mem_claimBatch he).2.2
    have hflight := hapart e he j
    cases hphase : w.publisher j with
    | idle =>
      rw [hphase] at he'
      exact absurd he' List.not_mem_nil
    | claiming batch =>
      -- The rows of an open claim are skipped.
      rw [hphase] at he'
      refine hfree ⟨j, hj, ?_⟩
      rw [hphase, hid]
      exact List.mem_map_of_mem he'
    | publishing claimed =>
      rw [hphase] at he' hflight
      exact hflight (hid ▸ List.mem_map_of_mem he')
    | acknowledged event rest =>
      rw [hphase] at he' hflight
      exact hflight (hid ▸ List.mem_map_of_mem he')
    | failed event rest =>
      rw [hphase] at he' hflight
      exact hflight (hid ▸ List.mem_map_of_mem he')
  · intro e he row hrow hid hstatus
    obtain ⟨hscan, ⟨hclaimable, -⟩, -⟩ := mem_of_mem_claimBatch he
    obtain rfl := Table.eq_of_key hrow (hperm.mem_iff.1 hscan) hid
    rw [hstatus] at hclaimable
    rcases hclaimable with hpending | hfailed
    · cases hpending
    · cases hfailed

theorem Announced.rows {db db' : Db} (h : Announced db db') :
    ∃ event : OutboxEvent, event.status = .Pending ∧
      (∀ e ∈ db.paying.outboxEvents.rows, e.id ≠ event.id ∧ e.eventId ≠ event.eventId) ∧
      ∀ e, e ∈ db'.paying.outboxEvents.rows ↔ e = event ∨ e ∈ db.paying.outboxEvents.rows := by
  obtain ⟨_, event, _, _, _, hevent, -, -, hfresh, hfreshEvent, hevents⟩ := h.entry
  have hid := Table.find?_eq_none.1 hfresh
  refine ⟨event, by rw [hevent]; rfl, fun e he => ⟨hid e he, hfreshEvent e he⟩, fun e => ?_⟩
  rw [hevents, Table.mem_save]
  exact or_congr_right (and_iff_left_of_imp fun he => hid e he)

variable {rest : List OutboxEvent} {event : OutboxEvent}

theorem Apart.recorded (h : Apart w)
    (hphase : (w.publisher i).events = event :: rest) (hkeeps : KeepsEnvelope change) :
    Apart ((w.update .done event.id change).setPublisher i (continueTick rest)) := by
  have hsub : (continueTick rest).events.Sublist (w.publisher i).events := by
    rw [continueTick_events, hphase]
    exact List.sublist_cons_self event rest
  have hnobody : ∀ j, ∀ e ∈ ((w.setPublisher i (continueTick rest)).publisher j).events,
      event.id ≠ e.id := by
    intro j e he hid
    by_cases hj : j = i
    · rw [hj, w.setPublisher_self, continueTick_events] at he
      have hnodup := h.nodup i
      rw [hphase, List.map_cons, List.nodup_cons] at hnodup
      exact hnodup.1 (hid ▸ List.mem_map_of_mem he)
    · rw [w.setPublisher_ne i _ hj] at he
      refine h.disjoint i j (Ne.symm hj) event ?_ e he hid
      rw [hphase]
      exact List.mem_cons_self
  show Apart { w.setPublisher i (continueTick rest) with db := updateEvent event.id change w.db }
  refine (h.goOn i hsub).of_rows fun row hrow hstatus => ?_
  rw [updateEvent_rows hkeeps, List.mem_map] at hrow
  obtain ⟨row₀, hrow₀, rfl⟩ := hrow
  by_cases hid : row₀.id = event.id
  · rw [if_pos hid]
    refine .inr fun j e he => ?_
    rw [hkeeps.id, hid]
    exact hnobody j e he
  · rw [if_neg hid] at hstatus ⊢
    exact .inl ⟨row₀, hrow₀, rfl, hstatus⟩

theorem publish_eq (w : World n) (i : Fin n) (answer : BrokerAnswer) (event : OutboxEvent)
    (rest : List OutboxEvent) :
    ∃ accepted p, w.publish i answer event rest =
      { w with accepted := accepted }.setPublisher i p ∧ p.events = event :: rest := by
  unfold World.publish
  cases publishRequest event with
  | none => exact ⟨w.accepted, _, rfl, rfl⟩
  | some request => cases answer <;> exact ⟨_, _, rfl, rfl⟩

theorem Apart.step {l : Step n} (h : Apart w) (hapart : ClaimsApart batchSize w l)
    (hrecorded : Recorded l) (hs : step batchSize w l = some w') : Apart w' := by
  cases l with
  | create companyId userId now dto key =>
    cases hs
    apply h.of_rows
    intro row hrow hstatus
    rcases createStep_cases companyId userId now dto key w.db with hsame | hannounced
    · rw [hsame] at hrow
      exact .inl ⟨row, hrow, rfl, hstatus⟩
    · obtain ⟨event, hpending, -, hmem⟩ := hannounced.rows
      rcases (hmem row).1 hrow with rfl | hrow
      · rw [hpending] at hstatus
        cases hstatus
      · exact .inl ⟨row, hrow, rfl, hstatus⟩
  | elsewhere db =>
    cases hs
    exact h.of_rows fun row hrow hstatus => .inl ⟨row, hrow, rfl, hstatus⟩
  | claim i now scan =>
    simp only [OutboxPublisherService.step] at hs
    split at hs
    · split at hs
      · rename_i hperm
        cases hs
        exact h.claim hperm hapart
      · cases hs
    · cases hs
  | commitClaim i =>
    simp only [OutboxPublisherService.step] at hs
    split at hs
    · rename_i batch hphase
      cases hs
      apply h.goOn i
      rw [continueTick_events, hphase]
      exact List.Sublist.refl batch
    · cases hs
  | publish i answer =>
    simp only [OutboxPublisherService.step] at hs
    split at hs
    · rename_i event rest hphase
      cases hs
      obtain ⟨accepted, p, heq, hevents⟩ := publish_eq w i answer event rest
      have hsame : Apart { w with accepted := accepted } := ⟨h.nodup, h.disjoint, h.unpublished⟩
      rw [heq]
      apply hsame.goOn i
      rw [hevents]
      show (event :: rest).Sublist (w.publisher i).events
      rw [hphase]
      exact List.Sublist.refl _
    · cases hs
  | markPublished i now outcome =>
    obtain rfl : outcome = .done := hrecorded
    simp only [OutboxPublisherService.step] at hs
    split at hs
    · rename_i event rest hphase
      split at hs
      · cases hs
      · cases hs
        exact h.recorded (by rw [hphase]; rfl) (setPublished_keeps now)
    · cases hs
  | markFailed i now outcome =>
    obtain rfl : outcome = .done := hrecorded
    simp only [OutboxPublisherService.step] at hs
    split at hs
    · rename_i event rest hphase
      split at hs
      · cases hs
      · cases hs
        exact h.recorded (by rw [hphase]; rfl) (setFailed_keeps now event)
    · cases hs
  | crash i =>
    cases hs
    exact h.goOn i (List.nil_sublist _)

/-- An event that is `PUBLISHED` in the one database is so in the other. -/
def StaysPublished (db db' : Db) : Prop :=
  ∀ e ∈ db.paying.outboxEvents.rows, e.status = .Published →
    ∃ e' ∈ db'.paying.outboxEvents.rows, e'.id = e.id ∧ e'.status = .Published

theorem StaysPublished.refl (db : Db) : StaysPublished db db :=
  fun e he hstatus => ⟨e, he, rfl, hstatus⟩

theorem StaysPublished.trans {db₁ db₂ db₃ : Db} (h : StaysPublished db₁ db₂)
    (h' : StaysPublished db₂ db₃) : StaysPublished db₁ db₃ := by
  intro e he hstatus
  obtain ⟨e₂, he₂, hid₂, hstatus₂⟩ := h e he hstatus
  obtain ⟨e₃, he₃, hid₃, hstatus₃⟩ := h' e₂ he₂ hstatus₂
  exact ⟨e₃, he₃, hid₃.trans hid₂, hstatus₃⟩

theorem StaysPublished.updateEvent {db : Db} {id : Uuid} (hkeeps : KeepsEnvelope change)
    (hchange : ∀ row ∈ db.paying.outboxEvents.rows, row.id = id → row.status = .Published → (change row).status = .Published) :
    StaysPublished db (updateEvent id change db) := by
  intro e he hstatus
  refine ⟨if e.id = id then change e else e, ?_, ?_, ?_⟩
  · rw [updateEvent_rows hkeeps]
    exact List.mem_map_of_mem he
  · split
    · exact hkeeps.id e
    · rfl
  · split
    · exact hchange e he ‹_› hstatus
    · exact hstatus

theorem Apart.staysPublished {l : Step n} (h : Apart w)
    (hs : OutboxPublisherService.step batchSize w l = some w') : StaysPublished w.db w'.db := by
  cases l with
  | create companyId userId now dto key =>
    cases hs
    intro row hrow hstatus
    refine ⟨row, ?_, rfl, hstatus⟩
    rcases createStep_cases companyId userId now dto key w.db with hsame | hannounced
    · show row ∈ (createStep companyId userId now dto key w.db).paying.outboxEvents.rows
      rw [hsame]
      exact hrow
    · obtain ⟨event, -, -, hmem⟩ := hannounced.rows
      exact (hmem row).2 (.inr hrow)
  | elsewhere db =>
    cases hs
    exact fun row hrow hstatus => ⟨row, hrow, rfl, hstatus⟩
  | claim i now scan =>
    simp only [OutboxPublisherService.step] at hs
    split at hs
    · split at hs
      · cases hs
        exact .refl w.db
      · cases hs
    · cases hs
  | commitClaim i =>
    simp only [OutboxPublisherService.step] at hs
    split at hs
    · cases hs
      exact .refl w.db
    · cases hs
  | publish i answer =>
    simp only [OutboxPublisherService.step] at hs
    split at hs
    · rename_i event rest hphase
      cases hs
      obtain ⟨accepted, p, heq, -⟩ := publish_eq w i answer event rest
      rw [heq]
      exact .refl w.db
    · cases hs
  | markPublished i now outcome =>
    simp only [OutboxPublisherService.step] at hs
    split at hs
    · rename_i event rest hphase
      split at hs
      · cases hs
      · cases hs
        show StaysPublished w.db (w.update outcome event.id (setPublished now)).db
        unfold World.update
        split
        · exact .refl w.db
        · exact .updateEvent (setPublished_keeps now) fun _ _ _ _ => rfl
    · cases hs
  | markFailed i now outcome =>
    simp only [OutboxPublisherService.step] at hs
    split at hs
    · rename_i event rest hphase
      split at hs
      · cases hs
      · cases hs
        show StaysPublished w.db (w.update outcome event.id (setFailed now event)).db
        unfold World.update
        split
        · exact .refl w.db
        · -- Nobody has a `PUBLISHED` event in hand.
          refine .updateEvent (setFailed_keeps now event) fun row hrow hid hstatus => ?_
          refine absurd hstatus (h.unpublished i event ?_ row hrow hid)
          rw [hphase]
          exact List.mem_cons_self
    · cases hs
  | crash i =>
    cases hs
    exact .refl w.db

/-! ## Each event once -/

def World.Acknowledged (w : World n) (id : Uuid) : Prop :=
  ∃ i event rest, w.publisher i = .acknowledged event rest ∧ event.id = id

/-- What makes every event be published once: one that is published is `PUBLISHED`
or about to be recorded. -/
structure SentOnce (w : World n) : Prop where
  apart : Apart w
  inv : OutboxInv w
  eventIds : ∀ e ∈ w.db.paying.outboxEvents.rows, ∀ e' ∈ w.db.paying.outboxEvents.rows,
    e.eventId = e'.eventId → e.id = e'.id
  known : ∀ request ∈ w.accepted,
    ∃ row ∈ w.db.paying.outboxEvents.rows, row.eventId = request.value.eventId
  sent : ∀ row ∈ w.db.paying.outboxEvents.rows, 0 < w.timesPublished row →
    row.status = .Published ∨ w.Acknowledged row.id
  once : ∀ row ∈ w.db.paying.outboxEvents.rows, w.timesPublished row ≤ 1

theorem timesPublished_congr {e e' : OutboxEvent} (hw : w'.accepted = w.accepted)
    (he : e'.eventId = e.eventId) : w'.timesPublished e' = w.timesPublished e := by
  unfold World.timesPublished
  rw [hw, he]

theorem World.Acknowledged.setPublisher {id : Uuid} (h : w.Acknowledged id) (p : Publisher)
    (hi : ∀ event rest, w.publisher i ≠ .acknowledged event rest) :
    (w.setPublisher i p).Acknowledged id := by
  obtain ⟨j, event, rest, hphase, hid⟩ := h
  have hj : j ≠ i := fun hj => hi event rest (hj ▸ hphase)
  exact ⟨j, event, rest, (w.setPublisher_ne i p hj).trans hphase, hid⟩

theorem SentOnce.carry (h : SentOnce w) (hapart : Apart w') (hinv : OutboxInv w')
    (haccepted : w'.accepted = w.accepted)
    (hrows : w'.db.paying.outboxEvents.rows.map (fun e => (e.id, e.eventId)) = w.db.paying.outboxEvents.rows.map fun e => (e.id, e.eventId))
    (hsent : ∀ row ∈ w'.db.paying.outboxEvents.rows, 0 < w'.timesPublished row → row.status = .Published ∨ w'.Acknowledged row.id) :
    SentOnce w' := by
  have hback : ∀ e ∈ w'.db.paying.outboxEvents.rows,
      ∃ e₀ ∈ w.db.paying.outboxEvents.rows, e₀.id = e.id ∧ e₀.eventId = e.eventId := by
    intro e he
    have hmem := List.mem_map_of_mem (f := fun e : OutboxEvent => (e.id, e.eventId)) he
    rw [hrows, List.mem_map] at hmem
    obtain ⟨e₀, he₀, heq⟩ := hmem
    exact ⟨e₀, he₀, congrArg Prod.fst heq, congrArg Prod.snd heq⟩
  refine ⟨hapart, hinv, fun e he e' he' heq => ?_, fun r hr => ?_, hsent, fun e he => ?_⟩
  · obtain ⟨e₀, he₀, hid, hevent⟩ := hback e he
    obtain ⟨e₀', he₀', hid', hevent'⟩ := hback e' he'
    rw [← hid, ← hid']
    exact h.eventIds e₀ he₀ e₀' he₀' (by rw [hevent, hevent', heq])
  · rw [haccepted] at hr
    obtain ⟨row, hrow, heq⟩ := h.known r hr
    have hmem := List.mem_map_of_mem (f := fun e : OutboxEvent => (e.id, e.eventId)) hrow
    rw [← hrows, List.mem_map] at hmem
    obtain ⟨row', hrow', heq'⟩ := hmem
    exact ⟨row', hrow', (congrArg Prod.snd heq').trans heq⟩
  · obtain ⟨e₀, he₀, -, hevent⟩ := hback e he
    rw [timesPublished_congr haccepted hevent.symm]
    exact h.once e₀ he₀

theorem SentOnce.goOn (h : SentOnce w) (hapart : Apart (w.setPublisher i p))
    (hinv : OutboxInv (w.setPublisher i p))
    (hi : ∀ event rest, w.publisher i ≠ .acknowledged event rest) :
    SentOnce (w.setPublisher i p) := by
  refine h.carry hapart hinv rfl rfl fun row hrow htimes => ?_
  exact (h.sent row hrow htimes).imp_right fun hack => hack.setPublisher p hi

theorem updateEvent_ids (hkeeps : KeepsEnvelope change) (id : Uuid) (db : Db) :
    (updateEvent id change db).paying.outboxEvents.rows.map (fun e => (e.id, e.eventId)) =
      db.paying.outboxEvents.rows.map fun e => (e.id, e.eventId) := by
  rw [updateEvent_rows hkeeps, List.map_map]
  refine List.map_congr_left fun e _ => ?_
  show ((if e.id = id then change e else e).id, (if e.id = id then change e else e).eventId) = _
  split
  · have hevent : (change e).eventId = e.eventId :=
      congrArg EventEnvelope.eventId (hkeeps.toEnvelope e)
    rw [hkeeps.id, hevent]
  · rfl

theorem SentOnce.recorded (h : SentOnce w)
    (hevents : (w.publisher i).events = event :: rest) (hkeeps : KeepsEnvelope change)
    (hinv : OutboxInv ((w.update .done event.id change).setPublisher i (continueTick rest)))
    (hchange : (∀ row, (change row).status = .Published) ∨ ∀ event rest, w.publisher i ≠ .acknowledged event rest) :
    SentOnce ((w.update .done event.id change).setPublisher i (continueTick rest)) := by
  refine h.carry (h.apart.recorded hevents hkeeps) hinv rfl (updateEvent_ids hkeeps event.id w.db)
    fun row hrow htimes => ?_
  have hmem : event ∈ (w.publisher i).events := by
    rw [hevents]
    exact List.mem_cons_self
  change row ∈ (updateEvent event.id change w.db).paying.outboxEvents.rows at hrow
  rw [updateEvent_rows hkeeps, List.mem_map] at hrow
  obtain ⟨row₀, hrow₀, rfl⟩ := hrow
  by_cases hid : row₀.id = event.id
  · rw [if_pos hid] at htimes ⊢
    rcases hchange with hpublished | hnot
    · exact .inl (hpublished row₀)
    · -- Nobody else has the event in hand, so it was not published.
      have heventId : (change row₀).eventId = row₀.eventId :=
        congrArg EventEnvelope.eventId (hkeeps.toEnvelope row₀)
      have hsame : ((w.update .done event.id change).setPublisher i
          (continueTick rest)).timesPublished (change row₀) = w.timesPublished row₀ :=
        timesPublished_congr rfl heventId
      rw [hsame] at htimes
      rcases h.sent row₀ hrow₀ htimes with hstatus | ⟨j, e, es, hphase, hje⟩
      · exact absurd hstatus (h.apart.unpublished i event hmem row₀ hrow₀ hid)
      · have hj : i ≠ j := fun hj => hnot e es (hj ▸ hphase)
        refine absurd (hid.symm.trans hje.symm) (h.apart.disjoint i j hj event hmem e ?_)
        rw [hphase]
        exact List.mem_cons_self
  · rw [if_neg hid] at htimes ⊢
    rcases h.sent row₀ hrow₀ htimes with hstatus | ⟨j, e, es, hphase, hje⟩
    · exact .inl hstatus
    · refine .inr ⟨j, e, es, ?_, hje⟩
      have hj : j ≠ i := by
        intro hj
        rw [hj] at hphase
        rw [hphase] at hevents
        have heq : e = event := (List.cons.inj hevents).1
        exact hid (hje.symm.trans (congrArg OutboxEvent.id heq))
      exact (w.setPublisher_ne i (continueTick rest) hj).trans hphase

theorem SentOnce.accepted (h : SentOnce w)
    (hphase : w.publisher i = .publishing (event :: rest)) {request : KafkaPublishRequest}
    (hrequest : request.value = event.toEnvelope)
    (hw' : w' = { w with accepted := w.accepted ++ [request] }.setPublisher i (.acknowledged event rest))
    (hapart : Apart w') (hinv : OutboxInv w') : SentOnce w' := by
  subst hw'
  have hmem : event ∈ (w.publisher i).events := by
    rw [hphase]
    exact List.mem_cons_self
  obtain ⟨row, hrow, hid, henv⟩ := h.inv.claimed i event hmem
  have heventId : row.eventId = event.eventId := congrArg EventEnvelope.eventId henv
  have hvalue : request.value.eventId = row.eventId := by
    rw [hrequest, heventId]
    rfl
  -- It has not been published before: it is not `PUBLISHED`, and in nobody else's hands.
  have hfirst : w.timesPublished row = 0 := by
    refine Nat.eq_zero_of_not_pos fun htimes => ?_
    rcases h.sent row hrow htimes with hstatus | ⟨j, e, es, hj, hje⟩
    · exact h.apart.unpublished i event hmem row hrow hid hstatus
    · by_cases hij : i = j
      · rw [← hij, hphase] at hj
        cases hj
      · refine h.apart.disjoint i j hij event hmem e ?_ (hid.symm.trans hje.symm)
        rw [hj]
        exact List.mem_cons_self
  have htimes : ∀ x ∈ w.db.paying.outboxEvents.rows,
      World.timesPublished ({ w with accepted := w.accepted ++ [request] }.setPublisher i
        (.acknowledged event rest)) x =
        w.timesPublished x + if x.id = row.id then 1 else 0 := by
    intro x hx
    show (w.accepted ++ [request]).countP _ = _
    rw [List.countP_append, List.countP_singleton]
    refine congrArg₂ (· + ·) rfl (if_congr ?_ rfl rfl)
    rw [decide_eq_true_eq, hvalue]
    constructor
    · intro heq
      exact h.eventIds x hx row hrow heq.symm
    · intro heq
      rw [Table.eq_of_key hx hrow heq]
  refine ⟨hapart, hinv, h.eventIds, fun r hr => ?_, fun x hx hpos => ?_, fun x hx => ?_⟩
  · rcases List.mem_append.1 hr with hr | hr
    · exact h.known r hr
    · rw [List.mem_singleton.1 hr]
      exact ⟨row, hrow, hvalue.symm⟩
  · rw [htimes x hx] at hpos
    by_cases hxrow : x.id = row.id
    · refine .inr ⟨i, event, rest, World.setPublisher_self _ i _, ?_⟩
      rw [hxrow, hid]
    · rw [if_neg hxrow, Nat.add_zero] at hpos
      refine (h.sent x hx hpos).imp_right fun hack => hack.setPublisher _ fun e es he => ?_
      rw [hphase] at he
      cases he
  · rw [htimes x hx]
    split
    · rename_i hxrow
      rw [Table.eq_of_key hx hrow hxrow, hfirst]
    · exact h.once x hx

theorem SentOnce.step {l : Step n} (h : SentOnce w) (hclaims : ClaimsApart batchSize w l)
    (hreliable : Reliable l) (hs : OutboxPublisherService.step batchSize w l = some w') :
    SentOnce w' := by
  have hrecorded : Recorded l := by
    cases l with
    | markPublished i now outcome => exact hreliable
    | markFailed i now outcome => exact hreliable
    | _ => trivial
  have hapart := h.apart.step hclaims hrecorded hs
  have hinv := h.inv.step hs
  cases l with
  | create companyId userId now dto key =>
    cases hs
    rcases createStep_cases companyId userId now dto key w.db with hsame | hannounced
    · rw [hsame]
      exact h
    · obtain ⟨event, -, hnew, hmem⟩ := hannounced.rows
      -- No message is about the new event.
      have hunsent : w.timesPublished event = 0 := by
        refine List.countP_eq_zero.2 fun r hr heq => ?_
        obtain ⟨row, hrow, hvalue⟩ := h.known r hr
        exact (hnew row hrow).2 (hvalue.trans (of_decide_eq_true heq))
      refine ⟨hapart, hinv, fun e he e' he' heq => ?_, fun r hr => ?_, fun e he hpos => ?_,
        fun e he => ?_⟩
      · rcases (hmem e).1 he with rfl | he
        · rcases (hmem e').1 he' with rfl | he'
          · rfl
          · exact absurd heq.symm (hnew e' he').2
        · rcases (hmem e').1 he' with rfl | he'
          · exact absurd heq (hnew e he).2
          · exact h.eventIds e he e' he' heq
      · obtain ⟨row, hrow, hvalue⟩ := h.known r hr
        exact ⟨row, (hmem row).2 (.inr hrow), hvalue⟩
      · rcases (hmem e).1 he with rfl | he
        · exact absurd hunsent (Nat.pos_iff_ne_zero.1 hpos)
        · exact h.sent e he hpos
      · rcases (hmem e).1 he with rfl | he
        · exact hunsent.le.trans (Nat.zero_le 1)
        · exact h.once e he
  | elsewhere db =>
    cases hs
    exact h.carry hapart hinv rfl rfl h.sent
  | claim i now scan =>
    simp only [OutboxPublisherService.step] at hs
    split at hs
    · rename_i hphase
      split at hs
      · cases hs
        exact h.goOn hapart hinv fun e es he => by rw [hphase] at he; cases he
      · cases hs
    · cases hs
  | commitClaim i =>
    simp only [OutboxPublisherService.step] at hs
    split at hs
    · rename_i batch hphase
      cases hs
      exact h.goOn hapart hinv fun e es he => by rw [hphase] at he; cases he
    · cases hs
  | publish i answer =>
    obtain rfl : answer = .accepted := hreliable
    simp only [OutboxPublisherService.step] at hs
    split at hs
    · rename_i event rest hphase
      have hw' := (Option.some.inj hs).symm
      unfold World.publish at hw'
      cases hrequest : publishRequest event with
      | none =>
        rw [hrequest] at hw'
        subst hw'
        exact h.goOn hapart hinv fun e es he => by rw [hphase] at he; cases he
      | some request =>
        rw [hrequest] at hw'
        obtain ⟨topic, -, hvalue⟩ := Option.map_eq_some_iff.1 hrequest
        exact h.accepted hphase (by rw [← hvalue]) hw' hapart hinv
    · cases hs
  | markPublished i now outcome =>
    obtain rfl : outcome = .done := hreliable
    simp only [OutboxPublisherService.step] at hs
    split at hs
    · rename_i event rest hphase
      split at hs
      · cases hs
      · cases hs
        exact h.recorded (by rw [hphase]; rfl) (setPublished_keeps now) hinv (.inl fun _ => rfl)
    · cases hs
  | markFailed i now outcome =>
    obtain rfl : outcome = .done := hreliable
    simp only [OutboxPublisherService.step] at hs
    split at hs
    · rename_i event rest hphase
      split at hs
      · cases hs
      · cases hs
        refine h.recorded (by rw [hphase]; rfl) (setFailed_keeps now event) hinv (.inr ?_)
        exact fun e es he => by rw [hphase] at he; cases he
    · cases hs
  | crash i => exact absurd hreliable id

theorem BeforeEvents.sentOnce (h : BeforeEvents w) (haccepted : w.accepted = []) : SentOnce w := by
  refine ⟨⟨fun i => ?_, fun i j _ e he => ?_, fun i e he => ?_⟩, h.inv, ?_, ?_, ?_, ?_⟩
  · rw [h.idle i]
    exact List.nodup_nil
  · rw [h.idle i] at he
    exact absurd he List.not_mem_nil
  · rw [h.idle i] at he
    exact absurd he List.not_mem_nil
  · simp [h.events]
  · simp [haccepted]
  · simp [h.events]
  · simp [h.events]

/-- As long as no claim reads an event that is being published: with processes that
do not crash and a broker that accepts every message, no event is published twice; and
whatever the broker does, an event that is `PUBLISHED` stays so. -/
theorem claims_apart_publish_once {batchSize : ℕ} {w₀ : World n} (h₀ : BeforeEvents w₀)
    (haccepted : w₀.accepted = []) :
    (∀ ls w, (machine n batchSize).RunWith (fun w l => ClaimsApart batchSize w l ∧ Reliable l)
      w₀ ls w → ∀ event ∈ w.db.paying.outboxEvents.rows, w.timesPublished event ≤ 1) ∧
    ∀ ls w ls' w',
      (machine n batchSize).RunWith (fun w l => ClaimsApart batchSize w l ∧ Recorded l) w₀ ls w →
      (machine n batchSize).RunWith (fun w l => ClaimsApart batchSize w l ∧ Recorded l) w ls' w' →
      StaysPublished w.db w'.db := by
  constructor
  · intro ls w hrun
    have hinv := hrun.invariant (h₀.sentOnce haccepted) fun _ _ _ h hc hs => h.step hc.1 hc.2 hs
    exact hinv.once
  · intro ls w ls' w' hrun hrun'
    have hapart : Apart w := hrun.invariant (h₀.sentOnce haccepted).apart
      fun _ _ _ h hc hs => h.step hc.1 hc.2 hs
    have hboth : StaysPublished w.db w'.db ∧ Apart w' := by
      refine hrun'.invariant (I := fun v => StaysPublished w.db v.db ∧ Apart v)
        ⟨.refl w.db, hapart⟩ fun _ _ _ h hc hs => ?_
      exact ⟨h.1.trans (h.2.staysPublished hs), h.2.step hc.1 hc.2 hs⟩
    exact hboth.1

instance (db db' : Db) : Decidable (StaysPublished db db') :=
  inferInstanceAs (Decidable (∀ e ∈ db.paying.outboxEvents.rows, e.status = .Published →
    ∃ e' ∈ db'.paying.outboxEvents.rows, e'.id = e.id ∧ e'.status = .Published))

theorem claims_apart_publish_once_receipt :
    (∃ ls w, (machine 2 50).RunWith (fun w l => ClaimsApart 50 w l ∧ Reliable l)
      (OutboxDemo.world 2) ls w ∧ w.accepted.length = 1 ∧
      ∀ event ∈ w.db.paying.outboxEvents.rows, w.timesPublished event ≤ 1) ∧
    ∀ ls w ls' w',
      (machine 2 50).RunWith (fun w l => ClaimsApart 50 w l ∧ Recorded l) (OutboxDemo.world 2) ls w →
      (machine 2 50).RunWith (fun w l => ClaimsApart 50 w l ∧ Recorded l) w ls' w' →
      StaysPublished w.db w'.db := by
  obtain ⟨w, hrun, hw⟩ := Machine.exists_runWith (machine 2 50)
    (fun w l => ClaimsApart 50 w l ∧ Reliable l) (OutboxDemo.world 2)
    [OutboxDemo.receipt, .claim 0 OutboxDemo.now OutboxDemo.events,
      .claim 1 OutboxDemo.now OutboxDemo.events, .commitClaim 1, .commitClaim 0,
      .publish 0 .accepted, .markPublished 0 OutboxDemo.later .done]
    (fun w => w.accepted.length = 1) (by decide +kernel)
  have honce := @claims_apart_publish_once 2 50 (OutboxDemo.world 2) ⟨rfl, rfl, fun _ => rfl⟩ rfl
  exact ⟨⟨_, w, hrun, of_decide_eq_true hw, honce.1 _ w hrun⟩, honce.2⟩

theorem overlapping_claims_publish_twice :
    (∃ ls w, (machine 2 50).RunWith (fun _ l => Reliable l) (OutboxDemo.world 2) ls w ∧
      ∃ event ∈ w.db.paying.outboxEvents.rows, w.timesPublished event = 2) ∧
    ∃ ls w ls' w', (machine 2 50).RunWith (fun _ l => Recorded l) (OutboxDemo.world 2) ls w ∧
      (machine 2 50).RunWith (fun _ l => Recorded l) w ls' w' ∧ ¬ StaysPublished w.db w'.db := by
  constructor
  · obtain ⟨w, hrun, hw⟩ := Machine.exists_runWith (machine 2 50) (fun _ l => Reliable l)
      (OutboxDemo.world 2)
      [OutboxDemo.receipt, .claim 0 OutboxDemo.now OutboxDemo.events, .commitClaim 0,
        .claim 1 OutboxDemo.now OutboxDemo.events, .commitClaim 1, .publish 0 .accepted,
        .markPublished 0 OutboxDemo.later .done, .publish 1 .accepted]
      (fun w => w.db.paying.outboxEvents.rows.any fun event => w.timesPublished event = 2)
      (by decide +kernel)
    obtain ⟨event, hevent, htwice⟩ := List.any_eq_true.1 hw
    exact ⟨_, w, hrun, event, hevent, of_decide_eq_true htwice⟩
  · obtain ⟨w, hrun, hw⟩ := Machine.exists_runWith (machine 2 50) (fun _ l => Recorded l)
      (OutboxDemo.world 2)
      [OutboxDemo.receipt, .claim 0 OutboxDemo.now OutboxDemo.events, .commitClaim 0,
        .claim 1 OutboxDemo.now OutboxDemo.events, .commitClaim 1, .publish 0 .accepted,
        .markPublished 0 OutboxDemo.later .done]
      (fun w => ((machine 2 50).execWith (fun _ l => Recorded l) w
        [.publish 1 .refused, .markFailed 1 OutboxDemo.later .done]).any
          fun w' => ¬ StaysPublished w.db w'.db)
      (by decide +kernel)
    obtain ⟨w', hrun', hnot⟩ := Machine.exists_runWith (machine 2 50) (fun _ l => Recorded l) w _ _ hw
    exact ⟨_, w, _, w', hrun, hrun', of_decide_eq_true hnot⟩

end OutboxPublisherService

end FashionErp
