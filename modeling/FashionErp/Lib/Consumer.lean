/-
Consumers of a stream of events that is delivered at least once.

A handler of an event looks for the mark an earlier handler has left, reads the targets of
the event, finds or inserts a row for each target, puts a job for the row on a queue, and
leaves its mark at the end.
-/
import FashionErp.Lib.Concurrent
import Mathlib.Data.List.Nodup

namespace Lib

structure Consumer (ω ε τ κ ρ : Type) where
  eventId : ε → κ
  targets : ω → ε → List τ
  row : ℕ → τ → ε → ρ
  id : ρ → ℕ
  key : ρ → τ × κ
  id_row : ∀ n t e, id (row n t e) = n
  key_row : ∀ n t e, key (row n t e) = (t, eventId e)

structure ConsumerDb (ω τ κ ρ : Type) where
  world : ω
  rows : List ρ := []
  nextId : ℕ := 0
  jobs : List ℕ := []
  marks : List (κ × List τ) := []

inductive CallOutcome
  | done
  /-- It is done, and the caller sees an error. -/
  | unacknowledged
  | lost
  deriving DecidableEq

inductive ConsumerCall (ω ε : Type)
  | handle (e : ε)
  | change (f : ω → ω)
  /-- A message that is skipped. -/
  | skip

inductive Handling (τ : Type)
  | received
  /-- No mark was found; the targets are read next. -/
  | unmarked
  | working (targets todo : List τ)
  | inserting (targets : List τ) (t : τ) (todo : List τ)
  | duplicate (targets : List τ) (t : τ) (todo : List τ)
  | enqueueing (targets : List τ) (t : τ) (todo : List τ) (id : ℕ)
  | ended

inductive ConsumerLabel
  | findMark
  | readTargets
  | findRow
  | insert (outcome : CallOutcome)
  | refetch
  | enqueue (outcome : CallOutcome)
  | mark (outcome : CallOutcome)
  | crash
  | change

namespace Consumer

variable {ω ε τ κ ρ : Type} [DecidableEq τ] [DecidableEq κ] (c : Consumer ω ε τ κ ρ)

def find? (k : τ × κ) (db : ConsumerDb ω τ κ ρ) : Option ρ :=
  db.rows.find? fun r => c.key r = k

def Marked (e : ε) (db : ConsumerDb ω τ κ ρ) : Prop := ∃ m ∈ db.marks, m.1 = c.eventId e

omit [DecidableEq τ] in
instance (e : ε) (db : ConsumerDb ω τ κ ρ) : Decidable (c.Marked e db) :=
  inferInstanceAs (Decidable (∃ m ∈ db.marks, m.1 = c.eventId e))

def goOn (outcome : CallOutcome) (p : Handling τ) : Handling τ :=
  if outcome = .done then p else .ended

def handle (e : ε) : ConsumerLabel → Handling τ → ConsumerDb ω τ κ ρ →
    Option (Move (ConsumerDb ω τ κ ρ) Unit (Handling τ))
  | .findMark, .received, db =>
    if c.Marked e db then some (.leave .ended) else some (.goto .unmarked)
  | .readTargets, .unmarked, db =>
    some (.goto (.working (c.targets db.world e) (c.targets db.world e)))
  | .findRow, .working targets (t :: todo), db =>
    match c.find? (t, c.eventId e) db with
    | some r => some (.goto (.enqueueing targets t todo (c.id r)))
    | none => some (.goto (.inserting targets t todo))
  | .insert outcome, .inserting targets t todo, db =>
    if outcome = .lost then some (.leave .ended)
    else
      match c.find? (t, c.eventId e) db with
      | some _ => some (.goto (.duplicate targets t todo))
      | none => some <| .commit
          { db with rows := db.rows ++ [c.row db.nextId t e], nextId := db.nextId + 1 }
          (goOn outcome (.enqueueing targets t todo db.nextId))
  | .refetch, .duplicate targets t todo, db =>
    match c.find? (t, c.eventId e) db with
    | some r => some (.goto (.enqueueing targets t todo (c.id r)))
    | none => some (.leave .ended)
  | .enqueue outcome, .enqueueing targets _ todo id, db =>
    if outcome = .lost then some (.leave .ended)
    else some (.commit { db with jobs := db.jobs ++ [id] } (goOn outcome (.working targets todo)))
  | .mark outcome, .working targets [], db =>
    -- a duplicate mark is no error
    if outcome = .lost ∨ c.Marked e db then some (.leave .ended)
    else some (.commit { db with marks := db.marks ++ [(c.eventId e, targets)] } .ended)
  | .crash, _, _ => some (.leave .ended)
  | _, _, _ => none

def protocol (call : ℕ → ConsumerCall ω ε) :
    Protocol (ConsumerDb ω τ κ ρ) Unit (Handling τ) ConsumerLabel := fun i l p db =>
  match call i, l, p with
  | .handle e, l, p => c.handle e l p db
  | .change f, .change, .received => some (.commit { db with world := f db.world } .ended)
  | _, _, _ => none

def machine (call : ℕ → ConsumerCall ω ε) :
    Machine (Shared (ConsumerDb ω τ κ ρ) Unit (Handling τ)) (ℕ × ConsumerLabel) :=
  concurrent (c.protocol call)

/-! ## The invariant -/

omit [DecidableEq τ] [DecidableEq κ] in
def Done (k : τ × κ) (db : ConsumerDb ω τ κ ρ) : Prop :=
  ∃ r ∈ db.rows, c.key r = k ∧ c.id r ∈ db.jobs

/-- What holds of the tables: rows have ids and keys of their own, an event has one mark,
and a mark means that the targets its handler has read are done. -/
structure Good (db : ConsumerDb ω τ κ ρ) : Prop where
  lt : ∀ r ∈ db.rows, c.id r < db.nextId
  ids : (db.rows.map c.id).Nodup
  keys : (db.rows.map c.key).Nodup
  marks : (db.marks.map Prod.fst).Nodup
  read : ∀ m ∈ db.marks, ∃ world e, m = (c.eventId e, c.targets world e)
  done : ∀ m ∈ db.marks, ∀ t ∈ m.2, c.Done (t, m.1) db

omit [DecidableEq τ] [DecidableEq κ] in
structure UpTo (e : ε) (targets todo : List τ) (db : ConsumerDb ω τ κ ρ) : Prop where
  read : ∃ world, targets = c.targets world e
  done : ∀ t ∈ targets, t ∈ todo ∨ c.Done (t, c.eventId e) db

def HandlingOk (e : ε) (db : ConsumerDb ω τ κ ρ) : Handling τ → Prop
  | .working targets todo => c.UpTo e targets todo db
  | .inserting targets t todo => c.UpTo e targets (t :: todo) db
  | .duplicate targets t todo => c.UpTo e targets (t :: todo) db
  | .enqueueing targets t todo id => c.UpTo e targets (t :: todo) db ∧
      ∃ r ∈ db.rows, c.key r = (t, c.eventId e) ∧ c.id r = id
  | _ => True

def Ok (call : ℕ → ConsumerCall ω ε) (_held : Unit → Prop) (db : ConsumerDb ω τ κ ρ) (i : ℕ)
    (p : Handling τ) : Prop :=
  ∀ e, call i = .handle e → c.HandlingOk e db p

structure Grows (db db' : ConsumerDb ω τ κ ρ) : Prop where
  rows : ∀ r ∈ db.rows, r ∈ db'.rows
  jobs : ∀ id ∈ db.jobs, id ∈ db'.jobs

variable {c} {e : ε} {db db' : ConsumerDb ω τ κ ρ}

omit [DecidableEq τ] [DecidableEq κ] in
theorem Done.mono {k : τ × κ} (h : c.Done k db) (hgrows : Grows db db') : c.Done k db' := by
  obtain ⟨r, hr, hkey, hid⟩ := h
  exact ⟨r, hgrows.rows r hr, hkey, hgrows.jobs _ hid⟩

omit [DecidableEq τ] [DecidableEq κ] in
theorem UpTo.mono {targets todo : List τ} (h : c.UpTo e targets todo db) (hgrows : Grows db db') :
    c.UpTo e targets todo db' :=
  ⟨h.read, fun t ht => (h.done t ht).imp_right fun hdone => hdone.mono hgrows⟩

variable {p : Handling τ}

omit [DecidableEq τ] [DecidableEq κ] in
theorem HandlingOk.mono (h : c.HandlingOk e db p) (hgrows : Grows db db') :
    c.HandlingOk e db' p := by
  cases p with
  | working targets todo => exact UpTo.mono h hgrows
  | inserting targets t todo => exact UpTo.mono h hgrows
  | duplicate targets t todo => exact UpTo.mono h hgrows
  | enqueueing targets t todo id =>
    obtain ⟨hupTo, r, hr, hkey, hid⟩ := h
    exact ⟨hupTo.mono hgrows, r, hgrows.rows r hr, hkey, hid⟩
  | _ => trivial

omit [DecidableEq τ] [DecidableEq κ] in
theorem HandlingOk.goOn {outcome : CallOutcome} (h : c.HandlingOk e db p) :
    c.HandlingOk e db (goOn outcome p) := by
  unfold Consumer.goOn
  split
  · exact h
  · trivial

theorem of_find? {k : τ × κ} {r : ρ} (h : c.find? k db = some r) : r ∈ db.rows ∧ c.key r = k :=
  ⟨List.mem_of_find?_eq_some h, by simpa using List.find?_some h⟩

/-! ## Steps -/

theorem Good.insert (h : c.Good db) {t : τ} (hnone : c.find? (t, c.eventId e) db = none) :
    c.Good { db with rows := db.rows ++ [c.row db.nextId t e], nextId := db.nextId + 1 } := by
  have hid : c.id (c.row db.nextId t e) = db.nextId := c.id_row _ _ _
  have hkey : c.key (c.row db.nextId t e) = (t, c.eventId e) := c.key_row _ _ _
  refine ⟨fun r hr => ?_, ?_, ?_, h.marks, h.read, fun m hm t' ht' => ?_⟩
  · rcases List.mem_append.1 hr with hr | hr
    · exact Nat.lt_succ_of_lt (h.lt r hr)
    · rw [List.mem_singleton.1 hr, hid]
      exact Nat.lt_succ_self _
  · rw [List.map_append, List.map_singleton, hid]
    refine List.Nodup.append h.ids (List.nodup_singleton _) fun n hn hn' => ?_
    obtain ⟨r, hr, rfl⟩ := List.mem_map.1 hn
    have hlt := h.lt r hr
    rw [List.mem_singleton.1 hn'] at hlt
    exact Nat.lt_irrefl _ hlt
  · rw [List.map_append, List.map_singleton, hkey]
    refine List.Nodup.append h.keys (List.nodup_singleton _) fun k hk hk' => ?_
    obtain ⟨r, hr, hrk⟩ := List.mem_map.1 hk
    rw [List.mem_singleton.1 hk'] at hrk
    exact absurd hrk (by simpa using List.find?_eq_none.1 hnone r hr)
  · exact (h.done m hm t' ht').mono ⟨fun r hr => List.mem_append_left _ hr, fun _ hid => hid⟩

omit [DecidableEq τ] [DecidableEq κ] in
theorem Good.enqueue (h : c.Good db) (id : ℕ) : c.Good { db with jobs := db.jobs ++ [id] } where
  lt := h.lt
  ids := h.ids
  keys := h.keys
  marks := h.marks
  read := h.read
  done m hm t ht := (h.done m hm t ht).mono ⟨fun _ hr => hr, fun _ => List.mem_append_left _⟩

omit [DecidableEq τ] [DecidableEq κ] in
theorem Good.mark (h : c.Good db) {targets : List τ} (hupTo : c.UpTo e targets [] db)
    (hmarked : ¬ c.Marked e db) :
    c.Good { db with marks := db.marks ++ [(c.eventId e, targets)] } := by
  refine ⟨h.lt, h.ids, h.keys, ?_, fun m hm => ?_, fun m hm t ht => ?_⟩
  · rw [List.map_append, List.map_singleton]
    refine List.Nodup.append h.marks (List.nodup_singleton _) fun k hk hk' => hmarked ?_
    obtain ⟨m, hm, hmk⟩ := List.mem_map.1 hk
    exact ⟨m, hm, hmk.trans (List.mem_singleton.1 hk')⟩
  · rcases List.mem_append.1 hm with hm | hm
    · exact h.read m hm
    · obtain rfl := List.mem_singleton.1 hm
      obtain ⟨world, rfl⟩ := hupTo.read
      exact ⟨world, e, rfl⟩
  · rcases List.mem_append.1 hm with hm | hm
    · exact h.done m hm t ht
    · obtain rfl := List.mem_singleton.1 hm
      exact (hupTo.done t ht).resolve_left List.not_mem_nil

abbrev MoveFine (c : Consumer ω ε τ κ ρ) (e : ε) (db : ConsumerDb ω τ κ ρ) :
    Move (ConsumerDb ω τ κ ρ) Unit (Handling τ) → Prop
  | .commit db' p => c.Good db' ∧ Grows db db' ∧ c.HandlingOk e db' p
  | m => c.HandlingOk e db m.dest

theorem handle_fine {l : ConsumerLabel}
    {m : Move (ConsumerDb ω τ κ ρ) Unit (Handling τ)} (hgood : c.Good db)
    (h : c.HandlingOk e db p) (hm : c.handle e l p db = some m) : MoveFine c e db m := by
  unfold handle at hm
  split at hm
  case h_1 =>
    split at hm <;>
    · cases hm
      trivial
  case h_2 =>
    cases hm
    exact ⟨⟨db.world, rfl⟩, fun t ht => .inl ht⟩
  case h_3 _ targets t todo =>
    split at hm
    · rename_i r hr
      cases hm
      exact ⟨h, r, (of_find? hr).1, (of_find? hr).2, rfl⟩
    · cases hm
      exact h
  case h_4 outcome targets t todo =>
    split at hm
    · cases hm
      trivial
    · split at hm
      · cases hm
        exact h
      · rename_i hnone
        cases hm
        have hgrows : Grows db { db with
            rows := db.rows ++ [c.row db.nextId t e], nextId := db.nextId + 1 } :=
          ⟨fun r hr => List.mem_append_left _ hr, fun _ hid => hid⟩
        refine ⟨hgood.insert hnone, hgrows, HandlingOk.goOn ⟨UpTo.mono h hgrows, ?_⟩⟩
        exact ⟨_, List.mem_append_right _ List.mem_cons_self, c.key_row _ _ _, c.id_row _ _ _⟩
  case h_5 targets t todo =>
    split at hm
    · rename_i r hr
      cases hm
      exact ⟨h, r, (of_find? hr).1, (of_find? hr).2, rfl⟩
    · cases hm
      trivial
  case h_6 outcome targets t todo id =>
    split at hm
    · cases hm
      trivial
    · cases hm
      obtain ⟨hupTo, r, hr, hkey, hid⟩ := h
      have hgrows : Grows db { db with jobs := db.jobs ++ [id] } :=
        ⟨fun _ hr => hr, fun _ hj => List.mem_append_left _ hj⟩
      refine ⟨hgood.enqueue id, hgrows, HandlingOk.goOn ⟨hupTo.read, fun t' ht' => ?_⟩⟩
      rcases hupTo.done t' ht' with htodo | hdone
      · -- the target at hand now has its job
        rcases List.mem_cons.1 htodo with rfl | htodo
        · exact .inr ⟨r, hr, hkey, List.mem_append_right _ (List.mem_singleton.2 hid)⟩
        · exact .inl htodo
      · exact .inr (hdone.mono hgrows)
  case h_7 outcome targets =>
    split at hm
    · cases hm
      trivial
    · rename_i hmarked
      cases hm
      exact ⟨hgood.mark h fun hm => hmarked (.inr hm), ⟨fun _ hr => hr, fun _ hj => hj⟩, trivial⟩
  case h_8 =>
    cases hm
    trivial
  case h_9 => cases hm

variable {s : Shared (ConsumerDb ω τ κ ρ) Unit (Handling τ)} {call : ℕ → ConsumerCall ω ε}

/-- A step keeps the invariant. -/
theorem inv_step {s' : Shared (ConsumerDb ω τ κ ρ) Unit (Handling τ)} {l : ℕ × ConsumerLabel}
    (h : s.Inv c.Good (c.Ok call)) (hs : (c.machine call).step s l = some s') :
    s'.Inv c.Good (c.Ok call) := by
  obtain ⟨i, l⟩ := l
  have hmove : ∀ m, c.protocol call i l (s.phase i) s.db = some m →
      (∃ e, call i = .handle e ∧ MoveFine c e s.db m) ∨
        ∃ f, call i = .change f ∧ m = .commit { s.db with world := f s.db.world } .ended := by
    intro m hm
    unfold protocol at hm
    split at hm
    · rename_i e hcall
      exact .inl ⟨e, hcall, handle_fine h.db (h.phase i e hcall) hm⟩
    · rename_i f hcall _
      exact .inr ⟨f, hcall, (Option.some.inj hm).symm⟩
    · cases hm
  refine h.step hs (fun m hm => ?_) fun db' p hm j _ held _ hj => ?_
  · rcases hmove m hm with ⟨e, hcall, hfine⟩ | ⟨f, hcall, rfl⟩
    · cases m with
      | commit db' p =>
        refine ⟨hfine.1, fun e' he' => ?_⟩
        obtain rfl := ConsumerCall.handle.inj (hcall.symm.trans he')
        exact hfine.2.2
      | _ =>
        intro e' he'
        obtain rfl := ConsumerCall.handle.inj (hcall.symm.trans he')
        exact hfine
    · refine ⟨⟨h.db.lt, h.db.ids, h.db.keys, h.db.marks, h.db.read, h.db.done⟩, fun e he => ?_⟩
      rw [hcall] at he
      cases he
  · have hgrows : Grows s.db db' := by
      rcases hmove _ hm with ⟨e, hcall, hfine⟩ | ⟨f, hcall, heq⟩
      · exact hfine.2.1
      · cases heq
        exact ⟨fun _ hr => hr, fun _ hid => hid⟩
    exact fun e he => (hj e he).mono hgrows

omit [DecidableEq τ] [DecidableEq κ] in
theorem good_empty (world : ω) : c.Good { world } where
  lt _ hr := absurd hr List.not_mem_nil
  ids := List.nodup_nil
  keys := List.nodup_nil
  marks := List.nodup_nil
  read _ hm := absurd hm List.not_mem_nil
  done _ hm := absurd hm List.not_mem_nil

/-- Whatever the handlers do, the tables are good. -/
theorem good_of_reaches {world : ω}
    (h : (c.machine call).Reaches (.start { world } .received) s) : c.Good s.db := by
  have hstart : (Shared.start { world } .received : Shared (ConsumerDb ω τ κ ρ) Unit _).Inv
      c.Good (c.Ok call) := Shared.inv_start (good_empty world) fun _ _ _ _ => trivial
  exact (h.invariant hstart fun s l s' hI hs => inv_step hI hs).db

end Consumer

end Lib
