/-
`resolveOpenPeriod` for entries posted beside each other.

A period is looked up in the snapshot of the caller's transaction.
-/
import FashionErp.Accounting.JournalEntries
import FashionErp.Core.Order
import FashionErp.Lib.Apart
import FashionErp.Lib.CommitLaw

namespace FashionErp.PeriodRace

open Lib Chronological

structure JoinedPeriod where
  period : AccountingPeriod
  fiscalYear : FiscalYear

instance : Keyed JoinedPeriod Uuid := ⟨fun r => r.period.id⟩

structure PeriodDb where
  periods : Table JoinedPeriod
  created : List (Uuid × ℕ) := []

def yearStart (year : ℕ) : DateOnly := ⟨year, 1, 1⟩

def yearEnd (year : ℕ) : DateOnly := ⟨year, 12, 31⟩

structure Call where
  companyId : Uuid
  entryDate : Instant
  inYear : yearStart entryDate.getUTCFullYear ≤ entryDate.date ∧
    entryDate.date ≤ yearEnd entryDate.getUTCFullYear

def Covers (r : JoinedPeriod) (c : Call) : Prop :=
  r.fiscalYear.companyId = c.companyId ∧ r.period.startDate ≤ c.entryDate.date ∧
    c.entryDate.date ≤ r.period.endDate

def IsYearOf (r : JoinedPeriod) (c : Call) : Prop :=
  r.fiscalYear.companyId = c.companyId ∧
    r.period.startDate = yearStart c.entryDate.getUTCFullYear ∧
    r.period.endDate = yearEnd c.entryDate.getUTCFullYear

instance (r : JoinedPeriod) (c : Call) : Decidable (Covers r c) :=
  inferInstanceAs (Decidable (_ ∧ _ ∧ _))

instance (r : JoinedPeriod) (c : Call) : Decidable (IsYearOf r c) :=
  inferInstanceAs (Decidable (_ ∧ _ ∧ _))

/-- The two checks, of `resolveOpenPeriod` and of `post`. -/
def assertPostable (r : JoinedPeriod) : Except Failure Unit :=
  if r.fiscalYear.status = .Closed then
    .error (appException .Conflict "Cannot post into a period whose fiscal year is CLOSED")
  else if r.period.status = .Locked then
    .error (appException .Conflict "Cannot post into a LOCKED accounting period")
  else
    .ok ()

def calendarYear (c : Call) (fiscalYearId periodId : Uuid) : JoinedPeriod :=
  let year := c.entryDate.getUTCFullYear
  { period :=
      { id := periodId, fiscalYearId := fiscalYearId, name := s!"FY{year}"
        startDate := yearStart year, endDate := yearEnd year, status := .Open }
    fiscalYear :=
      { id := fiscalYearId, companyId := c.companyId, name := s!"FY{year}"
        startDate := yearStart year, endDate := yearEnd year, status := .Open } }

inductive Phase
  | called
  /-- The transaction has read, and reads the same from then on. -/
  | begun (snapshot : Table JoinedPeriod)
  /-- No period was found, and one is to be inserted. -/
  | creating
  | resolved (r : JoinedPeriod)
  | accepted (r : JoinedPeriod)
  | posted (r : JoinedPeriod)
  | failed (error : Failure)

inductive Label
  | begin
  /-- Of the periods that cover the day `getOne` answers one, or none if there is none. -/
  | resolve (found : Option Uuid)
  /-- The rows are inserted under new ids, and the transaction commits. -/
  | create (fiscalYearId periodId : Uuid)
  | commit
  | post

/-- `resolveOpenPeriod` on a snapshot, up to the creation. -/
def resolve (c : Call) (snapshot : Table JoinedPeriod) : Option Uuid → Option Phase
  | some id =>
    ((snapshot.find? id).filter fun r => Covers r c).map fun r =>
      match assertPostable r with
      | .ok _ => .resolved r
      | .error error => .failed error
  | none =>
    if ∃ r ∈ snapshot.rows, Covers r c then none
    else match snapshot.rows.find? fun r => IsYearOf r c with
      | some raceCheck => some (.resolved raceCheck)
      | none => some .creating

def postingMove (c : Call) : Label → Phase → PeriodDb → Option (Move PeriodDb Unit Phase)
  | .begin, .called, db => some (.goto (.begun db.periods))
  | .resolve found, .begun snapshot, _ => (resolve c snapshot found).map .goto
  | .create fiscalYearId periodId, .creating, db =>
    if (db.periods.find? periodId).isNone then
      some (.commit
        { periods := db.periods.save (calendarYear c fiscalYearId periodId)
          created := (c.companyId, c.entryDate.getUTCFullYear) :: db.created }
        (.accepted (calendarYear c fiscalYearId periodId)))
    else
      none
  | .commit, .resolved r, _ => some (.leave (.accepted r))
  | .post, .accepted r, db =>
    (db.periods.find? r.period.id).map fun row =>
      match assertPostable row with
      | .ok _ => .leave (.posted row)
      | .error error => .leave (.failed error)
  | _, _, _ => none

def protocol (call : ℕ → Call) : Protocol PeriodDb Unit Phase Label := fun i l p db =>
  postingMove (call i) l p db

def machine (call : ℕ → Call) : Machine (Shared PeriodDb Unit Phase) (ℕ × Label) :=
  concurrent (protocol call)

/-! ## The claim and the condition -/

def days (r : JoinedPeriod) : Set (Uuid × DateOnly) :=
  {x | x.1 = r.fiscalYear.companyId ∧ x.2 ∈ through r.period.startDate (some r.period.endDate)}

def Postable (r : JoinedPeriod) : Prop := r.fiscalYear.status ≠ .Closed ∧ r.period.status ≠ .Locked

instance (r : JoinedPeriod) : Decidable (Postable r) := inferInstanceAs (Decidable (_ ∧ _))

def Phase.Allowed (c : Call) (db : PeriodDb) : Phase → Prop
  | accepted _ | posted _ => ∀ r ∈ db.periods.rows, Covers r c → Postable r
  | _ => True

def Meets (o r : JoinedPeriod) : Prop :=
  o.fiscalYear.companyId = r.fiscalYear.companyId ∧
    max o.period.startDate r.period.startDate ∈ through o.period.startDate (some o.period.endDate) ∧
    max o.period.startDate r.period.startDate ∈ through r.period.startDate (some r.period.endDate)

instance (o r : JoinedPeriod) : Decidable (Meets o r) :=
  inferInstanceAs (Decidable (_ ∧ _ ∈ through _ _ ∧ _ ∈ through _ _))

/-- The condition on a step. A year that is created meets no period of the company. -/
def CreatesApart (call : ℕ → Call) (s : Shared PeriodDb Unit Phase) : ℕ × Label → Prop
  | (i, .create fiscalYearId periodId) =>
    ∀ o ∈ s.db.periods.rows, ¬ Meets o (calendarYear (call i) fiscalYearId periodId)
  | _ => True

instance (call : ℕ → Call) (s : Shared PeriodDb Unit Phase) (l : ℕ × Label) :
    Decidable (CreatesApart call s l) := by
  unfold CreatesApart
  split <;> infer_instance

/-! ## Periods that are apart -/

variable {r : JoinedPeriod} {db : PeriodDb}

theorem exists_mem_days_iff {o : JoinedPeriod} : (∃ x, x ∈ days o ∧ x ∈ days r) ↔ Meets o r := by
  rw [Meets, ← exists_mem_through_iff]
  constructor
  · rintro ⟨⟨companyId, day⟩, ⟨ho, hday⟩, hr, hday'⟩
    exact ⟨ho.symm.trans hr, day, hday, hday'⟩
  · rintro ⟨hcompany, day, hday, hday'⟩
    exact ⟨(o.fiscalYear.companyId, day), ⟨rfl, hday⟩, hcompany, hday'⟩

theorem mem_days_of_covers {c : Call} (h : Covers r c) :
    (c.companyId, c.entryDate.date) ∈ days r := by
  refine ⟨h.1.symm, h.2.1, fun e he => ?_⟩
  rw [← Option.some.inj he]
  exact h.2.2

theorem covers_calendarYear (c : Call) (fiscalYearId periodId : Uuid) :
    Covers (calendarYear c fiscalYearId periodId) c := ⟨rfl, c.inYear⟩

theorem covers_of_isYearOf {c : Call} (h : IsYearOf r c) : Covers r c := by
  obtain ⟨hcompany, hstart, hend⟩ := h
  unfold Covers
  rw [hstart, hend]
  exact ⟨hcompany, c.inYear⟩

theorem assertPostable_eq_ok {u : Unit} : assertPostable r = .ok u ↔ Postable r := by
  unfold assertPostable Postable
  by_cases hyear : r.fiscalYear.status = .Closed
  · simp [hyear]
  · by_cases hperiod : r.period.status = .Locked
    · simp [hyear, hperiod]
    · simp [hyear, hperiod]

structure Sound (db : PeriodDb) : Prop where
  apart : db.periods.Apart days
  created : ∀ x ∈ db.created, ∃ r ∈ db.periods.rows, r.fiscalYear.companyId = x.1 ∧
    r.period.startDate = yearStart x.2 ∧ r.period.endDate = yearEnd x.2
  nodup : db.created.Nodup

def PhaseOk (call : ℕ → Call) (_ : Unit → Prop) (db : PeriodDb) (i : ℕ) : Phase → Prop
  | .begun snapshot => ∀ r ∈ snapshot.rows, r ∈ db.periods.rows
  | .resolved r | .accepted r | .posted r =>
    r ∈ db.periods.rows ∧ Covers r (call i) ∧ Postable r
  | _ => True

def Stands (_ : Unit → Prop) (db db' : PeriodDb) : Prop :=
  ∀ r ∈ db.periods.rows, r ∈ db'.periods.rows

section

variable {call : ℕ → Call} {s : Shared PeriodDb Unit Phase} {i : ℕ} {l : Label}
  {m : Move PeriodDb Unit Phase}

theorem phaseOk_stands {held : Unit → Prop} {db' : PeriodDb} {p : Phase}
    (h : PhaseOk call held db i p) (hs : Stands held db db') : PhaseOk call held db' i p := by
  cases p with
  | begun snapshot => exact fun r hr => hs r (h r hr)
  | resolved r => exact ⟨hs r h.1, h.2⟩
  | accepted r => exact ⟨hs r h.1, h.2⟩
  | posted r => exact ⟨hs r h.1, h.2⟩
  | _ => exact trivial

/-- What `resolveOpenPeriod` finds is a period of the snapshot that covers the day and is
open. -/
theorem resolve_ok (held : Unit → Prop) {snapshot : Table JoinedPeriod} {found : Option Uuid}
    {p : Phase} (hsnapshot : ∀ r ∈ snapshot.rows, r ∈ db.periods.rows)
    (h : resolve (call i) snapshot found = some p) : PhaseOk call held db i p := by
  cases found with
  | some id =>
    obtain ⟨r, hr, rfl⟩ := Option.map_eq_some_iff.1 h
    obtain ⟨hfind, hcovers⟩ := Option.filter_eq_some_iff.1 hr
    split
    · rename_i hpostable
      exact ⟨hsnapshot r (Table.mem_of_find? hfind), of_decide_eq_true hcovers,
        assertPostable_eq_ok.1 hpostable⟩
    · exact trivial
  | none =>
    obtain ⟨hnone, h⟩ := Option.ite_none_left_eq_some.1 h
    split at h
    · rename_i raceCheck hfind
      have htest := List.find?_some hfind
      refine absurd ⟨raceCheck, List.mem_of_find?_eq_some hfind, ?_⟩ hnone
      exact covers_of_isYearOf (of_decide_eq_true htest)
    · cases h
      exact trivial

theorem stands_save (h : db.periods.find? r.period.id = none) :
    ∀ o ∈ db.periods.rows, o ∈ (db.periods.save r).rows := fun o ho =>
  (Table.mem_save _ _ _).2 (.inr ⟨ho, Table.find?_eq_none.1 h o ho⟩)

theorem apart_create_iff (hdb : db.periods.Apart days) (hr : db.periods.find? r.period.id = none) :
    (db.periods.save r).Apart days ↔ ∀ o ∈ db.periods.rows, ¬ Meets o r := by
  rw [Table.apart_save_iff hdb]
  refine forall_congr' fun o => forall_congr' fun ho => ?_
  rw [← exists_mem_days_iff, not_exists]
  exact ⟨fun h => h (Table.find?_eq_none.1 hr o ho), fun h _ => h⟩

theorem sound_create {c : Call} {fiscalYearId periodId : Uuid} (hdb : Sound db)
    (hid : db.periods.find? periodId = none)
    (hapart : ∀ o ∈ db.periods.rows, ¬ Meets o (calendarYear c fiscalYearId periodId)) :
    Sound { periods := db.periods.save (calendarYear c fiscalYearId periodId)
            created := (c.companyId, c.entryDate.getUTCFullYear) :: db.created } := by
  have hnew : calendarYear c fiscalYearId periodId ∈
      (db.periods.save (calendarYear c fiscalYearId periodId)).rows :=
    (Table.mem_save _ _ _).2 (.inl rfl)
  refine ⟨(apart_create_iff hdb.apart hid).2 hapart, fun x hx => ?_, ?_⟩
  · rcases List.mem_cons.1 hx with rfl | hx
    · exact ⟨_, hnew, rfl, rfl, rfl⟩
    · obtain ⟨r, hr, h⟩ := hdb.created x hx
      exact ⟨r, stands_save (r := calendarYear c fiscalYearId periodId) hid r hr, h⟩
  · refine List.nodup_cons.2 ⟨fun hmem => ?_, hdb.nodup⟩
    obtain ⟨r, hr, hyear⟩ := hdb.created _ hmem
    have hcovers : Covers r c := covers_of_isYearOf hyear
    refine hapart r hr (exists_mem_days_iff.1 ⟨_, mem_days_of_covers hcovers, ?_⟩)
    exact mem_days_of_covers (covers_calendarYear c fiscalYearId periodId)

theorem law (call : ℕ → Call) :
    CommitLaw (protocol call) Sound (PhaseOk call) Stands (fun db => db.periods.Apart days)
      (CreatesApart call) where
  good h := h.apart
  mono := phaseOk_stands
  weaken h _ := h
  quiet {s i l m} hs hm hnot := by
    have hphase := hs.phase i
    have hdb := hs.db
    have hm' : postingMove (call i) l (s.phase i) s.db = some m := hm
    generalize s.phase i = p at hm' hphase
    unfold postingMove at hm'
    split at hm'
    case h_1 =>
      cases hm'
      exact ⟨fun r hr => hr, trivial⟩
    case h_2 =>
      obtain ⟨q, hq, rfl⟩ := Option.map_eq_some_iff.1 hm'
      exact ⟨resolve_ok (s.Holds i) hphase hq, trivial⟩
    case h_3 =>
      obtain ⟨-, hm'⟩ := Option.ite_none_right_eq_some.1 hm'
      exact absurd (Option.some.inj hm').symm (hnot _ _)
    case h_4 =>
      cases hm'
      exact ⟨hphase, trivial⟩
    case h_5 r =>
      obtain ⟨row, hrow, rfl⟩ := Option.map_eq_some_iff.1 hm'
      have hsame : row = r := by
        have hfind := (Table.mem_rows_iff _ _).1 hphase.1
        exact Option.some.inj (hrow.symm.trans hfind)
      subst hsame
      split
      · exact ⟨hphase, trivial⟩
      · exact ⟨trivial, trivial⟩
    case h_6 => cases hm'
  commit {s i l db' q} hs hm := by
    have hdb := hs.db
    have hm' : postingMove (call i) l (s.phase i) s.db = some (.commit db' q) := hm
    generalize s.phase i = p at hm'
    unfold postingMove at hm'
    split at hm'
    case h_3 fiscalYearId periodId =>
      obtain ⟨hid, hm'⟩ := Option.ite_none_right_eq_some.1 hm'
      obtain ⟨rfl, rfl⟩ := Move.commit.inj (Option.some.inj hm')
      have hnone : s.db.periods.find? periodId = none := Option.isNone_iff_eq_none.1 hid
      have hiff := apart_create_iff (r := calendarYear (call i) fiscalYearId periodId) hdb.apart hnone
      refine ⟨hiff, fun hapart => ⟨⟨sound_create hdb hnone (hiff.1 hapart), ?_⟩, ?_⟩⟩
      · refine ⟨(Table.mem_save _ _ _).2 (.inl rfl), covers_calendarYear _ _ _, ?_, ?_⟩
        · exact fun h => by cases h
        · exact fun h => by cases h
      · exact stands_save (r := calendarYear (call i) fiscalYearId periodId) hnone
    case h_1 => cases hm'
    case h_2 =>
      obtain ⟨q, -, heq⟩ := Option.map_eq_some_iff.1 hm'
      cases heq
    case h_4 => cases hm'
    case h_5 =>
      obtain ⟨row, -, heq⟩ := Option.map_eq_some_iff.1 hm'
      split at heq <;> cases heq
    case h_6 => cases hm'

theorem allowed_of_inv (hs : s.Inv Sound (PhaseOk call)) (j : ℕ) :
    (s.phase j).Allowed (call j) s.db := by
  have hphase := hs.phase j
  have honly : ∀ {r : JoinedPeriod}, r ∈ s.db.periods.rows ∧ Covers r (call j) ∧ Postable r →
      ∀ o ∈ s.db.periods.rows, Covers o (call j) → Postable o := by
    rintro r ⟨hr, hcovers, hpostable⟩ o ho hcovers'
    have hsame : o = r :=
      hs.db.apart.unique ho hr (mem_days_of_covers hcovers') (mem_days_of_covers hcovers)
    exact hsame ▸ hpostable
  generalize s.phase j = p at hphase
  cases p with
  | accepted r => exact honly hphase
  | posted r => exact honly hphase
  | _ => exact trivial

/-- No entry is accepted on a closed day, no two periods of a company share a day, and no
calendar year is created twice, exactly when every year that is created meets no period of its
company. -/
theorem no_posting_into_closed_iff (call : ℕ → Call) {periods : Table JoinedPeriod}
    (hperiods : periods.Apart days) {ls : List (ℕ × Label)}
    (hrun : (machine call).Run (.start { periods } .called) ls s) :
    (∀ ks, ks <+: ls → ∀ s₁, (machine call).Run (.start { periods } .called) ks s₁ →
      (∀ j, (s₁.phase j).Allowed (call j) s₁.db) ∧ s₁.db.periods.Apart days ∧
        s₁.db.created.Nodup) ↔
      (machine call).RunWith (CreatesApart call) (.start { periods } .called) ls s := by
  have hstart : (Shared.start { periods } .called : Shared PeriodDb Unit Phase).Inv Sound
      (PhaseOk call) := by
    refine Shared.inv_start ⟨hperiods, fun x hx => ?_, List.nodup_nil⟩ fun _ _ => trivial
    exact absurd hx List.not_mem_nil
  constructor
  · intro h
    exact ((law call).run_iff hstart hrun).1 fun ks hks s₁ hs₁ => (h ks hks s₁ hs₁).2.1
  · intro hwith ks hks s₁ hs₁
    obtain ⟨rest, rfl⟩ := hks
    obtain ⟨s₂, hs₂, -⟩ := hwith.split
    obtain rfl := hs₁.unique hs₂
    have hinv : s₁.Inv Sound (PhaseOk call) := by
      refine hs₂.invariant hstart fun s l s' hs hc hstep => ?_
      exact (law call).inv_step hs hstep (((law call).step_iff hs hstep).2 hc)
    exact ⟨allowed_of_inv hinv, hinv.db.apart, hinv.db.nodup⟩

end

namespace PeriodDemo

def quarter : JoinedPeriod where
  period :=
    { id := 1, fiscalYearId := 2, name := "Q1", startDate := ⟨2026, 1, 1⟩,
      endDate := ⟨2026, 3, 31⟩, status := .Locked }
  fiscalYear :=
    { id := 2, companyId := 10, name := "FY2026", startDate := ⟨2026, 1, 1⟩,
      endDate := ⟨2026, 3, 31⟩, status := .Open }

def periods : Table JoinedPeriod := .ofRows [quarter]

/-- Entries `0` and `1` are of June 2025, `2` of June 2026 and the others of February 2026. -/
def calls (i : ℕ) : Call :=
  if i < 2 then ⟨10, { date := ⟨2025, 6, 1⟩, millis := 0 }, by decide⟩
  else if i = 2 then ⟨10, { date := ⟨2026, 6, 1⟩, millis := 0 }, by decide⟩
  else ⟨10, { date := ⟨2026, 2, 1⟩, millis := 0 }, by decide⟩

def acceptedInto : Phase → Option Uuid
  | .accepted r => some r.period.id
  | _ => none

theorem apart : periods.Apart days := by
  intro r hr r' hr' hne
  obtain rfl := List.mem_singleton.1 hr
  obtain rfl := List.mem_singleton.1 hr'
  exact absurd rfl hne

end PeriodDemo

open PeriodDemo in
/-- A year is created once and found again, and the locked quarter refuses an entry. -/
theorem no_posting_into_closed_iff_serial :
    ∃ s, (machine calls).Run (.start { periods } .called)
        [(0, .begin), (0, .resolve none), (0, .create 20 21), (1, .begin), (1, .resolve (some 21)),
          (1, .commit), (3, .begin), (3, .resolve (some 1))] s ∧
      acceptedInto (s.phase 1) = some 21 ∧
      (∀ j, (s.phase j).Allowed (calls j) s.db) ∧ s.db.periods.Apart days ∧ s.db.created.Nodup := by
  obtain ⟨s, hrun, hs⟩ := Machine.exists_runWith (machine calls) (CreatesApart calls)
    (.start { periods } .called)
    [(0, .begin), (0, .resolve none), (0, .create 20 21), (1, .begin), (1, .resolve (some 21)),
      (1, .commit), (3, .begin), (3, .resolve (some 1))]
    (fun s => acceptedInto (s.phase 1) = some 21) (by decide +kernel)
  refine ⟨s, hrun.run, of_decide_eq_true hs, ?_⟩
  exact (no_posting_into_closed_iff calls apart hrun.run).2 hrun _ (List.prefix_refl _) s hrun.run

open PeriodDemo in
theorem accepted_beside_locked_and_created_twice :
    (∃ s, (machine calls).Run (.start { periods } .called)
        [(2, .begin), (2, .resolve none), (2, .create 20 21), (3, .begin), (3, .resolve (some 21)),
          (3, .commit)] s ∧ ¬ (s.phase 3).Allowed (calls 3) s.db) ∧
    ∃ s, (machine calls).Run (.start { periods } .called)
        [(0, .begin), (1, .begin), (0, .resolve none), (1, .resolve none), (0, .create 20 21),
          (1, .create 30 31)] s ∧ ¬ s.db.created.Nodup := by
  constructor
  · obtain ⟨s, hrun, hs⟩ := Machine.exists_runWith (machine calls) (fun _ _ => True)
      (.start { periods } .called)
      [(2, .begin), (2, .resolve none), (2, .create 20 21), (3, .begin), (3, .resolve (some 21)),
        (3, .commit)]
      (fun s => acceptedInto (s.phase 3) = some 21 ∧
        ∃ r ∈ s.db.periods.rows, Covers r (calls 3) ∧ ¬ Postable r) (by decide +kernel)
    obtain ⟨haccepted, r, hr, hcovers, hclosed⟩ := of_decide_eq_true hs
    refine ⟨s, hrun.run, fun hallowed => hclosed ?_⟩
    generalize s.phase 3 = p at haccepted hallowed
    cases p with
    | accepted q => exact hallowed r hr hcovers
    | _ => cases haccepted
  · obtain ⟨s, hrun, hs⟩ := Machine.exists_runWith (machine calls) (fun _ _ => True)
      (.start { periods } .called)
      [(0, .begin), (1, .begin), (0, .resolve none), (1, .resolve none), (0, .create 20 21),
        (1, .create 30 31)]
      (fun s => s.db.created = [(10, 2025), (10, 2025)]) (by decide +kernel)
    refine ⟨s, hrun.run, ?_⟩
    rw [of_decide_eq_true hs]
    decide

end FashionErp.PeriodRace
