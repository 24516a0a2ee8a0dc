/-
Journal entries made, posted and cancelled by concurrent requests.

`create` and `createInternal` insert a new row, and nobody sees it before their
commit.
-/
import FashionErp.Accounting.JournalEntries
import FashionErp.Lib.Column
import FashionErp.Lib.SaveEntity

namespace FashionErp

open Lib Lib.Tx

/-- An entry row after `save(entity)`, when the save read `seen` and updates `row`.
Lines are a relation and are not written. -/
def JournalEntry.merge (entity seen row : JournalEntry) : JournalEntry where
  id := row.id
  journalNumber := mergeCol entity.journalNumber seen.journalNumber row.journalNumber
  companyId := mergeCol entity.companyId seen.companyId row.companyId
  branchId := mergeCol entity.branchId seen.branchId row.branchId
  accountingPeriodId := mergeCol entity.accountingPeriodId seen.accountingPeriodId
    row.accountingPeriodId
  entryDate := mergeCol entity.entryDate seen.entryDate row.entryDate
  status := mergeCol entity.status seen.status row.status
  sourceType := mergeCol entity.sourceType seen.sourceType row.sourceType
  sourceId := mergeCol entity.sourceId seen.sourceId row.sourceId
  description := mergeCol entity.description seen.description row.description
  totalDebit := mergeCol entity.totalDebit seen.totalDebit row.totalDebit
  totalCredit := mergeCol entity.totalCredit seen.totalCredit row.totalCredit
  createdBy := mergeCol entity.createdBy seen.createdBy row.createdBy
  postedBy := mergeCol entity.postedBy seen.postedBy row.postedBy
  postedAt := mergeCol entity.postedAt seen.postedAt row.postedAt
  lines := row.lines

namespace JournalRace

open JournalEntriesService

inductive Request
  | create (companyId userId : Uuid) (now : Instant) (dto : CreateJournalEntryDto)
  | createInternal (now : Instant) (params : CreateInternalParams)
  | post (id companyId userId : Uuid) (now : Instant)
  | cancel (id companyId : Uuid)

inductive Phase
  | idle
  /-- `post` holds the row. -/
  | locked
  | checked (posted : JournalEntry)
  /-- `cancel` is saving. -/
  | save (phase : SavePhase JournalEntry)
  | finished
  | rejected

inductive Label
  /-- The whole transaction of `create` or `createInternal`. -/
  | insert
  | lock
  | check
  | commit
  | read
  | save (l : SaveLabel)
  | abort

/-- The row of entry `id`. -/
def entryAccess (id : Uuid) : RowAccess Db JournalEntry where
  find db := db.ledger.journalEntries.find? id
  put entry db := { db with ledger :=
    { db.ledger with journalEntries := db.ledger.journalEntries.save entry } }
  merge := JournalEntry.merge

def insertMove (t : DbTx JournalEntry) (db : Db) : Move Db Uuid Phase :=
  match run t db with
  | (.ok _, db') => .commit db' .finished
  | (.error _, _) => .leave .rejected

/-- The checks of `post`, on the row it holds. -/
def checkMove (id companyId userId : Uuid) (now : Instant) (db : Db) : Move Db Uuid Phase :=
  match (run (findByIdInCompany id companyId >>= postChecks userId now) db).1 with
  | .ok posted => .goto (.checked posted)
  | .error _ => .leave .rejected

/-- The unlocked read of `cancel` and its check. -/
def readMove (id companyId : Uuid) (db : Db) : Move Db Uuid Phase :=
  match (run (do
    let entry ← findByIdInCompany id companyId
    cancelGuard entry
    return entry) db).1 with
  | .ok entry => .goto (.save (.changed (markCancelled entry)))
  | .error _ => .goto .rejected

def protocol (request : ℕ → Request) : Protocol Db Uuid Phase Label := fun i l p db =>
  match request i, l, p with
  | .create companyId userId now dto, .insert, .idle =>
    some (insertMove (create companyId userId now dto) db)
  | .createInternal now params, .insert, .idle =>
    some (insertMove (createInternal now params) db)
  | .post id _ _ _, .lock, .idle => some (.acquire id .locked)
  | .post id companyId userId now, .check, .locked => some (checkMove id companyId userId now db)
  | .post id _ _ _, .commit, .checked posted =>
    some (.commit ((entryAccess id).put posted db) .finished)
  | .post .., .abort, .locked => some (.leave .rejected)
  | .post .., .abort, .checked _ => some (.leave .rejected)
  | .cancel id companyId, .read, .idle => some (readMove id companyId db)
  | .cancel id _, .save l, .save p => (entryAccess id).saveMove id Phase.save .finished l p db
  | .cancel .., .abort, .save _ => some (.leave .rejected)
  | _, _, _ => none

def machine (request : ℕ → Request) : Machine (Shared Db Uuid Phase) (ℕ × Label) :=
  concurrent (protocol request)

/-! ## What is claimed of posted entries -/

def PostedBalanced (db : Db) : Prop :=
  ∀ id e, db.ledger.journalEntries.find? id = some e → e.status = .Posted →
    2 ≤ e.lines.length ∧ (∀ line ∈ e.lines, line.OneSided) ∧ debitTotal e.lines = creditTotal e.lines

def PostedStays (s s' : Shared Db Uuid Phase) : Prop :=
  ∀ id e, s.db.ledger.journalEntries.find? id = some e → e.status = .Posted →
    ∃ e', s'.db.ledger.journalEntries.find? id = some e' ∧ e'.status = .Posted ∧ e'.lines = e.lines

variable (request : ℕ → Request)

def NotOverPosted (s : Shared Db Uuid Phase) : ℕ × Label → Prop
  | (i, .save .commit) =>
    match request i, s.phase i with
    | .cancel id _, .save (.updated ..) =>
      ∀ e ∈ s.db.ledger.journalEntries.find? id, e.status ≠ .Posted
    | _, _ => True
  | _ => True

instance (s : Shared Db Uuid Phase) (l : ℕ × Label) : Decidable (NotOverPosted request s l) := by
  unfold NotOverPosted
  split
  · split <;> infer_instance
  · infer_instance

variable {request}

/-! ## What a commit writes -/

/-- The invariant behind `PostedBalanced`. -/
def EntriesOk (db : Db) : Prop :=
  ∀ id e, db.ledger.journalEntries.find? id = some e → e.status = .Posted → Balanced e.lines

theorem EntriesOk.postedBalanced {db : Db} (h : EntriesOk db) : PostedBalanced db := by
  intro id e he hposted
  have hbal := h id e he hposted
  exact ⟨hbal.two_le_length, hbal.oneSided, hbal.equal⟩

theorem PostedBalanced.entriesOk {db : Db} (h : PostedBalanced db) : EntriesOk db := by
  intro id e he hposted
  obtain ⟨hlength, hone, hequal⟩ := h id e he hposted
  refine ⟨?_, hone, hequal⟩
  rintro hnil
  rw [hnil] at hlength
  cases hlength

/-- What every commit does to the entries: it writes one row, balanced if it is
posted. Where the row was there before, the request holds it, and the lines and a
cancelled status stay. -/
structure Writes (heldBy : Uuid → Prop) (db db' : Db) (entry : JournalEntry) : Prop where
  saved : db'.ledger.journalEntries = db.ledger.journalEntries.save entry
  balanced : entry.status = .Posted → Balanced entry.lines
  replaces : ∀ e, db.ledger.journalEntries.find? entry.id = some e →
    heldBy entry.id ∧ entry.lines = e.lines ∧ (e.status = .Cancelled → entry.status = .Cancelled)

variable {held heldBy : Uuid → Prop} {db' : Db} {entry : JournalEntry}

theorem Writes.find? {db : Db} (h : Writes heldBy db db' entry) (id : Uuid) :
    db'.ledger.journalEntries.find? id =
      if entry.id = id then some entry else db.ledger.journalEntries.find? id := by
  rw [h.saved]
  exact Table.find?_save _ _ _

theorem Writes.entriesOk {db : Db} (h : Writes heldBy db db' entry) (hdb : EntriesOk db) :
    EntriesOk db' := by
  intro id e he hposted
  rw [h.find?] at he
  split at he
  · cases he
    exact h.balanced hposted
  · exact hdb id e he hposted

variable {s s' : Shared Db Uuid Phase}

theorem Writes.postedStays_iff (h : Writes heldBy s.db s'.db entry) :
    PostedStays s s' ↔ ∀ e, s.db.ledger.journalEntries.find? entry.id = some e →
      e.status = .Posted → entry.status = .Posted := by
  constructor
  · intro hstays e he hposted
    obtain ⟨e', he', hposted', -⟩ := hstays entry.id e he hposted
    rw [h.find?, if_pos rfl] at he'
    cases he'
    exact hposted'
  · intro hover id e he hposted
    rw [h.find?]
    split
    · rename_i hid
      subst hid
      exact ⟨entry, rfl, hover e he hposted, (h.replaces e he).2.1⟩
    · exact ⟨e, he, hposted, rfl⟩

theorem writes_of_insert {db db₁ : Db}
    (hdb' : db' = { db₁ with ledger := { db₁.ledger with journalEntries := db.ledger.journalEntries.save entry } })
    (hfresh : db.ledger.journalEntries.find? entry.id = none)
    (hbalanced : entry.status = .Posted → Balanced entry.lines) :
    Writes (fun _ => False) db db' entry := by
  refine ⟨by rw [hdb'], hbalanced, fun e he => ?_⟩
  rw [hfresh] at he
  cases he

variable {companyId userId id : Uuid}

theorem create_writes {now : Instant} {dto : CreateJournalEntryDto}
    {db : Db} (h : Commits (create companyId userId now dto) db entry db') :
    Writes (fun _ => False) db db' entry := by
  simp only [create, commits_bind] at h
  obtain ⟨_, _, hcompany, h⟩ := h
  obtain rfl := assertCompanyAndBranch_reads hcompany
  obtain ⟨hdraft, -, -, -, hfresh, db₁, -, hdb'⟩ := createTransaction_spec h
  refine writes_of_insert hdb' hfresh fun hposted => ?_
  rw [hdraft] at hposted
  cases hposted

theorem createInternal_writes {now : Instant} {params : CreateInternalParams} {db : Db}
    (h : Commits (createInternal now params) db entry db') :
    Writes (fun _ => False) db db' entry := by
  obtain ⟨hbal, -, -, -, -, hlines, hfresh, -, db₁, -, hdb'⟩ := createInternal_spec h
  refine writes_of_insert hdb' hfresh fun _ => ?_
  rw [hlines]
  exact hbal

/-! ## The invariant -/

def StaysCancelled (r r' : JournalEntry) : Prop := r.status = .Cancelled → r'.status = .Cancelled

theorem StaysCancelled.refl (r : JournalEntry) : StaysCancelled r r := id

theorem StaysCancelled.trans (r r₁ r₂ : JournalEntry) (h₁ : StaysCancelled r r₁)
    (h₂ : StaysCancelled r₁ r₂) : StaysCancelled r r₂ :=
  fun h => h₂ (h₁ h)

/-- What holds of request `i`, which holds the rows `held`. -/
def PhaseOk (request : ℕ → Request) (held : Uuid → Prop) (db : Db) (i : ℕ) (p : Phase) : Prop :=
  match request i, p with
  | .post id _ _ _, .locked => held id
  | .post id _ userId now, .checked posted => held id ∧
      ∃ e, db.ledger.journalEntries.find? id = some e ∧ e.status = .Draft ∧ Balanced e.lines ∧
        posted = markPosted userId now (debitTotal e.lines, creditTotal e.lines) e
  | .cancel id _, .save p => SaveOk (entryAccess id) id StaysCancelled markCancelled held db p
  | _, _ => True

variable {p : Phase}

theorem PhaseOk.of_writes {db : Db} {j : ℕ} (h : Writes heldBy db db' entry)
    (hapart : ∀ k, held k → ¬ heldBy k) (hp : PhaseOk request held db j p) :
    PhaseOk request held db' j p := by
  unfold PhaseOk at hp ⊢
  split at hp
  · exact hp
  · obtain ⟨hheld, e, he, hdraft, hbal, rfl⟩ := hp
    refine ⟨hheld, e, ?_, hdraft, hbal, rfl⟩
    rw [h.find?, if_neg, he]
    rintro rfl
    exact hapart _ hheld (h.replaces e he).1
  · refine hp.mono StaysCancelled.trans fun e he => ?_
    have hfind : db.ledger.journalEntries.find? _ = some e := he
    show ∃ e', db'.ledger.journalEntries.find? _ = some e' ∧ _
    rw [h.find?]
    split
    · rename_i hid
      subst hid
      obtain ⟨hby, -, hcancelled⟩ := h.replaces e hfind
      exact ⟨entry, rfl, hcancelled, fun hheld => absurd hby (hapart _ hheld)⟩
    · exact ⟨e, hfind, id, fun _ => rfl⟩
  · trivial

theorem cancel_writes {first seen current : JournalEntry} {db : Db} (hdb : EntriesOk db)
    (hfind : db.ledger.journalEntries.find? id = some current) (hheld : heldBy id) :
    Writes heldBy db ((entryAccess id).put ((markCancelled first).merge seen current) db)
      ((markCancelled first).merge seen current) := by
  have hid : current.id = id := Table.key_of_find? hfind
  have hstatus : ((markCancelled first).merge seen current).status = .Cancelled ∨
      ((markCancelled first).merge seen current).status = current.status :=
    mergeCol_cases _ _ _
  refine ⟨rfl, fun hposted => ?_, fun e he => ?_⟩
  · rcases hstatus with h | h
    · rw [h] at hposted
      cases hposted
    · exact hdb id current hfind (h.symm.trans hposted)
  · change db.ledger.journalEntries.find? current.id = some e at he
    rw [hid, hfind] at he
    cases he
    refine ⟨?_, rfl, fun hcancelled => ?_⟩
    · show heldBy current.id
      rw [hid]
      exact hheld
    · rcases hstatus with h | h
      · exact h
      · exact h.trans hcancelled

theorem post_writes {now : Instant} {e : JournalEntry} {db : Db}
    (hfind : db.ledger.journalEntries.find? id = some e) (hdraft : e.status = .Draft)
    (hbal : Balanced e.lines) (hheld : heldBy id) (totals : Cents × Cents) :
    Writes heldBy db ((entryAccess id).put (markPosted userId now totals e) db)
      (markPosted userId now totals e) := by
  have hid : e.id = id := Table.key_of_find? hfind
  refine ⟨rfl, fun _ => hbal, fun e' he' => ?_⟩
  change db.ledger.journalEntries.find? e.id = some e' at he'
  rw [hid, hfind] at he'
  cases he'
  refine ⟨?_, rfl, fun hcancelled => ?_⟩
  · show heldBy e.id
    rw [hid]
    exact hheld
  · rw [hdraft] at hcancelled
    cases hcancelled

/-! ## Steps -/

/-- What a move can be. One that is not a commit keeps the standing of its
request; a commit writes one entry, over a posted row only if it is the save of a
cancellation. -/
inductive MoveCase (request : ℕ → Request) (held : Uuid → Prop) (db : Db) (i : ℕ) :
    Label → Phase → Move Db Uuid Phase → Prop
  | quiet {l : Label} {p : Phase} {m : Move Db Uuid Phase}
      (hok : Shared.MoveOk (fun _ => False) (PhaseOk request) held db i m) :
      MoveCase request held db i l p m
  | write {l : Label} {p : Phase} {db' : Db} {entry : JournalEntry}
      (hwrites : Writes held db db' entry)
      (hover : ∀ e, db.ledger.journalEntries.find? entry.id = some e → e.status ≠ .Posted)
      (hl : l ≠ .save .commit) : MoveCase request held db i l p (.commit db' .finished)
  | cancel {id companyId : Uuid} {first seen current : JournalEntry}
      (hrequest : request i = .cancel id companyId)
      (hfind : db.ledger.journalEntries.find? id = some current)
      (hseen : StaysCancelled seen current) (hheld : held id) :
      MoveCase request held db i (.save .commit)
        (.save (.updated (markCancelled first) seen ((markCancelled first).merge seen current)))
        (.commit ((entryAccess id).put ((markCancelled first).merge seen current) db) .finished)

theorem rejected_ok (held : Uuid → Prop) (db : Db) (i : ℕ) :
    PhaseOk request held db i .rejected := by
  unfold PhaseOk
  cases request i <;> trivial

variable {i : ℕ}

theorem insertMove_cases {db : Db} {t : DbTx JournalEntry}
    (ht : ∀ entry db', Commits t db entry db' → Writes (fun _ => False) db db' entry) :
    MoveCase request held db i .insert p (insertMove t db) := by
  unfold insertMove
  rcases run_cases t db with ⟨entry, db', hc, hrun⟩ | ⟨_, -, hrun⟩
  · rw [hrun]
    have hwrites := ht entry db' hc
    refine .write ⟨hwrites.saved, hwrites.balanced, fun e he => ?_⟩ (fun e he => ?_) nofun
    · exact (hwrites.replaces e he).1.elim
    · exact (hwrites.replaces e he).1.elim
  · rw [hrun]
    exact .quiet (rejected_ok (fun _ => False) db i)

theorem checkMove_cases {db : Db} {now : Instant}
    (hrequest : request i = .post id companyId userId now) (hheld : held id) :
    MoveCase request held db i .check p (checkMove id companyId userId now db) := by
  unfold checkMove
  rcases run_cases (findByIdInCompany id companyId >>= postChecks userId now) db with
    ⟨posted, _, hc, hrun⟩ | ⟨_, -, hrun⟩
  · simp only [commits_bind, commits_findByIdInCompany, commits_postChecks] at hc
    obtain ⟨e, _, ⟨⟨hfind, -⟩, rfl⟩, ⟨hdraft, hbal, -, rfl⟩, rfl⟩ := hc
    rw [hrun]
    refine .quiet ?_
    simp only [Shared.MoveOk, PhaseOk, hrequest]
    exact ⟨hheld, e, hfind, hdraft, hbal, rfl⟩
  · rw [hrun]
    exact .quiet (rejected_ok (fun _ => False) db i)

theorem readMove_cases {db : Db} (hrequest : request i = .cancel id companyId) :
    MoveCase request held db i .read p (readMove id companyId db) := by
  unfold readMove
  generalize hread : (do
    let entry ← findByIdInCompany id companyId
    cancelGuard entry
    return entry : DbTx JournalEntry) = t
  rcases run_cases t db with ⟨entry, _, hc, hrun⟩ | ⟨_, -, hrun⟩
  · rw [hrun]
    subst hread
    simp only [commits_bind, commits_findByIdInCompany, cancelGuard, commits_rejectIf,
      commits_pure] at hc
    obtain ⟨e, _, ⟨⟨hfind, -⟩, rfl⟩, _, _, ⟨-, rfl⟩, rfl, rfl⟩ := hc
    refine .quiet ?_
    simp only [Shared.MoveOk, PhaseOk, hrequest]
    exact ⟨entry, entry, rfl, hfind, .refl entry⟩
  · rw [hrun]
    exact .quiet (rejected_ok held db i)

theorem protocol_cases {db : Db} {l : Label} {m : Move Db Uuid Phase}
    (hp : PhaseOk request held db i p) (h : protocol request i l p db = some m) :
    MoveCase request held db i l p m := by
  unfold protocol at h
  split at h
  case h_1 hrequest =>
    cases h
    exact insertMove_cases fun _ _ hc => create_writes hc
  case h_2 hrequest =>
    cases h
    exact insertMove_cases fun _ _ hc => createInternal_writes hc
  case h_3 hrequest =>
    cases h
    refine .quiet ?_
    simp only [Shared.MoveOk, PhaseOk, hrequest]
    exact .inl trivial
  case h_4 hrequest =>
    cases h
    simp only [PhaseOk, hrequest] at hp
    exact checkMove_cases hrequest hp
  case h_5 hrequest =>
    cases h
    simp only [PhaseOk, hrequest] at hp
    obtain ⟨hheld, e, hfind, hdraft, hbal, rfl⟩ := hp
    refine .write (post_writes hfind hdraft hbal hheld _) (fun e' he' => ?_) nofun
    have hid : e.id = _ := Table.key_of_find? hfind
    change db.ledger.journalEntries.find? e.id = some e' at he'
    rw [hid, hfind] at he'
    cases he'
    rw [hdraft]
    decide
  case h_9 id companyId l p hrequest =>
    simp only [PhaseOk, hrequest] at hp
    rcases hp.move StaysCancelled.refl h with ⟨q, rfl, hok⟩ | ⟨q, rfl, hok⟩ |
      ⟨entity, seen, row, rfl, rfl, rfl⟩
    · refine .quiet ?_
      simpa only [Shared.MoveOk, PhaseOk, hrequest] using hok
    · refine .quiet ?_
      simpa only [Shared.MoveOk, PhaseOk, hrequest] using hok
    · obtain ⟨first, current, rfl, hfind, -, hseen, hheld, rfl⟩ := hp
      exact .cancel hrequest hfind hseen hheld
  case h_8 hrequest =>
    cases h
    exact readMove_cases hrequest
  case h_11 => cases h
  all_goals
    cases h
    exact .quiet (rejected_ok (fun _ => False) db i)

/-- One step, whatever it writes over. -/
theorem inv_step {l : ℕ × Label}
    (h : s.Inv EntriesOk (PhaseOk request)) (hs : (machine request).step s l = some s') :
    s'.Inv EntriesOk (PhaseOk request) := by
  obtain ⟨i, l⟩ := l
  have hfinished : ∀ (held : Uuid → Prop) db, PhaseOk request held db i .finished := by
    intro held db
    unfold PhaseOk
    cases request i <;> trivial
  have hi := h.phase i
  generalize hp : s.phase i = p at hi
  refine h.step hs (fun m hm => ?_) (fun db' q hm j _ held hapart hj => ?_)
  · rw [hp] at hm
    cases protocol_cases hi hm with
    | quiet hok =>
      cases m with
      | commit db' q => exact hok.1.elim
      | goto q => exact hok
      | acquire k q => exact hok
      | leave q => exact hok
    | write hwrites _ _ => exact ⟨hwrites.entriesOk h.db, hfinished _ _⟩
    | cancel _ hfind _ hheld => exact ⟨(cancel_writes h.db hfind hheld).entriesOk h.db, hfinished _ _⟩
  · rw [hp] at hm
    generalize hcommit : Move.commit db' q = m at hm
    cases protocol_cases hi hm with
    | quiet hok =>
      subst hcommit
      exact hok.1.elim
    | write hwrites _ _ =>
      cases hcommit
      exact hj.of_writes hwrites hapart
    | cancel _ hfind _ hheld =>
      cases hcommit
      exact hj.of_writes (cancel_writes h.db hfind hheld) hapart

theorem cancel_leaves_posted_iff {first seen current : JournalEntry}
    (hseen : StaysCancelled seen current) :
    (current.status = .Posted → ((markCancelled first).merge seen current).status = .Posted) ↔
      current.status ≠ .Posted := by
  constructor
  · intro hstays hposted
    have hchanged : (markCancelled first).status ≠ seen.status := by
      intro heq
      rw [hseen heq.symm] at hposted
      cases hposted
    have hcancelled : ((markCancelled first).merge seen current).status = .Cancelled :=
      mergeCol_of_ne hchanged _
    rw [hstays hposted] at hcancelled
    cases hcancelled
  · exact fun hne hposted => absurd hposted hne

theorem postedStays_iff_notOverPosted {l : ℕ × Label}
    (h : s.Inv EntriesOk (PhaseOk request)) (hs : (machine request).step s l = some s') :
    PostedStays s s' ↔ NotOverPosted request s l := by
  obtain ⟨i, l⟩ := l
  obtain ⟨m, hm, hmove⟩ := Shared.step_move hs
  have hi := h.phase i
  generalize hp : s.phase i = p at hi hm
  have hsame : s'.db = s.db → PostedStays s s' := by
    intro hdb id e he hposted
    exact ⟨e, by rw [hdb]; exact he, hposted, rfl⟩
  have hother : l ≠ .save .commit → NotOverPosted request s (i, l) := by
    intro hl
    unfold NotOverPosted
    split
    · rename_i heq
      exact absurd (Prod.mk.inj heq).2 hl
    · trivial
  cases protocol_cases hi hm with
  | quiet hok =>
    have hdb : s'.db = s.db := by
      rcases Shared.step_db hs with hdb | ⟨q, hcommit⟩
      · exact hdb
      · rw [hp, hm] at hcommit
        cases hcommit
        exact hok.1.elim
    refine iff_of_true (hsame hdb) ?_
    unfold NotOverPosted
    split
    · rename_i heq
      obtain ⟨rfl, rfl⟩ := Prod.mk.inj heq
      split
      · -- A save that has updated its row commits; it is not quiet.
        rename_i hrequest hphase
        rw [hp] at hphase
        subst hphase
        simp only [protocol, hrequest] at hm
        cases hm
        exact hok.1.elim
      · trivial
    · trivial
  | write hwrites hover hl =>
    cases hmove
    refine iff_of_true (hwrites.postedStays_iff.2 fun e he hposted => ?_) (hother hl)
    exact absurd hposted (hover e he)
  | @cancel id companyId first seen current hrequest hfind hseen hheld =>
    cases hmove
    have hid : current.id = id := Table.key_of_find? hfind
    have hwrites : Writes (s.Holds i) s.db _ ((markCancelled first).merge seen current) :=
      cancel_writes h.db hfind hheld
    have hover : (current.status = .Posted →
        ((markCancelled first).merge seen current).status = .Posted) ↔ current.status ≠ .Posted :=
      cancel_leaves_posted_iff hseen
    rw [Writes.postedStays_iff hwrites]
    simp only [NotOverPosted, hrequest, hp, hfind, Option.mem_some_iff, forall_eq']
    rw [← hover]
    change (∀ e, s.db.ledger.journalEntries.find? current.id = some e → _) ↔ _
    rw [hid, hfind]
    simp only [Option.some.injEq, forall_eq']

theorem PostedStays.refl (s : Shared Db Uuid Phase) : PostedStays s s :=
  fun _ e he hposted => ⟨e, he, hposted, rfl⟩

theorem PostedStays.trans (s₁ s₂ s₃ : Shared Db Uuid Phase) (h₁ : PostedStays s₁ s₂)
    (h₂ : PostedStays s₂ s₃) : PostedStays s₁ s₃ := by
  intro id e he hposted
  obtain ⟨e₁, he₁, hposted₁, hlines₁⟩ := h₁ id e he hposted
  obtain ⟨e₂, he₂, hposted₂, hlines₂⟩ := h₂ id e₁ he₁ hposted₁
  exact ⟨e₂, he₂, hposted₂, hlines₂.trans hlines₁⟩

theorem inv_start {db : Db} (hdb : EntriesOk db) :
    (Shared.start db .idle : Shared Db Uuid Phase).Inv EntriesOk (PhaseOk request) := by
  refine Shared.inv_start hdb fun i held => ?_
  unfold PhaseOk
  cases request i <;> trivial

/-- Posted entries balance, and when they stay. In every run of requests posted
entries balance in every state; and an entry that is posted stays posted, with the
same lines, from any state of the run to any later one, exactly when no cancellation
is committed over a posted row. -/
theorem posted_entries_stay_iff (request : ℕ → Request) {db : Db} (hdb : PostedBalanced db)
    {ls : List (ℕ × Label)} {s : Shared Db Uuid Phase}
    (hrun : (machine request).Run (.start db .idle) ls s) :
    PostedBalanced s.db ∧
      ((∀ ks ks', ks ++ ks' <+: ls → ∀ s₁ s₂, (machine request).Run (.start db .idle) ks s₁ →
        (machine request).Run s₁ ks' s₂ → PostedStays s₁ s₂) ↔
        (machine request).RunWith (NotOverPosted request) (.start db .idle) ls s) := by
  have hstart : (Shared.start db .idle : Shared Db Uuid Phase).Inv EntriesOk (PhaseOk request) :=
    inv_start hdb.entriesOk
  constructor
  · exact (hrun.invariant hstart fun _ _ _ h _ hs => inv_step h hs).db.postedBalanced
  · rw [Machine.relates_iff_steps PostedStays.refl PostedStays.trans hrun]
    exact Machine.steps_iff_runWith
      (fun _ _ _ h hc hs => ⟨inv_step h hs, (postedStays_iff_notOverPosted h hs).2 hc⟩)
      (fun _ _ _ h hs hstays => (postedStays_iff_notOverPosted h hs).1 hstays) hstart hrun

/-- Entries are kept, with their lines, and a cancelled one is not revived. -/
def EntriesKept (db db' : Db) : Prop :=
  ∀ id e, db.ledger.journalEntries.find? id = some e →
    ∃ e', db'.ledger.journalEntries.find? id = some e' ∧ e'.lines = e.lines ∧
      (e.status = .Cancelled → e'.status = .Cancelled)

theorem Writes.entriesKept {db : Db} (h : Writes heldBy db db' entry) : EntriesKept db db' := by
  intro id e he
  rw [h.find?]
  split
  · rename_i hid
    subst hid
    exact ⟨entry, rfl, (h.replaces e he).2⟩
  · exact ⟨e, he, rfl, fun hcancelled => hcancelled⟩

theorem entriesKept_step {l : ℕ × Label} (h : s.Inv EntriesOk (PhaseOk request))
    (hs : (machine request).step s l = some s') : EntriesKept s.db s'.db := by
  obtain ⟨i, l⟩ := l
  rcases Shared.step_db hs with hdb | ⟨q, hm⟩
  · rw [hdb]
    exact fun _ e he => ⟨e, he, rfl, fun hcancelled => hcancelled⟩
  · have hi := h.phase i
    generalize s.phase i = p at hi hm
    generalize hcommit : Move.commit s'.db q = m at hm
    cases protocol_cases hi hm with
    | quiet hok =>
      subst hcommit
      exact hok.1.elim
    | write hwrites hover hl =>
      cases hcommit
      exact hwrites.entriesKept
    | cancel hrequest hfind hseen hheld =>
      injection hcommit with hdb
      rw [hdb]
      exact (cancel_writes h.db hfind hheld).entriesKept

/-- No run rewrites an entry: from any state to any later one every entry is kept, whatever is
created, posted and cancelled at the same time. -/
theorem entries_kept (request : ℕ → Request) {db : Db} (hdb : PostedBalanced db)
    {ls ls' : List (ℕ × Label)} (hrun : (machine request).Run (.start db .idle) ls s)
    (hlater : (machine request).Run s ls' s') : EntriesKept s.db s'.db := by
  have hinv := hrun.invariant (inv_start hdb.entriesOk) fun _ _ _ h _ hs => inv_step h hs
  refine (hlater.invariant (I := fun s₁ => s₁.Inv EntriesOk (PhaseOk request) ∧ EntriesKept s.db s₁.db)
    ⟨hinv, fun _ e he => ⟨e, he, rfl, fun hcancelled => hcancelled⟩⟩ ?_).2
  rintro s₁ l s₂ ⟨h₁, hkept⟩ - hs
  refine ⟨inv_step h₁ hs, fun id e he => ?_⟩
  obtain ⟨e₁, he₁, hlines₁, hcancelled₁⟩ := hkept id e he
  obtain ⟨e₂, he₂, hlines₂, hcancelled₂⟩ := entriesKept_step h₁ hs id e₁ he₁
  exact ⟨e₂, he₂, hlines₂.trans hlines₁, fun hcancelled => hcancelled₂ (hcancelled₁ hcancelled)⟩

/-! A balanced draft of 50.00, to be posted and cancelled. -/

namespace JournalRaceDemo

def line (accountId : Uuid) (debit credit : Cents) : JournalEntryLine :=
  { accountId := accountId, debitAmount := debit, creditAmount := credit, referenceType := none,
    referenceId := none, description := none }

def now : Instant := { date := ⟨2026, 3, 1⟩, millis := 0 }

def draft : JournalEntry :=
  { id := 7, journalNumber := "JE-2026-000001", companyId := 10, branchId := none,
    accountingPeriodId := 1, entryDate := now, status := .Draft, sourceType := some .Manual,
    sourceId := none, description := "", totalDebit := 5000, totalCredit := 5000, createdBy := 99,
    postedBy := none, postedAt := none, lines := [line 1 5000 0, line 2 0 5000] }

def fiscalYear : FiscalYear :=
  { id := 2, companyId := 10, name := "FY2026", startDate := ⟨2026, 1, 1⟩,
    endDate := ⟨2026, 12, 31⟩, status := .Open }

def period : AccountingPeriod :=
  { id := 1, fiscalYearId := 2, name := "FY2026", startDate := ⟨2026, 1, 1⟩,
    endDate := ⟨2026, 12, 31⟩, status := .Open }

def db : Db where
  ledger :=
    { fiscalYears := .ofRows [fiscalYear], accountingPeriods := .ofRows [period],
      journalEntries := .ofRows [draft] }

def posting (i : ℕ) : Request :=
  if i = 0 then .post 7 10 99 now else .cancel 7 10

theorem postedBalanced : PostedBalanced db := by
  intro id e he hposted
  obtain rfl : e = draft := List.mem_singleton.1 (Table.mem_of_find? he)
  cases hposted

end JournalRaceDemo

/-- A cancellation that comes after the posting is turned away. -/
theorem posted_entries_stay_iff_draft :
    ∃ s, (machine JournalRaceDemo.posting).Run (.start JournalRaceDemo.db .idle)
        [(0, .lock), (0, .check), (0, .commit), (1, .read)] s ∧ PostedBalanced s.db ∧
      (∃ e, s.db.ledger.journalEntries.find? 7 = some e ∧ e.status = .Posted) ∧
      PostedStays (.start JournalRaceDemo.db .idle) s := by
  obtain ⟨s, hrun, hs⟩ := Machine.exists_runWith (machine JournalRaceDemo.posting)
    (NotOverPosted JournalRaceDemo.posting) (.start JournalRaceDemo.db .idle)
    [(0, .lock), (0, .check), (0, .commit), (1, .read)]
    (fun s => (s.db.ledger.journalEntries.find? 7).any fun e => e.status = .Posted)
    (by decide +kernel)
  simp only [Option.any_eq_true, decide_eq_true_eq] at hs
  obtain ⟨hbalanced, hiff⟩ := posted_entries_stay_iff JournalRaceDemo.posting
    JournalRaceDemo.postedBalanced hrun.run
  exact ⟨s, hrun.run, hbalanced, hs, hiff.2 hrun [] _ (List.prefix_refl _) _ s (.done _) hrun.run⟩

theorem cancel_overwrites_posted :
    ∃ s₁ s₂, (machine JournalRaceDemo.posting).Run (.start JournalRaceDemo.db .idle)
        [(1, .read), (0, .lock), (0, .check), (0, .commit)] s₁ ∧
      (machine JournalRaceDemo.posting).Run s₁
        [(1, .save .reread), (1, .save .update), (1, .save .commit)] s₂ ∧
      (∃ e, s₂.db.ledger.journalEntries.find? 7 = some e ∧ e.status = .Cancelled) ∧
      ¬ PostedStays s₁ s₂ := by
  obtain ⟨s₁, hrun₁, hs₁⟩ := Machine.exists_runWith (machine JournalRaceDemo.posting)
    (fun _ _ => True) (.start JournalRaceDemo.db .idle)
    [(1, .read), (0, .lock), (0, .check), (0, .commit)]
    (fun s₁ => ((s₁.db.ledger.journalEntries.find? 7).any fun e => e.status = .Posted) &&
      ((machine JournalRaceDemo.posting).execWith (fun _ _ => True) s₁
        [(1, .save .reread), (1, .save .update), (1, .save .commit)]).any fun s₂ =>
          (s₂.db.ledger.journalEntries.find? 7).any fun e => e.status = .Cancelled)
    (by decide +kernel)
  rw [Bool.and_eq_true] at hs₁
  obtain ⟨hposted, hs₁⟩ := hs₁
  obtain ⟨s₂, hrun₂, hcancelled⟩ := Machine.exists_runWith (machine JournalRaceDemo.posting)
    (fun _ _ => True) s₁ [(1, .save .reread), (1, .save .update), (1, .save .commit)]
    (fun s₂ => (s₂.db.ledger.journalEntries.find? 7).any fun e => e.status = .Cancelled) hs₁
  simp only [Option.any_eq_true, decide_eq_true_eq] at hposted hcancelled
  obtain ⟨e₁, he₁, hposted⟩ := hposted
  obtain ⟨e₂, he₂, hcancelled⟩ := hcancelled
  refine ⟨s₁, s₂, hrun₁, hrun₂, ⟨e₂, he₂, hcancelled⟩, fun hstays => ?_⟩
  obtain ⟨e, he, hstill, -⟩ := hstays 7 e₁ he₁ hposted
  obtain rfl := Option.some.inj (he₂.symm.trans he)
  rw [hcancelled] at hstill
  cases hstill

theorem entries_kept_cancelled :
    ∃ s s', (s.db.ledger.journalEntries.find? 7).map (·.status) = some .Cancelled ∧
      (machine JournalRaceDemo.posting).Run s [(0, .lock), (0, .check)] s' ∧ EntriesKept s.db s'.db := by
  obtain ⟨s, hrun, hs⟩ := Machine.exists_runWith (machine JournalRaceDemo.posting) (fun _ _ => True)
    (.start JournalRaceDemo.db .idle)
    [(1, .read), (1, .save .reread), (1, .save .update), (1, .save .commit)]
    (fun s => (s.db.ledger.journalEntries.find? 7).map (·.status) = some .Cancelled ∧
      ((machine JournalRaceDemo.posting).execWith (fun _ _ => True) s
        [(0, .lock), (0, .check)]).isSome) (by decide +kernel)
  rw [decide_eq_true_eq] at hs
  obtain ⟨s', hlater, -⟩ := Machine.exists_runWith (machine JournalRaceDemo.posting)
    (fun _ _ => True) s [(0, .lock), (0, .check)] (fun _ => true) (by simpa using hs.2)
  exact ⟨s, s', hs.1, hlater, entries_kept _ JournalRaceDemo.postedBalanced hrun hlater⟩

end JournalRace

end FashionErp
