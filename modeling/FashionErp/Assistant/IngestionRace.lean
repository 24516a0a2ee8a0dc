/-
Documents created, reingested and deleted beside any number of ingestion jobs.

A job reads its document, marks it, deletes the old chunks, waits for the embeddings, inserts
the new chunks in one statement and marks the document READY; nothing keeps another job of the
same document out in between.
-/
import FashionErp.Assistant.Knowledge
import FashionErp.Lib.CommitLaw

namespace FashionErp.IngestionRace

open Lib AiKnowledgeService KnowledgeIngestionWorker

inductive Call
  | create (companyId userId : Uuid) (dto : CreateAiKnowledgeDocumentDto)
  | reingest (id companyId : Uuid)
  | delete (id companyId : Uuid)
  | work

inductive Phase (ε : Type)
  | called
  | saved (id : Uuid)
  | changed (entity : AiKnowledgeDocument)
  /-- The `save` of `reingest` has read the row again. -/
  | saving (entity seen : AiKnowledgeDocument)
  | removing (id : Uuid)
  | returned
  | rejected (error : Failure)
  | taken (documentId : Uuid)
  | loaded (document : AiKnowledgeDocument)
  | processing (document : AiKnowledgeDocument)
  /-- The old chunks are deleted. -/
  | cleared (document : AiKnowledgeDocument)
  | embedded (document : AiKnowledgeDocument) (result : EmbeddingResult ε)
  /-- The new chunks are inserted. -/
  | stored (document : AiKnowledgeDocument) (result : EmbeddingResult ε)
  /-- The job is in its `catch`. -/
  | failing (document : AiKnowledgeDocument) (message : String)
  | finished
  | failed

inductive Label (ε : Type)
  /-- `save` of a new document, under an id that none has. -/
  | insert (id : Uuid)
  | enqueue (time : ℕ)
  | read
  | reread
  | write
  | softRemove
  | take (documentId : Uuid)
  | process
  | clear
  /-- The provider answers. -/
  | embed (result : EmbeddingResult ε)
  | store
  | ready
  /-- A statement or the provider fails. -/
  | throw (message : String)
  | giveUp

section

variable {ε : Type}

/-- The moves of `create`. -/
def createMove (companyId userId : Uuid) (dto : CreateAiKnowledgeDocumentDto) :
    Label ε → Phase ε → KnowledgeDb ε → Option (Move (KnowledgeDb ε) Unit (Phase ε))
  | .insert id, .called, db =>
    if (db.documents.find? id).isNone then
      some (.commit { db with documents := db.documents.save (newDocument id companyId userId dto) }
        (.saved id))
    else
      none
  | .enqueue _, .saved id, db => some (.commit (enqueueIngestion id none db) .returned)
  | _, _, _ => none

/-- The moves of `reingest`. -/
def reingestMove (id companyId : Uuid) :
    Label ε → Phase ε → KnowledgeDb ε → Option (Move (KnowledgeDb ε) Unit (Phase ε))
  | .read, .called, db =>
    match findByIdInCompany id companyId db with
    | .ok document => some (.goto (.changed (setPending document)))
    | .error error => some (.leave (.rejected error))
  | .reread, .changed entity, db =>
    (db.documents.find? id).map fun seen => .goto (.saving entity seen)
  | .write, .saving entity seen, db =>
    (db.documents.find? id).map fun row =>
      .commit { db with documents := db.documents.save (mergeDocument entity seen row) } (.saved id)
  | .enqueue time, .saved id, db => some (.commit (enqueueIngestion id (some time) db) .returned)
  | _, _, _ => none

/-- The moves of `delete`: `softRemove` writes `deletedAt` and nothing else. -/
def deleteMove (id companyId : Uuid) :
    Label ε → Phase ε → KnowledgeDb ε → Option (Move (KnowledgeDb ε) Unit (Phase ε))
  | .read, .called, db =>
    match findByIdInCompany id companyId db with
    | .ok _ => some (.goto (.removing id))
    | .error error => some (.leave (.rejected error))
  | .softRemove, .removing id, db =>
    some (.commit (updateDocument id (fun row => { row with deleted := true }) db) .returned)
  | _, _, _ => none

/-- The moves of `process`. The vectors that go to the vector store besides are no rows. -/
def workMove (config : AiConfig) :
    Label ε → Phase ε → KnowledgeDb ε → Option (Move (KnowledgeDb ε) Unit (Phase ε))
  | .take documentId, .called, db =>
    if db.jobs.any fun job => job.documentId = documentId then some (.goto (.taken documentId))
    else none
  | .read, .taken documentId, db =>
    match findOne documentId db with
    | some document => some (.goto (.loaded document))
    | none => some (.leave .finished)
  | .process, .loaded document, db =>
    some (.commit (updateDocument document.id markProcessing db) (.processing document))
  | .clear, .processing document, db =>
    if chunkText config document.content = [] then
      some (.commit (updateDocument document.id markEmpty db) .finished)
    else
      some (.commit (deleteChunks document.id db) (.cleared document))
  | .embed result, .cleared document, _ =>
    let vectors := result.embeddings.length
    let chunks := (chunkText config document.content).length
    if vectors = chunks then some (.goto (.embedded document result))
    else
      some (.goto (.failing document
        s!"Embedding provider returned {vectors} vectors for {chunks} chunks"))
  | .store, .embedded document result, db =>
    match insertChunks document (chunkText config document.content) result.embeddings db with
    | .ok db' => some (.commit db' (.stored document result))
    | .error message => some (.goto (.failing document message))
  | .ready, .stored document result, db =>
    some (.commit
      (updateDocument document.id
        (markReady (chunkText config document.content).length result.model) db) .finished)
  | .throw message, .processing document, _ => some (.goto (.failing document message))
  | .throw message, .cleared document, _ => some (.goto (.failing document message))
  | .throw message, .embedded document _, _ => some (.goto (.failing document message))
  | .throw message, .stored document _, _ => some (.goto (.failing document message))
  | .giveUp, .failing document message, db =>
    some (.commit (updateDocument document.id (markFailed message) db) .failed)
  | _, _, _ => none

def protocol (config : AiConfig) (call : ℕ → Call) :
    Protocol (KnowledgeDb ε) Unit (Phase ε) (Label ε) := fun i l p db =>
  match call i with
  | .create companyId userId dto => createMove companyId userId dto l p db
  | .reingest id companyId => reingestMove id companyId l p db
  | .delete id companyId => deleteMove id companyId l p db
  | .work => workMove config l p db

def machine (config : AiConfig) (call : ℕ → Call) :
    Machine (Shared (KnowledgeDb ε) Unit (Phase ε)) (ℕ × Label ε) :=
  concurrent (protocol config call)

/-! ## The claim and the condition -/

def HasChunks (db : KnowledgeDb ε) (id : Uuid) (chunks : List Text) : Prop :=
  ∀ index content, (∃ c ∈ db.chunks.rows, c.documentId = id ∧ c.chunkIndex = index ∧
    c.content = content) ↔ chunks[index]? = some content

/-- A document that is READY has the chunks of its content, and counts them. -/
def ChunksMatch (config : AiConfig) (db : KnowledgeDb ε) : Prop :=
  ∀ d ∈ db.documents.rows, d.status = .Ready →
    HasChunks db d.id (chunkText config d.content) ∧
      d.chunkCount = (chunkText config d.content).length

/-- The condition on a step. Chunks are deleted from no READY document; a document is
marked READY while it has rows, and if no chunk cuts a surrogate pair; and a reingestion that
does not write the status leaves the count of a document that has become READY alone. -/
def Orderly (config : AiConfig) (call : ℕ → Call) (s : Shared (KnowledgeDb ε) Unit (Phase ε)) :
    ℕ × Label ε → Prop
  | (i, .clear) =>
    match call i, s.phase i with
    | .work, .processing document => chunkText config document.content ≠ [] →
      ∀ row ∈ s.db.documents.find? document.id, row.status ≠ .Ready
    | _, _ => True
  | (i, .ready) =>
    match call i, s.phase i with
    | .work, .stored document _ =>
      (∃ c ∈ s.db.chunks.rows, c.documentId = document.id) ∧
        ∀ chunk ∈ chunkText config document.content, chunk.toWellFormed = chunk
    | _, _ => True
  | (i, .write) =>
    match call i, s.phase i with
    | .reingest id _, .saving entity seen =>
      ∀ row ∈ s.db.documents.find? id, row.status = .Ready → seen.status = .Pending →
        entity.chunkCount ≠ seen.chunkCount → entity.chunkCount = row.chunkCount
    | _, _ => True
  | _ => True

instance (config : AiConfig) (call : ℕ → Call) (s : Shared (KnowledgeDb ε) Unit (Phase ε))
    (l : ℕ × Label ε) : Decidable (Orderly config call s l) := by
  unfold Orderly
  split
  · split <;> infer_instance
  · split <;> infer_instance
  · split <;> infer_instance
  · infer_instance

/-! ## The rows of a document -/

def storedChunks (config : AiConfig) (d : AiKnowledgeDocument) : List Text :=
  (chunkText config d.content).map Text.toWellFormed

/-- What holds of the tables: a document has the rows of all its chunks or none, and no row
is without its document. -/
structure Good (config : AiConfig) (db : KnowledgeDb ε) : Prop where
  chunksMatch : ChunksMatch config db
  whole : ∀ d ∈ db.documents.rows, HasChunks db d.id [] ∨ HasChunks db d.id (storedChunks config d)
  owned : ∀ c ∈ db.chunks.rows, ∃ d, db.documents.find? c.documentId = some d

def KeepsContents (db db' : KnowledgeDb ε) : Prop :=
  ∀ id d, db.documents.find? id = some d →
    ∃ d', db'.documents.find? id = some d' ∧ d'.content = d.content

/-- What a commit leaves that keeps `ChunksMatch` exactly when it meets `C`. -/
def Leaves (config : AiConfig) (db db' : KnowledgeDb ε) (C : Prop) : Prop :=
  (ChunksMatch config db' ↔ C) ∧ (C → Good config db' ∧ KeepsContents db db')

variable {config : AiConfig} {db db' : KnowledgeDb ε} {id : Uuid}

theorem KeepsContents.refl (db : KnowledgeDb ε) : KeepsContents db db := fun _ d h => ⟨d, h, rfl⟩

theorem Leaves.of_good {C : Prop} (hc : C) (h : Good config db') (hkeeps : KeepsContents db db') :
    Leaves config db db' C :=
  ⟨iff_of_true h.chunksMatch hc, fun _ => ⟨h, hkeeps⟩⟩

theorem hasChunks_nil : HasChunks db id [] ↔ ∀ c ∈ db.chunks.rows, c.documentId ≠ id := by
  constructor
  · intro h c hc hid
    have hnone := (h c.chunkIndex c.content).1 ⟨c, hc, hid, rfl, rfl⟩
    cases hnone
  · intro h index content
    refine ⟨?_, fun hnone => nomatch hnone⟩
    rintro ⟨c, hc, hid, -⟩
    exact absurd hid (h c hc)

theorem HasChunks.unique {xs ys : List Text} (hx : HasChunks db id xs) (hy : HasChunks db id ys) :
    xs = ys := by
  apply List.ext_getElem?
  intro index
  apply Option.ext
  intro content
  exact (hx index content).symm.trans (hy index content)

theorem hasChunks_congr {xs : List Text}
    (h : ∀ c : AiKnowledgeChunk ε, c.documentId = id → (c ∈ db'.chunks.rows ↔ c ∈ db.chunks.rows)) :
    HasChunks db' id xs ↔ HasChunks db id xs := by
  unfold HasChunks
  refine forall_congr' fun index => forall_congr' fun content => iff_congr ?_ Iff.rfl
  refine exists_congr fun c => ?_
  constructor
  · rintro ⟨hc, hid, hrest⟩
    exact ⟨(h c hid).1 hc, hid, hrest⟩
  · rintro ⟨hc, hid, hrest⟩
    exact ⟨(h c hid).2 hc, hid, hrest⟩

/-! ## What the commits do -/

/-- Writing a document over its row matters only if it is READY then. -/
theorem leaves_save (h : Good config db) {row d : AiKnowledgeDocument}
    (hrow : db.documents.find? id = some row) (hid : d.id = row.id)
    (hcontent : d.content = row.content) :
    Leaves config db { db with documents := db.documents.save d }
      (d.status = .Ready → HasChunks db id (chunkText config row.content) ∧
        d.chunkCount = (chunkText config row.content).length) := by
  have hkey : row.id = id := Table.key_of_find? hrow
  have hmatch : ChunksMatch config { db with documents := db.documents.save d } ↔
      (d.status = .Ready → HasChunks db id (chunkText config row.content) ∧
        d.chunkCount = (chunkText config row.content).length) := by
    constructor
    · intro hall hready
      have hd := hall d ((Table.mem_save _ _ _).2 (.inl rfl)) hready
      rwa [hid, hkey, hcontent] at hd
    · intro hd e he hready
      rcases (Table.mem_save _ _ _).1 he with rfl | ⟨he, -⟩
      · rw [hid, hkey, hcontent]
        exact hd hready
      · exact h.chunksMatch e he hready
  refine ⟨hmatch, fun hc => ⟨⟨hmatch.2 hc, fun e he => ?_, fun c hc => ?_⟩, fun j e he => ?_⟩⟩
  · rcases (Table.mem_save _ _ _).1 he with rfl | ⟨he, -⟩
    · have hwhole := h.whole row (Table.mem_of_find? hrow)
      rw [← hid, storedChunks, ← hcontent] at hwhole
      exact hwhole
    · exact h.whole e he
  · obtain ⟨e, he⟩ := h.owned c hc
    simp only [Table.find?_save]
    split
    · exact ⟨d, rfl⟩
    · exact ⟨e, he⟩
  · simp only [Table.find?_save]
    split
    · rename_i hj
      have hjd : j = id := hj.symm.trans (hid.trans hkey)
      rw [hjd, hrow] at he
      cases he
      exact ⟨d, rfl, hcontent⟩
    · exact ⟨e, he, rfl⟩

theorem leaves_update (h : Good config db) (id : Uuid)
    (set : AiKnowledgeDocument → AiKnowledgeDocument)
    (hset : ∀ row, (set row).id = row.id ∧ (set row).content = row.content) :
    Leaves config db (updateDocument id set db)
      (∀ row, db.documents.find? id = some row → (set row).status = .Ready →
        HasChunks db id (chunkText config row.content) ∧
          (set row).chunkCount = (chunkText config row.content).length) := by
  unfold updateDocument
  cases hrow : db.documents.find? id with
  | none => exact .of_good (fun _ hnone => nomatch hnone) h (.refl db)
  | some row =>
    have hsave := leaves_save h hrow (hset row).1 (hset row).2
    simpa only [Option.some.injEq, forall_eq'] using hsave

theorem leaves_mark (h : Good config db) {set : AiKnowledgeDocument → AiKnowledgeDocument}
    (hset : ∀ row, (set row).id = row.id ∧ (set row).content = row.content)
    (hstatus : ∀ row, (set row).status ≠ .Ready) :
    Leaves config db (updateDocument id set db) True := by
  obtain ⟨hiff, hgood⟩ := leaves_update h id set hset
  have hc : ∀ row, db.documents.find? id = some row → (set row).status = .Ready →
      HasChunks db id (chunkText config row.content) ∧
        (set row).chunkCount = (chunkText config row.content).length :=
    fun row _ hready => absurd hready (hstatus row)
  exact .of_good trivial (hgood hc).1 (hgood hc).2

theorem leaves_insert (h : Good config db) {d : AiKnowledgeDocument}
    (hnew : db.documents.find? d.id = none) (hstatus : d.status ≠ .Ready) :
    Leaves config db { db with documents := db.documents.save d } True := by
  have hrows : ∀ c ∈ db.chunks.rows, c.documentId ≠ d.id := by
    intro c hc hid
    obtain ⟨e, he⟩ := h.owned c hc
    rw [hid, hnew] at he
    cases he
  refine .of_good trivial ⟨fun e he hready => ?_, fun e he => ?_, fun c hc => ?_⟩ fun j e he => ?_
  · rcases (Table.mem_save _ _ _).1 he with rfl | ⟨he, -⟩
    · exact absurd hready hstatus
    · exact h.chunksMatch e he hready
  · rcases (Table.mem_save _ _ _).1 he with rfl | ⟨he, -⟩
    · exact .inl (hasChunks_nil.2 hrows)
    · exact h.whole e he
  · obtain ⟨e, he⟩ := h.owned c hc
    exact ⟨e, (Table.find?_save_ne _ _ _ (hrows c hc).symm).trans he⟩
  · have hne : d.id ≠ j := by
      rintro rfl
      rw [hnew] at he
      cases he
    exact ⟨e, (Table.find?_save_ne _ _ _ hne).trans he, rfl⟩

theorem leaves_delete (h : Good config db) {row : AiKnowledgeDocument}
    (hrow : db.documents.find? id = some row) (hchunks : chunkText config row.content ≠ []) :
    Leaves config db (deleteChunks id db) (row.status ≠ .Ready) := by
  have hkey : row.id = id := Table.key_of_find? hrow
  have hmem : row ∈ db.documents.rows := Table.mem_of_find? hrow
  have hnone : HasChunks (deleteChunks id db) id [] := by
    refine hasChunks_nil.2 fun c hc hid => ?_
    have hkept := ((Table.mem_deleteWhere _ _ c).1 hc).2
    exact absurd hid (of_decide_eq_false hkept)
  have hother : ∀ j, j ≠ id → ∀ xs, HasChunks (deleteChunks id db) j xs ↔ HasChunks db j xs := by
    refine fun j hj xs => hasChunks_congr fun c hc => (Table.mem_deleteWhere _ _ c).trans ?_
    exact and_iff_left (decide_eq_false (hc ▸ hj))
  have hmatch : ChunksMatch config (deleteChunks id db) ↔ row.status ≠ .Ready := by
    constructor
    · intro hall hready
      obtain ⟨hhas, -⟩ := hall row hmem hready
      rw [hkey] at hhas
      exact hchunks (hhas.unique hnone)
    · intro hstatus d hd hready
      have hne : d.id ≠ id := by
        intro hid
        obtain rfl := Table.eq_of_key hd hmem (hid.trans hkey.symm)
        exact hstatus hready
      obtain ⟨hhas, hcount⟩ := h.chunksMatch d hd hready
      exact ⟨(hother d.id hne _).2 hhas, hcount⟩
  refine ⟨hmatch, fun hstatus => ⟨⟨hmatch.2 hstatus, fun d hd => ?_, fun c hc => ?_⟩, .refl db⟩⟩
  · by_cases hid : d.id = id
    · rw [hid]
      exact .inl hnone
    · rw [hother d.id hid, hother d.id hid]
      exact h.whole d hd
  · exact h.owned c ((Table.mem_deleteWhere _ _ c).1 hc).1

/-! ## The insert -/

def JobOf (db : KnowledgeDb ε) (document : AiKnowledgeDocument) : Prop :=
  ∃ row, db.documents.find? document.id = some row ∧ row.content = document.content

theorem JobOf.mono {document : AiKnowledgeDocument} (h : JobOf db document)
    (hkeeps : KeepsContents db db') : JobOf db' document := by
  obtain ⟨row, hrow, hcontent⟩ := h
  obtain ⟨row', hrow', hcontent'⟩ := hkeeps _ row hrow
  exact ⟨row', hrow', hcontent'.trans hcontent⟩

section

variable {document : AiKnowledgeDocument} {chunks : List Text} {embeddings : List ε}

theorem mem_chunkRows {c : AiKnowledgeChunk ε} : c ∈ chunkRows document chunks embeddings ↔
    ∃ index content e, chunks[index]? = some content ∧ embeddings[index]? = some e ∧
      c = ⟨document.id, document.companyId, index, content.toWellFormed, e⟩ := by
  unfold chunkRows
  rw [List.mem_mapIdx]
  constructor
  · rintro ⟨index, hindex, rfl⟩
    rw [List.length_zip] at hindex
    refine ⟨index, chunks[index], embeddings[index], List.getElem?_eq_getElem _,
      List.getElem?_eq_getElem _, ?_⟩
    simp only [List.getElem_zip]
  · rintro ⟨index, content, e, hcontent, he, rfl⟩
    obtain ⟨hchunks, rfl⟩ := List.getElem?_eq_some_iff.1 hcontent
    obtain ⟨hembeddings, rfl⟩ := List.getElem?_eq_some_iff.1 he
    refine ⟨index, ?_, ?_⟩
    · rw [List.length_zip]
      omega
    · simp only [List.getElem_zip]

theorem chunkRows_key : ∀ c ∈ chunkRows document chunks embeddings,
    ∀ c' ∈ chunkRows document chunks embeddings, key c = key c' → c = c' := by
  intro c hc c' hc' hkey
  obtain ⟨index, content, e, hcontent, he, rfl⟩ := mem_chunkRows.1 hc
  obtain ⟨index', content', e', hcontent', he', rfl⟩ := mem_chunkRows.1 hc'
  obtain ⟨-, rfl⟩ := Prod.mk.inj hkey
  obtain rfl := Option.some.inj (hcontent.symm.trans hcontent')
  obtain rfl := Option.some.inj (he.symm.trans he')
  rfl

theorem none_of_insert (h : Good config db) (hjob : JobOf db document)
    (hne : chunkText config document.content ≠ [])
    (hinsert : insertChunks document (chunkText config document.content) embeddings db = .ok db') :
    HasChunks db document.id [] := by
  obtain ⟨row, hrow, hcontent⟩ := hjob
  have hkey : row.id = document.id := Table.key_of_find? hrow
  have hpos : 0 < (chunkText config document.content).length := List.length_pos_iff.2 hne
  rcases h.whole row (Table.mem_of_find? hrow) with hnil | hall
  · rwa [hkey] at hnil
  · -- A row of index `0` would meet the new one.
    rw [hkey, storedChunks, hcontent] at hall
    obtain ⟨c, hc, hid, hindex, -⟩ :=
      (hall 0 _).2 (by rw [List.getElem?_map, List.getElem?_eq_getElem hpos]; rfl)
    unfold insertChunks at hinsert
    split at hinsert
    · cases hinsert
    · rename_i hfree
      refine absurd (List.any_eq_true.2 ⟨c, hc, decide_eq_true ⟨hid, ?_⟩⟩) hfree
      rwa [hindex]

theorem rows_insert (hnone : HasChunks db document.id [])
    (hinsert : insertChunks document chunks embeddings db = .ok db') :
    db'.documents = db.documents ∧ ∀ c, c ∈ db'.chunks.rows ↔
      c ∈ chunkRows document chunks embeddings ∨ c ∈ db.chunks.rows := by
  unfold insertChunks at hinsert
  split at hinsert
  · cases hinsert
  · cases hinsert
    refine ⟨rfl, fun c => ?_⟩
    refine (Table.mem_saveAll _ chunkRows_key c).trans (or_congr Iff.rfl (and_iff_left_of_imp ?_))
    intro hc c' hc' hmeet
    obtain ⟨index, content, e, -, -, rfl⟩ := mem_chunkRows.1 hc'
    exact hasChunks_nil.1 hnone c hc (Prod.mk.inj hmeet).1

theorem hasChunks_inserted (hnone : HasChunks db document.id [])
    (hlength : embeddings.length = chunks.length)
    (hrows : ∀ c, c ∈ db'.chunks.rows ↔
      c ∈ chunkRows document chunks embeddings ∨ c ∈ db.chunks.rows) :
    HasChunks db' document.id (chunks.map Text.toWellFormed) := by
  intro index content
  constructor
  · rintro ⟨c, hc, hid, rfl, rfl⟩
    rcases (hrows c).1 hc with hc | hc
    · obtain ⟨index, chunk, e, hchunk, -, rfl⟩ := mem_chunkRows.1 hc
      rw [List.getElem?_map, hchunk]
      rfl
    · exact absurd hid (hasChunks_nil.1 hnone c hc)
  · intro hchunk
    rw [List.getElem?_map, Option.map_eq_some_iff] at hchunk
    obtain ⟨chunk, hchunk, rfl⟩ := hchunk
    obtain ⟨hindex, -⟩ := List.getElem?_eq_some_iff.1 hchunk
    have hmem : (⟨document.id, document.companyId, index, chunk.toWellFormed,
        embeddings[index]⟩ : AiKnowledgeChunk ε) ∈ chunkRows document chunks embeddings :=
      mem_chunkRows.2 ⟨index, chunk, _, hchunk, List.getElem?_eq_getElem _, rfl⟩
    exact ⟨_, (hrows _).2 (.inl hmem), rfl, rfl, rfl⟩

theorem leaves_store (h : Good config db) (hjob : JobOf db document)
    (hne : chunkText config document.content ≠ [])
    (hlength : embeddings.length = (chunkText config document.content).length)
    (hinsert : insertChunks document (chunkText config document.content) embeddings db = .ok db') :
    Leaves config db db' True := by
  have hnone := none_of_insert h hjob hne hinsert
  obtain ⟨hdocuments, hrows⟩ := rows_insert hnone hinsert
  have hnew := hasChunks_inserted hnone hlength hrows
  obtain ⟨row, hrow, hcontent⟩ := hjob
  have hkey : row.id = document.id := Table.key_of_find? hrow
  have hmem : row ∈ db.documents.rows := Table.mem_of_find? hrow
  have hother : ∀ j, j ≠ document.id → ∀ xs, HasChunks db' j xs ↔ HasChunks db j xs := by
    refine fun j hj xs => hasChunks_congr fun c hc => (hrows c).trans (or_iff_right fun hnew => ?_)
    obtain ⟨index, content, e, -, -, rfl⟩ := mem_chunkRows.1 hnew
    exact hj hc.symm
  have hkeeps : KeepsContents db db' := by
    unfold KeepsContents
    rw [hdocuments]
    exact KeepsContents.refl db
  refine .of_good trivial ⟨fun d hd hready => ?_, fun d hd => ?_, fun c hc => ?_⟩ hkeeps
  · rw [hdocuments] at hd
    obtain ⟨hhas, hcount⟩ := h.chunksMatch d hd hready
    have hid : d.id ≠ document.id := by
      intro hid
      obtain rfl := Table.eq_of_key hd hmem (hid.trans hkey.symm)
      rw [hkey, hcontent] at hhas
      exact hne (hhas.unique hnone)
    exact ⟨(hother d.id hid _).2 hhas, hcount⟩
  · rw [hdocuments] at hd
    by_cases hid : d.id = document.id
    · obtain rfl := Table.eq_of_key hd hmem (hid.trans hkey.symm)
      rw [hid, storedChunks, hcontent]
      exact .inr hnew
    · rw [hother d.id hid, hother d.id hid]
      exact h.whole d hd
  · rw [hdocuments]
    rcases (hrows c).1 hc with hc | hc
    · obtain ⟨index, content, e, -, -, rfl⟩ := mem_chunkRows.1 hc
      exact ⟨row, hrow⟩
    · exact h.owned c hc

end

/-! ## The law of the moves -/

def PhaseOk (config : AiConfig) (db : KnowledgeDb ε) : Phase ε → Prop
  | .changed entity | .saving entity _ => entity.status = .Pending
  | .loaded document | .processing document => JobOf db document
  | .cleared document | .stored document _ =>
    JobOf db document ∧ chunkText config document.content ≠ []
  | .embedded document result => JobOf db document ∧ chunkText config document.content ≠ [] ∧
    result.embeddings.length = (chunkText config document.content).length
  | _ => True

theorem PhaseOk.mono {p : Phase ε} (h : PhaseOk config db p) (hkeeps : KeepsContents db db') :
    PhaseOk config db' p := by
  cases p with
  | loaded document => exact JobOf.mono h hkeeps
  | processing document => exact JobOf.mono h hkeeps
  | cleared document => exact ⟨h.1.mono hkeeps, h.2⟩
  | embedded document result => exact ⟨h.1.mono hkeeps, h.2⟩
  | stored document result => exact ⟨h.1.mono hkeeps, h.2⟩
  | _ => exact h

variable {call : ℕ → Call} {s : Shared (KnowledgeDb ε) Unit (Phase ε)} {i : ℕ} {l : Label ε}
  {m : Move (KnowledgeDb ε) Unit (Phase ε)}

def Lawful (config : AiConfig) (call : ℕ → Call) (s : Shared (KnowledgeDb ε) Unit (Phase ε)) (i : ℕ)
    (l : Label ε) : Move (KnowledgeDb ε) Unit (Phase ε) → Prop
  | .commit db p => PhaseOk config s.db p ∧ Leaves config s.db db (Orderly config call s (i, l))
  | .goto p | .leave p | .acquire _ p => PhaseOk config s.db p ∧ Orderly config call s (i, l)

theorem leaves_enqueue (h : Good config db) (time : Option ℕ) :
    Leaves config db (enqueueIngestion id time db) True := by
  unfold enqueueIngestion
  split
  · exact .of_good trivial h (.refl db)
  · exact .of_good trivial ⟨h.chunksMatch, h.whole, h.owned⟩ (.refl db)

theorem createMove_lawful {companyId userId : Uuid} {dto : CreateAiKnowledgeDocumentDto}
    (h : Good config s.db)
    (hm : createMove companyId userId dto l (s.phase i) s.db = some m) :
    Lawful config call s i l m := by
  unfold createMove at hm
  split at hm
  case h_1 id _ =>
    obtain ⟨hfree, hm⟩ := Option.ite_none_right_eq_some.1 hm
    cases hm
    exact ⟨trivial, leaves_insert h (Option.isNone_iff_eq_none.1 hfree) nofun⟩
  case h_2 =>
    cases hm
    exact ⟨trivial, leaves_enqueue h none⟩
  case h_3 => cases hm

theorem merged_ready_iff {entity seen row : AiKnowledgeDocument} (h : entity.status = .Pending) :
    (mergeDocument entity seen row).status = .Ready ↔
      seen.status = .Pending ∧ row.status = .Ready := by
  show mergeCol entity.status seen.status row.status = .Ready ↔ _
  rw [h]
  by_cases hseen : seen.status = .Pending
  · rw [hseen, mergeCol_of_eq rfl]
    exact (and_iff_right rfl).symm
  · rw [mergeCol_of_ne (Ne.symm hseen)]
    exact iff_of_false nofun fun hboth => hseen hboth.1

theorem reingestMove_lawful {id companyId : Uuid} (h : Good config s.db)
    (hok : PhaseOk config s.db (s.phase i)) (hcall : call i = .reingest id companyId)
    (hm : reingestMove id companyId l (s.phase i) s.db = some m) : Lawful config call s i l m := by
  generalize hp : s.phase i = p at hm hok
  unfold reingestMove at hm
  split at hm
  case h_1 =>
    split at hm
    · cases hm
      exact ⟨rfl, trivial⟩
    · cases hm
      exact ⟨trivial, trivial⟩
  case h_2 =>
    obtain ⟨seen, -, rfl⟩ := Option.map_eq_some_iff.1 hm
    exact ⟨hok, trivial⟩
  case h_3 entity seen =>
    obtain ⟨row, hrow, rfl⟩ := Option.map_eq_some_iff.1 hm
    have hsave := leaves_save h hrow (d := mergeDocument entity seen row) rfl rfl
    have hcond : ((mergeDocument entity seen row).status = .Ready →
        HasChunks s.db id (chunkText config row.content) ∧
          (mergeDocument entity seen row).chunkCount = (chunkText config row.content).length) ↔
        Orderly config call s (i, .write) := by
      simp only [Orderly, hcall, hp, hrow, Option.mem_def, Option.some.injEq, forall_eq']
      rw [merged_ready_iff hok]
      show (_ → _ ∧ mergeCol entity.chunkCount seen.chunkCount row.chunkCount = _) ↔ _
      constructor
      · intro hready hrowReady hseen hne
        obtain ⟨-, hcount⟩ := h.chunksMatch row (Table.mem_of_find? hrow) hrowReady
        have hmerged := (hready ⟨hseen, hrowReady⟩).2
        rw [mergeCol_of_ne hne] at hmerged
        rw [hmerged, hcount]
      · rintro hcount ⟨hseen, hrowReady⟩
        obtain ⟨hhas, hrowCount⟩ := h.chunksMatch row (Table.mem_of_find? hrow) hrowReady
        have hkey : row.id = id := Table.key_of_find? hrow
        rw [hkey] at hhas
        refine ⟨hhas, ?_⟩
        by_cases hne : entity.chunkCount = seen.chunkCount
        · rw [mergeCol_of_eq hne, hrowCount]
        · rw [mergeCol_of_ne hne, hcount hrowReady hseen hne, hrowCount]
    unfold Leaves at hsave
    rw [hcond] at hsave
    exact ⟨trivial, hsave⟩
  case h_4 time _ =>
    cases hm
    exact ⟨trivial, leaves_enqueue h (some time)⟩
  case h_5 => cases hm

theorem deleteMove_lawful {id companyId : Uuid} (h : Good config s.db)
    (hm : deleteMove id companyId l (s.phase i) s.db = some m) : Lawful config call s i l m := by
  unfold deleteMove at hm
  split at hm
  case h_1 =>
    split at hm
    · cases hm
      exact ⟨trivial, trivial⟩
    · cases hm
      exact ⟨trivial, trivial⟩
  case h_2 id' _ =>
    cases hm
    obtain ⟨-, hgood⟩ := leaves_update h id' (fun row => { row with deleted := true })
      fun _ => ⟨rfl, rfl⟩
    have hc : ∀ row, s.db.documents.find? id' = some row → row.status = .Ready →
        HasChunks s.db id' (chunkText config row.content) ∧
          row.chunkCount = (chunkText config row.content).length := by
      intro row hrow hready
      have hmatch := h.chunksMatch row (Table.mem_of_find? hrow) hready
      have hkey : row.id = id' := Table.key_of_find? hrow
      rwa [hkey] at hmatch
    exact ⟨trivial, .of_good trivial (hgood hc).1 (hgood hc).2⟩
  case h_3 => cases hm

theorem hasChunks_iff_ready {document : AiKnowledgeDocument} (h : Good config db)
    (hjob : JobOf db document) (hne : chunkText config document.content ≠ []) :
    HasChunks db document.id (chunkText config document.content) ↔
      (∃ c ∈ db.chunks.rows, c.documentId = document.id) ∧
        ∀ chunk ∈ chunkText config document.content, chunk.toWellFormed = chunk := by
  obtain ⟨row, hrow, hcontent⟩ := hjob
  have hkey : row.id = document.id := Table.key_of_find? hrow
  have hwhole := h.whole row (Table.mem_of_find? hrow)
  rw [hkey, storedChunks, hcontent] at hwhole
  have hsame : (chunkText config document.content).map Text.toWellFormed =
      chunkText config document.content ↔
        ∀ chunk ∈ chunkText config document.content, chunk.toWellFormed = chunk := by
    conv_lhs => rhs; rw [← List.map_id (chunkText config document.content)]
    exact List.map_inj_left
  constructor
  · intro hhas
    rcases hwhole with hnil | hall
    · exact absurd (hhas.unique hnil) hne
    · refine ⟨?_, hsame.1 (hall.unique hhas)⟩
      by_contra hnone
      refine hne (hhas.unique (hasChunks_nil.2 fun c hc hid => hnone ⟨c, hc, hid⟩))
  · rintro ⟨⟨c, hc, hid⟩, hkept⟩
    rcases hwhole with hnil | hall
    · exact absurd hid (hasChunks_nil.1 hnil c hc)
    · rwa [hsame.2 hkept] at hall

theorem workMove_lawful (h : Good config s.db) (hok : PhaseOk config s.db (s.phase i))
    (hcall : call i = .work) (hm : workMove config l (s.phase i) s.db = some m) :
    Lawful config call s i l m := by
  generalize hp : s.phase i = p at hm hok
  unfold workMove at hm
  split at hm
  case h_1 =>
    obtain ⟨-, hm⟩ := Option.ite_none_right_eq_some.1 hm
    cases hm
    exact ⟨trivial, trivial⟩
  case h_2 documentId =>
    split at hm
    · rename_i document hdocument
      cases hm
      have hfind := (Option.filter_eq_some_iff.1 hdocument).1
      have hkey : document.id = documentId := Table.key_of_find? hfind
      exact ⟨⟨document, hkey ▸ hfind, rfl⟩, trivial⟩
    · cases hm
      exact ⟨trivial, trivial⟩
  case h_3 document =>
    cases hm
    exact ⟨hok, leaves_mark h (fun _ => ⟨rfl, rfl⟩) fun _ => by rintro ⟨⟩⟩
  case h_4 document =>
    obtain ⟨row, hrow, hcontent⟩ := hok
    split at hm
    · rename_i hempty
      cases hm
      have hcond : Orderly config call s (i, .clear) ↔ True := by
        simp only [Orderly, hcall, hp]
        exact iff_true_intro fun hne => absurd hempty hne
      refine ⟨trivial, ?_⟩
      rw [hcond]
      exact leaves_mark h (fun _ => ⟨rfl, rfl⟩) fun _ => by rintro ⟨⟩
    · rename_i hne
      cases hm
      have hcond : Orderly config call s (i, .clear) ↔ row.status ≠ .Ready := by
        simp only [Orderly, hcall, hp, hrow, Option.mem_def, Option.some.injEq, forall_eq']
        exact forall_prop_of_true hne
      refine ⟨⟨⟨row, hrow, hcontent⟩, hne⟩, ?_⟩
      rw [hcond]
      exact leaves_delete h hrow (hcontent ▸ hne)
  case h_5 result document =>
    dsimp only at hm
    split at hm
    · rename_i hlength
      cases hm
      exact ⟨⟨hok.1, hok.2, hlength⟩, trivial⟩
    · cases hm
      exact ⟨trivial, trivial⟩
  case h_6 document result =>
    split at hm
    · rename_i db' hinsert
      cases hm
      exact ⟨⟨hok.1, hok.2.1⟩, leaves_store h hok.1 hok.2.1 hok.2.2 hinsert⟩
    · cases hm
      exact ⟨trivial, trivial⟩
  case h_7 document result =>
    cases hm
    obtain ⟨⟨row, hrow, hcontent⟩, hne⟩ := hok
    have hkey : row.id = document.id := Table.key_of_find? hrow
    have hupdate := leaves_update h document.id
      (markReady (chunkText config document.content).length result.model) fun _ => ⟨rfl, rfl⟩
    have hcond : (∀ row, s.db.documents.find? document.id = some row →
        (markReady (chunkText config document.content).length result.model row).status = .Ready →
        HasChunks s.db document.id (chunkText config row.content) ∧
          (markReady (chunkText config document.content).length result.model row).chunkCount =
            (chunkText config row.content).length) ↔ Orderly config call s (i, .ready) := by
      simp only [Orderly, hcall, hp, hrow, Option.some.injEq, forall_eq', hcontent]
      have hready := hasChunks_iff_ready h ⟨row, hrow, hcontent⟩ hne
      exact ⟨fun hmarked => hready.1 (hmarked rfl).1, fun hrows _ => ⟨hready.2 hrows, rfl⟩⟩
    unfold Leaves at hupdate
    rw [hcond] at hupdate
    exact ⟨trivial, hupdate⟩
  case h_12 document message =>
    cases hm
    exact ⟨trivial, leaves_mark h (fun _ => ⟨rfl, rfl⟩) fun _ => by rintro ⟨⟩⟩
  case h_13 => cases hm
  all_goals
    cases hm
    exact ⟨trivial, trivial⟩

theorem move_lawful (h : Good config s.db) (hok : PhaseOk config s.db (s.phase i))
    (hm : protocol config call i l (s.phase i) s.db = some m) : Lawful config call s i l m := by
  unfold protocol at hm
  split at hm
  case h_1 => exact createMove_lawful h hm
  case h_2 hcall => exact reingestMove_lawful h hok hcall hm
  case h_3 => exact deleteMove_lawful h hm
  case h_4 hcall => exact workMove_lawful h hok hcall hm

theorem law (config : AiConfig) (call : ℕ → Call) :
    CommitLaw (protocol config call : Protocol (KnowledgeDb ε) Unit (Phase ε) (Label ε)) (Good config)
      (fun _ db _ p => PhaseOk config db p) (fun _ db db' => KeepsContents db db')
      (ChunksMatch config) (Orderly config call) where
  good h := h.chunksMatch
  mono h hkeeps := PhaseOk.mono h hkeeps
  weaken h _ := h
  quiet := by
    intro s i l m hs hm hquiet
    have hlawful := move_lawful hs.db (hs.phase i) hm
    cases m with
    | commit db' p => exact absurd rfl (hquiet db' p)
    | _ => exact hlawful
  commit := by
    intro s i l db' p hs hm
    obtain ⟨hok, hiff, hgood⟩ := move_lawful hs.db (hs.phase i) hm
    refine ⟨hiff, fun hmatch => ?_⟩
    obtain ⟨hdb, hkeeps⟩ := hgood (hiff.1 hmatch)
    exact ⟨⟨hdb, PhaseOk.mono hok hkeeps⟩, hkeeps⟩

/-- Every READY document has exactly the chunks of its content in every state of a run, exactly
when chunks are deleted from no READY document, documents are marked READY while they have
rows that are stored as they were cut, and no reingestion writes an old count over one. -/
theorem chunks_match_iff (config : AiConfig) (call : ℕ → Call) {db : KnowledgeDb ε}
    (hdb : Good config db) {ls : List (ℕ × Label ε)} {s : Shared (KnowledgeDb ε) Unit (Phase ε)}
    (hrun : (machine config call).Run (.start db .called) ls s) :
    (∀ ks, ks <+: ls → ∀ s₁, (machine config call).Run (.start db .called) ks s₁ →
        ChunksMatch config s₁.db) ↔
      (machine config call).RunWith (Orderly config call) (.start db .called) ls s := by
  have hstart : (Shared.start db .called : Shared (KnowledgeDb ε) Unit (Phase ε)).Inv (Good config)
      fun _ db _ p => PhaseOk config db p := ⟨hdb, fun _ => trivial⟩
  exact (law config call).run_iff hstart hrun

end

namespace IngestionDemo

def config : AiConfig := ⟨4, 1⟩

/-- `abcdef`, which is cut into `abcd` and `def`. -/
def text : Text := [97, 98, 99, 100, 101, 102]

def vectors : EmbeddingResult ℕ := ⟨[1, 2], "text-embedding"⟩

def calls (i : ℕ) : Call :=
  if i = 0 then .create 10 99 { scope := .Company, title := "Returns", content := text }
  else if i = 2 then .reingest 5 10
  else .work

def ingesting : List (ℕ × Label ℕ) :=
  [(0, .insert 5), (0, .enqueue 0), (1, .take 5), (1, .read), (1, .process), (1, .clear),
    (1, .embed vectors), (1, .store)]

def ingested (s : Shared (KnowledgeDb ℕ) Unit (Phase ℕ)) : Option (AiKnowledgeStatus × Text) × ℕ :=
  ((s.db.documents.find? 5).map fun d => (d.status, d.content), s.db.chunks.rows.length)

theorem good : Good config ({} : KnowledgeDb ℕ) where
  chunksMatch _ hd := absurd hd List.not_mem_nil
  whole _ hd := absurd hd List.not_mem_nil
  owned _ hc := absurd hc List.not_mem_nil

theorem not_match {s : Shared (KnowledgeDb ℕ) Unit (Phase ℕ)}
    (h : ingested s = (some (.Ready, text), 0)) : ¬ ChunksMatch config s.db := by
  obtain ⟨hdocument, hrows⟩ := Prod.mk.inj h
  obtain ⟨d, hd, hstatus⟩ := Option.map_eq_some_iff.1 hdocument
  obtain ⟨hready, hcontent⟩ := Prod.mk.inj hstatus
  intro hmatch
  obtain ⟨hhas, -⟩ := hmatch d (Table.mem_of_find? hd) hready
  rw [hcontent] at hhas
  obtain ⟨c, hc, -⟩ := (hhas 1 [100, 101, 102]).2 (by decide)
  rw [List.length_eq_zero_iff.1 hrows] at hc
  exact absurd hc List.not_mem_nil

end IngestionDemo

open IngestionDemo in
theorem chunks_match_iff_one_job :
    ∃ s, (machine config calls).Run (.start {} .called) (ingesting ++ [(1, .ready)]) s ∧
      ingested s = (some (.Ready, text), 2) ∧ ChunksMatch config s.db := by
  obtain ⟨s, hrun, hs⟩ := Machine.exists_runWith (machine config calls) (Orderly config calls)
    (.start {} .called) (ingesting ++ [(1, .ready)])
    (fun s => ingested s = (some (.Ready, text), 2)) (by decide +kernel)
  exact ⟨s, hrun.run, of_decide_eq_true hs,
    (chunks_match_iff config calls good hrun.run).2 hrun _ (List.prefix_refl _) s hrun.run⟩

open IngestionDemo in
/-- The job of a reingestion deletes the chunks that the first job has just inserted, and the
first job then marks the document READY. -/
theorem ready_without_chunks :
    ∃ s, (machine config calls).Run (.start {} .called)
        (ingesting ++ [(2, .read), (2, .reread), (2, .write), (2, .enqueue 1), (3, .take 5),
          (3, .read), (3, .process), (3, .clear), (1, .ready)]) s ∧
      ¬ ChunksMatch config s.db := by
  obtain ⟨s, hrun, hs⟩ := Machine.exists_runWith (machine config calls) (fun _ _ => True)
    (.start {} .called)
    (ingesting ++ [(2, .read), (2, .reread), (2, .write), (2, .enqueue 1), (3, .take 5),
      (3, .read), (3, .process), (3, .clear), (1, .ready)])
    (fun s => ingested s = (some (.Ready, text), 0)) (by decide +kernel)
  exact ⟨s, hrun.run, not_match (of_decide_eq_true hs)⟩

end FashionErp.IngestionRace
