/-
`ai-assistant/services/ai-rag.service.ts` and the search of `qdrant-vector-store.service.ts`:
the chunks of the knowledge base that a question is answered with.

Two tiers find chunks, one by the embedding of the question and one by its words.
-/
import FashionErp.Assistant.Knowledge
import Mathlib.Algebra.Field.Rat
import Mathlib.Algebra.Order.Ring.Rat
import Mathlib.Data.List.Induction
import Mathlib.Data.List.Sort

namespace FashionErp.AiRagService

open Lib Lib.Tx

/-! ## Rows and answers -/

abbrev ChunkId := String

structure ChunkRow where
  id : ChunkId
  documentId : Uuid
  companyId : Option Uuid
  chunkIndex : ℕ
  content : Text
  deriving DecidableEq

instance : Keyed ChunkRow ChunkId := ⟨ChunkRow.id⟩

structure ChunkStore where
  documents : Table AiKnowledgeDocument
  chunks : Table ChunkRow
  unique : (chunks.rows.map fun c => (c.documentId, c.chunkIndex)).Nodup

def readyDocument (db : ChunkStore) (companyId : Uuid) (chunk : ChunkRow) :
    Option AiKnowledgeDocument :=
  (db.documents.find? chunk.documentId).filter fun document =>
    !document.deleted && document.status = .Ready &&
      (chunk.companyId = some companyId || chunk.companyId = none)

/-- `ragTopK`, of a configuration that asks for a chunk at all. -/
structure RagConfig where
  ragTopK : ℕ
  pos : 0 < ragTopK

structure QdrantPoint where
  id : ChunkId
  payload : Option Unit

/-- The JSON of an answer; `result` may be missing. -/
structure QdrantSearchResponse where
  result : Option (List QdrantPoint)

/-- The answer of a `fetch`; the body may be `null`, or no JSON. -/
structure Response where
  ok : Bool
  json : Except Failure (Option QdrantSearchResponse)

/-- What `retrieve` asks others for, and the tables at the two moments it reads them. -/
structure Services (Vector : Type) where
  config : RagConfig
  qdrantConfigured : Bool
  embed : List String → Except Failure (List Vector)
  fetchSearch : Uuid → Option Vector → ℕ → Except Failure Response
  matchAgainst : String → List ChunkRow → Except Failure (List ChunkRow)
  searched : ChunkStore
  content : Except Failure ChunkStore

structure RankedChunkId where
  chunkId : ChunkId
  rank : ℕ
  deriving DecidableEq

def ranked (ids : List ChunkId) : List RankedChunkId :=
  ids.mapIdx fun index chunkId => { chunkId, rank := index + 1 }

/-! ## The tiers -/

/-- `QdrantVectorStoreService.request`: whatever goes wrong is `null`. -/
def request (response : Except Failure Response) : Option QdrantSearchResponse :=
  match response with
  | .error _ => none
  | .ok response =>
    if response.ok then
      match response.json with
      | .error _ => none
      | .ok body => body
    else none

/-- `match` of a point reads its payload. -/
def pointId (point : QdrantPoint) : Except Failure ChunkId := do
  let _ ← orRefuse point.payload .typeError
  return point.id

section

variable {Vector : Type} (s : Services Vector) (companyId : Uuid) (question : String)

def search (queryEmbedding : Option Vector) : Except Failure (List ChunkId) := do
  if s.qdrantConfigured then
    match request (s.fetchSearch companyId queryEmbedding s.config.ragTopK) with
    | none => return []
    | some response =>
      let points ← orRefuse response.result .typeError
      points.mapM pointId
  else return []

def searchDense : Except Failure (List RankedChunkId) := do
  if s.qdrantConfigured then
    let embeddings ← s.embed [question]
    let matches' ← search s companyId embeddings[0]?
    return ranked matches'
  else return []

def searchKeyword : List RankedChunkId :=
  match s.matchAgainst question
    (s.searched.chunks.rows.filter fun c => (readyDocument s.searched companyId c).isSome) with
  | .ok rows => ranked ((rows.take s.config.ragTopK).map (·.id))
  | .error _ => []

end

/-! ## `retrieve` -/

section Scores

variable {Score : Type} [LinearOrder Score] [Zero Score] [One Score] [Add Score] [Div Score]
  [NatCast Score]

/-- An entry of `fused`. -/
structure FusedChunk (Score : Type) where
  chunkId : ChunkId
  score : Score

instance (Score : Type) : Keyed (FusedChunk Score) ChunkId := ⟨FusedChunk.chunkId⟩

def RRF_K : ℕ := 60

def contribution (rank : ℕ) : Score := 1 / ((RRF_K + rank : ℕ) : Score)

def fuse (fused : Table (FusedChunk Score)) (c : RankedChunkId) : Table (FusedChunk Score) :=
  fused.save
    { chunkId := c.chunkId
      score := ((fused.find? c.chunkId).map (·.score)).getD 0 + contribution c.rank }

def reciprocalRankFusion (rankedLists : List (List RankedChunkId)) : Table (FusedChunk Score) :=
  rankedLists.flatten.foldl fuse .empty

/-- `[...fused.entries()].sort((a, b) => b[1] - a[1])`. -/
def sortFused (fused : Table (FusedChunk Score)) : List (FusedChunk Score) :=
  fused.rows.insertionSort fun a b => b.score ≤ a.score

structure RagRetrievedChunk (Score : Type) where
  documentId : Uuid
  documentTitle : String
  chunkIndex : ℕ
  content : Text
  score : Score

def retrievedChunk (db : ChunkStore) (companyId : Uuid) (c : FusedChunk Score) :
    Option (RagRetrievedChunk Score) := do
  let row ← db.chunks.find? c.chunkId
  let document ← readyDocument db companyId row
  return { documentId := row.documentId
           documentTitle := document.title
           chunkIndex := row.chunkIndex
           content := row.content
           score := c.score }

variable {Vector : Type}

def retrieve (s : Services Vector) (companyId : Uuid) (question : String) :
    Except Failure (List (RagRetrievedChunk Score)) := do
  let denseRanked ← searchDense s companyId question
  let keywordRanked := searchKeyword s companyId question
  let fused := reciprocalRankFusion [denseRanked, keywordRanked]
  if fused.rows = [] then return []
  else
    let rankedIds := (sortFused fused).take s.config.ragTopK
    let db ← s.content
    return rankedIds.filterMap (retrievedChunk db companyId)

end Scores

/-! ## What is claimed -/

section

variable (Score : Type) [LinearOrder Score] [Zero Score] [One Score] [Add Score] [Div Score]
  [NatCast Score] {Vector : Type}

/-- The same, with an embedding and a search that find nothing. -/
def Services.noDense (s : Services Vector) : Services Vector :=
  { s with
    embed := fun _ => .ok []
    fetchSearch := fun _ _ _ => .ok { ok := true, json := .ok (some { result := some [] }) } }

def Services.noKeyword (s : Services Vector) : Services Vector :=
  { s with matchAgainst := fun _ _ => .ok [] }

def Answers (response : Except Failure Response) : Prop :=
  ∃ points, response = .ok { ok := true, json := .ok (some { result := some points }) } ∧
    ∀ point ∈ points, point.payload.isSome

variable (s : Services Vector) (companyId : Uuid) (question : String)

def DenseFails : Prop :=
  s.qdrantConfigured = true ∧ ∀ embeddings, s.embed [question] = .ok embeddings →
    ¬ Answers (s.fetchSearch companyId embeddings[0]? s.config.ragTopK)

def KeywordFails : Prop :=
  ∃ error, s.matchAgainst question
    (s.searched.chunks.rows.filter fun c => (readyDocument s.searched companyId c).isSome) =
      .error error

def found : List (List RankedChunkId) :=
  [(searchDense s companyId question).toOption.getD [], searchKeyword s companyId question]

variable {Score} in
def fusedScore (lists : List (List RankedChunkId)) (chunkId : ChunkId) : Score :=
  ((lists.flatten.filter (·.chunkId = chunkId)).map fun c => contribution c.rank).foldl (· + ·) 0

variable {Score} in
/-- What is returned: distinct chunks that are READY and visible, best first, and all of
those that are found unless there is no room for more. -/
structure Retrieved (db : ChunkStore) (companyId : Uuid) (topK : ℕ)
    (lists : List (List RankedChunkId)) (chunks : List (RagRetrievedChunk Score)) : Prop where
  distinct : (chunks.map fun c => (c.documentId, c.chunkIndex)).Nodup
  visible : ∀ chunk ∈ chunks, ∃ row ∈ db.chunks.rows, ∃ document,
    readyDocument db companyId row = some document ∧ chunk =
      { documentId := row.documentId
        documentTitle := document.title
        chunkIndex := row.chunkIndex
        content := row.content
        score := fusedScore lists row.id }
  sorted : chunks.Pairwise fun a b => b.score ≤ a.score
  complete : chunks.length < topK → ∀ c ∈ lists.flatten, ∀ row,
    db.chunks.find? c.chunkId = some row → (readyDocument db companyId row).isSome →
      ∃ chunk ∈ chunks, (chunk.documentId, chunk.chunkIndex) = (row.documentId, row.chunkIndex)

/-- A tier that fails is one that finds nothing, and no place is wasted. -/
structure Graceful : Prop where
  dense : DenseFails s companyId question →
    (retrieve s companyId question : Except Failure (List (RagRetrievedChunk Score))) =
      retrieve s.noDense companyId question
  keyword : KeywordFails s companyId question →
    (retrieve s companyId question : Except Failure (List (RagRetrievedChunk Score))) =
      retrieve s.noKeyword companyId question
  retrieved : ∀ db (chunks : List (RagRetrievedChunk Score)), s.content = .ok db →
    retrieve s companyId question = .ok chunks → Retrieved db companyId s.config.ragTopK (found s companyId question) chunks

def EmbeddingAnswers : Prop :=
  s.qdrantConfigured = true → ∃ embeddings, s.embed [question] = .ok embeddings ∧
    ∀ response, request (s.fetchSearch companyId embeddings[0]? s.config.ragTopK) = some response →
      ∃ points, response.result = some points ∧ ∀ point ∈ points, point.payload.isSome

def IsVisible (db : ChunkStore) (companyId : Uuid) (chunkId : ChunkId) : Prop :=
  ∃ row, db.chunks.find? chunkId = some row ∧ (readyDocument db companyId row).isSome

def ranking : List (FusedChunk Score) :=
  sortFused (reciprocalRankFusion (found s companyId question))

/-- No chunk is cut off for one that is dropped: the best `ragTopK` are all visible, or none
after them is. -/
def CutKeeps (db : ChunkStore) : Prop :=
  (∀ c ∈ (ranking Score s companyId question).take s.config.ragTopK, IsVisible db companyId c.chunkId) ∨
    ∀ c ∈ (ranking Score s companyId question).drop s.config.ragTopK, ¬ IsVisible db companyId c.chunkId

end

/-! ## The tiers -/

section Tiers

variable {Vector : Type} {s : Services Vector} {companyId : Uuid} {question : String}

theorem mapM_pointId_isOk {points : List QdrantPoint} :
    (∃ ids, points.mapM pointId = .ok ids) ↔ ∀ point ∈ points, point.payload.isSome := by
  rw [mapM_ok_iff]
  refine forall₂_congr fun point _ => ?_
  unfold pointId
  cases point.payload with
  | none => exact iff_of_false (fun ⟨_, h⟩ => by cases h) Bool.false_ne_true
  | some payload => exact iff_of_true ⟨_, rfl⟩ rfl

theorem search_eq_ok (hconfigured : s.qdrantConfigured = true) {vector : Option Vector}
    {ids : List ChunkId} :
    search s companyId vector = .ok ids ↔
      (request (s.fetchSearch companyId vector s.config.ragTopK) = none ∧ ids = []) ∨
      ∃ response points, request (s.fetchSearch companyId vector s.config.ragTopK) = some response ∧
        response.result = some points ∧ points.mapM pointId = .ok ids := by
  unfold search
  rw [if_pos hconfigured]
  cases hrequest : request (s.fetchSearch companyId vector s.config.ragTopK) with
  | none =>
    constructor
    · intro h
      exact .inl ⟨rfl, (Except.ok.inj h).symm⟩
    · rintro (⟨-, rfl⟩ | ⟨response, points, h, -⟩)
      · rfl
      · cases h
  | some response =>
    constructor
    · intro h
      obtain ⟨points, hpoints, hids⟩ := except_bind_eq_ok.1 h
      refine .inr ⟨response, points, rfl, ?_, hids⟩
      cases hresult : response.result with
      | none =>
        rw [hresult] at hpoints
        cases hpoints
      | some listed =>
        rw [hresult] at hpoints
        rw [Except.ok.inj hpoints]
    · rintro (⟨h, -⟩ | ⟨_, points, h, hresult, hids⟩)
      · cases h
      · cases h
        exact except_bind_eq_ok.2 ⟨points, by rw [hresult]; rfl, hids⟩

theorem searchDense_eq_ok (hconfigured : s.qdrantConfigured = true) {dense : List RankedChunkId} :
    searchDense s companyId question = .ok dense ↔ ∃ embeddings ids,
      s.embed [question] = .ok embeddings ∧ search s companyId embeddings[0]? = .ok ids ∧
        dense = ranked ids := by
  unfold searchDense
  rw [if_pos hconfigured]
  constructor
  · intro h
    obtain ⟨embeddings, hembed, h⟩ := except_bind_eq_ok.1 h
    obtain ⟨ids, hids, h⟩ := except_bind_eq_ok.1 h
    exact ⟨embeddings, ids, hembed, hids, (Except.ok.inj h).symm⟩
  · rintro ⟨embeddings, ids, hembed, hids, rfl⟩
    exact except_bind_eq_ok.2 ⟨embeddings, hembed, except_bind_eq_ok.2 ⟨ids, hids, rfl⟩⟩

theorem searchDense_isOk :
    (∃ dense, searchDense s companyId question = .ok dense) ↔
      EmbeddingAnswers s companyId question := by
  by_cases hconfigured : s.qdrantConfigured = true
  · constructor
    · rintro ⟨dense, h⟩ -
      obtain ⟨embeddings, ids, hembed, hids, -⟩ := (searchDense_eq_ok hconfigured).1 h
      refine ⟨embeddings, hembed, fun response hresponse => ?_⟩
      rcases (search_eq_ok hconfigured).1 hids with ⟨hnone, -⟩ | ⟨_, points, hsome, hresult, hids⟩
      · rw [hnone] at hresponse
        cases hresponse
      · rw [hsome] at hresponse
        cases hresponse
        exact ⟨points, hresult, mapM_pointId_isOk.1 ⟨ids, hids⟩⟩
    · intro h
      obtain ⟨embeddings, hembed, hanswer⟩ := h hconfigured
      cases hrequest : request (s.fetchSearch companyId embeddings[0]? s.config.ragTopK) with
      | none =>
        exact ⟨_, (searchDense_eq_ok hconfigured).2 ⟨embeddings, [], hembed,
          (search_eq_ok hconfigured).2 (.inl ⟨hrequest, rfl⟩), rfl⟩⟩
      | some response =>
        obtain ⟨points, hresult, hpayload⟩ := hanswer response hrequest
        obtain ⟨ids, hids⟩ := mapM_pointId_isOk.2 hpayload
        exact ⟨_, (searchDense_eq_ok hconfigured).2 ⟨embeddings, ids, hembed,
          (search_eq_ok hconfigured).2 (.inr ⟨response, points, hrequest, hresult, hids⟩), rfl⟩⟩
  · refine ⟨fun _ h => absurd h hconfigured, fun _ => ⟨[], ?_⟩⟩
    unfold searchDense
    rw [if_neg hconfigured]
    rfl

theorem eq_of_request {answer : Except Failure Response} {response : QdrantSearchResponse}
    (h : request answer = some response) : answer = .ok { ok := true, json := .ok (some response) } := by
  unfold request at h
  split at h
  · cases h
  · rename_i r
    obtain ⟨ok, json⟩ := r
    dsimp only at h
    split at h
    · rename_i hok
      split at h
      · cases h
      · rw [hok, h]
    · cases h

theorem searchDense_of_fails (hfails : DenseFails s companyId question) {dense : List RankedChunkId}
    (h : searchDense s companyId question = .ok dense) : dense = [] := by
  obtain ⟨hconfigured, hfails⟩ := hfails
  obtain ⟨embeddings, ids, hembed, hids, rfl⟩ := (searchDense_eq_ok hconfigured).1 h
  rcases (search_eq_ok hconfigured).1 hids with ⟨-, rfl⟩ | ⟨response, points, hsome, hresult, hids⟩
  · rfl
  · refine absurd ⟨points, ?_, mapM_pointId_isOk.1 ⟨ids, hids⟩⟩ (hfails embeddings hembed)
    obtain ⟨result⟩ := response
    dsimp only at hresult
    rw [eq_of_request hsome, hresult]

theorem denseFails_of_not_answers (h : ¬ EmbeddingAnswers s companyId question) :
    DenseFails s companyId question := by
  unfold EmbeddingAnswers at h
  push Not at h
  obtain ⟨hconfigured, h⟩ := h
  refine ⟨hconfigured, fun embeddings hembed => ?_⟩
  rintro ⟨points, hfetch, hpayload⟩
  obtain ⟨response, hresponse, hbad⟩ := h embeddings hembed
  rw [hfetch] at hresponse
  cases hresponse
  obtain ⟨point, hpoint, hnone⟩ := hbad points rfl
  exact hnone (hpayload point hpoint)

theorem searchDense_noDense : searchDense s.noDense companyId question = .ok [] := by
  by_cases hconfigured : s.noDense.qdrantConfigured = true
  · exact (searchDense_eq_ok hconfigured).2 ⟨[], [], rfl,
      (search_eq_ok hconfigured).2 (.inr ⟨{ result := some [] }, [], rfl, rfl, rfl⟩), rfl⟩
  · unfold searchDense
    rw [if_neg hconfigured]
    rfl

end Tiers

/-! ## The ranking -/

section Ranking

variable {Score : Type} [LinearOrder Score] [Zero Score] [One Score] [Add Score] [Div Score]
  [NatCast Score]

omit [LinearOrder Score] in
theorem fusedScore_concat (cs : List RankedChunkId) (c : RankedChunkId) (id : ChunkId) :
    (fusedScore [cs ++ [c]] id : Score) =
      if c.chunkId = id then fusedScore [cs] id + contribution c.rank else fusedScore [cs] id := by
  unfold fusedScore
  rw [List.flatten_singleton, List.flatten_singleton, List.filter_append, List.map_append,
    List.foldl_append]
  by_cases hid : c.chunkId = id
  · rw [if_pos hid, List.filter_cons_of_pos (by simpa using hid)]
    rfl
  · rw [if_neg hid, List.filter_cons_of_neg (by simpa using hid)]
    rfl

omit [LinearOrder Score] in
theorem fusedScore_of_not_mem {cs : List RankedChunkId} {id : ChunkId}
    (h : ¬ ∃ c ∈ cs, c.chunkId = id) : (fusedScore [cs] id : Score) = 0 := by
  unfold fusedScore
  rw [List.flatten_singleton, List.filter_eq_nil_iff.2]
  · rfl
  · intro c hc hid
    exact h ⟨c, hc, by simpa using hid⟩

omit [LinearOrder Score] in
theorem find?_fuse (cs : List RankedChunkId) (id : ChunkId) :
    (cs.foldl fuse (.empty : Table (FusedChunk Score))).find? id =
      if ∃ c ∈ cs, c.chunkId = id then some { chunkId := id, score := fusedScore [cs] id }
      else none := by
  induction cs using List.reverseRecOn generalizing id with
  | nil =>
    rw [if_neg (by simp)]
    rfl
  | append_singleton cs c ih =>
    rw [List.foldl_append, List.foldl_cons, List.foldl_nil, fusedScore_concat]
    generalize hfused : cs.foldl fuse (.empty : Table (FusedChunk Score)) = fused at ih
    unfold fuse
    rw [Table.find?_save]
    change (if c.chunkId = id then _ else _) = _
    by_cases hid : c.chunkId = id
    · rw [if_pos hid, if_pos ⟨c, List.mem_append_right _ List.mem_cons_self, hid⟩, if_pos hid, hid]
      by_cases hold : ∃ c ∈ cs, c.chunkId = id
      · rw [ih, if_pos hold]
        rfl
      · rw [ih, if_neg hold, fusedScore_of_not_mem hold]
        rfl
    · rw [if_neg hid, ih, if_neg hid]
      by_cases hold : ∃ c ∈ cs, c.chunkId = id
      · obtain ⟨d, hd, hdid⟩ := hold
        rw [if_pos ⟨d, hd, hdid⟩, if_pos ⟨d, List.mem_append_left _ hd, hdid⟩]
      · rw [if_neg hold, if_neg]
        rintro ⟨d, hd, hdid⟩
        rcases List.mem_append.1 hd with hd | hd
        · exact hold ⟨d, hd, hdid⟩
        · rw [List.mem_singleton.1 hd] at hdid
          exact hid hdid

variable {Vector : Type} {s : Services Vector} {companyId : Uuid} {question : String}

theorem mem_ranking_iff {c : FusedChunk Score} :
    c ∈ ranking Score s companyId question ↔
      (∃ d ∈ (found s companyId question).flatten, d.chunkId = c.chunkId) ∧
        c.score = fusedScore (found s companyId question) c.chunkId := by
  unfold ranking sortFused
  rw [List.mem_insertionSort, Table.mem_rows_iff]
  unfold reciprocalRankFusion
  rw [find?_fuse]
  change (if ∃ d ∈ (found s companyId question).flatten, d.chunkId = c.chunkId then some _ else none) =
    some c ↔ _
  obtain ⟨id, score⟩ := c
  have hscore : (fusedScore [(found s companyId question).flatten] id : Score) =
      fusedScore (found s companyId question) id := by
    unfold fusedScore
    rw [List.flatten_singleton]
  split
  · rename_i hfound
    rw [Option.some.injEq, FusedChunk.mk.injEq]
    change id = id ∧ fusedScore [(found s companyId question).flatten] id = score ↔ _ ∧
      score = fusedScore (found s companyId question) id
    rw [hscore]
    constructor
    · rintro ⟨-, h⟩
      exact ⟨hfound, h.symm⟩
    · rintro ⟨-, h⟩
      exact ⟨rfl, h.symm⟩
  · rename_i hfound
    constructor
    · intro h
      cases h
    · rintro ⟨h, -⟩
      exact absurd h hfound

theorem ranking_sorted : (ranking Score s companyId question).Pairwise fun a b => b.score ≤ a.score := by
  have htotal : Std.Total fun a b : FusedChunk Score => b.score ≤ a.score :=
    ⟨fun a b => le_total b.score a.score⟩
  have htrans : IsTrans (FusedChunk Score) fun a b => b.score ≤ a.score :=
    ⟨fun a b c hab hbc => le_trans hbc hab⟩
  exact List.pairwise_insertionSort _ _

theorem ranking_nodup : ((ranking Score s companyId question).map (·.chunkId)).Nodup :=
  ((List.perm_insertionSort _ _).map _).nodup_iff.2
    (reciprocalRankFusion (found s companyId question)).nodup

/-- What `retrieve` returns: of the best, those that are visible. -/
theorem retrieve_eq_ok {db : ChunkStore} (hcontent : s.content = .ok db)
    {chunks : List (RagRetrievedChunk Score)} :
    retrieve s companyId question = .ok chunks ↔ EmbeddingAnswers s companyId question ∧
      chunks = ((ranking Score s companyId question).take s.config.ragTopK).filterMap
        (retrievedChunk db companyId) := by
  have hsome : ∀ dense, searchDense s companyId question = .ok dense →
      found s companyId question = [dense, searchKeyword s companyId question] := by
    intro dense h
    unfold found
    rw [h]
    rfl
  rw [← searchDense_isOk]
  unfold retrieve
  constructor
  · intro h
    obtain ⟨dense, hdense, h⟩ := except_bind_eq_ok.1 h
    refine ⟨⟨dense, hdense⟩, ?_⟩
    unfold ranking
    rw [hsome dense hdense]
    dsimp only at h
    split at h
    · rename_i hnone
      cases h
      unfold sortFused
      rw [hnone, List.insertionSort_nil, List.take_nil, List.filterMap_nil]
    · rw [hcontent] at h
      exact (Except.ok.inj h).symm
  · rintro ⟨⟨dense, hdense⟩, rfl⟩
    refine except_bind_eq_ok.2 ⟨dense, hdense, ?_⟩
    unfold ranking
    rw [hsome dense hdense]
    dsimp only
    split
    · rename_i hnone
      unfold sortFused
      rw [hnone, List.insertionSort_nil, List.take_nil, List.filterMap_nil]
      rfl
    · rw [hcontent]
      rfl

end Ranking

/-! ## What is returned -/

section Retrieved

variable {Score : Type} [LinearOrder Score] [Zero Score] [One Score] [Add Score] [Div Score]
  [NatCast Score] {Vector : Type} {s : Services Vector} {companyId : Uuid} {question : String}
  {db : ChunkStore}

omit [LinearOrder Score] [Zero Score] [One Score] [Add Score] [Div Score] [NatCast Score] in
theorem retrievedChunk_eq_some {c : FusedChunk Score} {chunk : RagRetrievedChunk Score} :
    retrievedChunk db companyId c = some chunk ↔ ∃ row document,
      db.chunks.find? c.chunkId = some row ∧ readyDocument db companyId row = some document ∧
        chunk =
          { documentId := row.documentId
            documentTitle := document.title
            chunkIndex := row.chunkIndex
            content := row.content
            score := c.score } := by
  unfold retrievedChunk
  simp only [Option.bind_eq_bind, Option.bind_eq_some_iff, Option.pure_def, Option.some.injEq]
  constructor
  · rintro ⟨row, hrow, document, hdocument, rfl⟩
    exact ⟨row, document, hrow, hdocument, rfl⟩
  · rintro ⟨row, document, hrow, hdocument, rfl⟩
    exact ⟨row, hrow, document, hdocument, rfl⟩

omit [LinearOrder Score] [Zero Score] [One Score] [Add Score] [Div Score] [NatCast Score] in
theorem retrievedChunk_isSome {c : FusedChunk Score} :
    (retrievedChunk db companyId c).isSome ↔ IsVisible db companyId c.chunkId := by
  unfold IsVisible
  rw [Option.isSome_iff_exists]
  constructor
  · rintro ⟨chunk, h⟩
    obtain ⟨row, document, hrow, hdocument, -⟩ := retrievedChunk_eq_some.1 h
    exact ⟨row, hrow, by rw [hdocument]; rfl⟩
  · rintro ⟨row, hrow, hvisible⟩
    obtain ⟨document, hdocument⟩ := Option.isSome_iff_exists.1 hvisible
    exact ⟨_, retrievedChunk_eq_some.2 ⟨row, document, hrow, hdocument, rfl⟩⟩

theorem row_unique {row row' : ChunkRow} (hrow : row ∈ db.chunks.rows) (hrow' : row' ∈ db.chunks.rows)
    (h : (row.documentId, row.chunkIndex) = (row'.documentId, row'.chunkIndex)) : row = row' :=
  List.inj_on_of_nodup_map db.unique hrow hrow' h

theorem retrieved_of_complete {chunks : List (RagRetrievedChunk Score)}
    (hchunks : chunks = ((ranking Score s companyId question).take s.config.ragTopK).filterMap
      (retrievedChunk db companyId))
    (hcomplete : chunks.length < s.config.ragTopK → ∀ c ∈ (found s companyId question).flatten,
      ∀ row, db.chunks.find? c.chunkId = some row → (readyDocument db companyId row).isSome →
        ∃ chunk ∈ chunks, (chunk.documentId, chunk.chunkIndex) = (row.documentId, row.chunkIndex)) :
    Retrieved db companyId s.config.ragTopK (found s companyId question) chunks := by
  have hsorted : ((ranking Score s companyId question).take s.config.ragTopK).Pairwise
      fun a b => b.score ≤ a.score := ranking_sorted.sublist (List.take_sublist _ _)
  have hnodup : ((ranking Score s companyId question).take s.config.ragTopK).Pairwise
      fun a b => a.chunkId ≠ b.chunkId :=
    List.pairwise_map.1 (ranking_nodup.sublist ((List.take_sublist _ _).map _))
  refine ⟨?_, fun chunk hchunk => ?_, ?_, hcomplete⟩
  · rw [hchunks, List.Nodup, List.pairwise_map, List.pairwise_filterMap]
    refine hnodup.imp fun {a b} hne chunk hchunk chunk' hchunk' heq => hne ?_
    obtain ⟨row, document, hrow, -, rfl⟩ := retrievedChunk_eq_some.1 hchunk
    obtain ⟨row', document', hrow', -, rfl⟩ := retrievedChunk_eq_some.1 hchunk'
    have hrows := row_unique (Table.mem_of_find? hrow) (Table.mem_of_find? hrow') heq
    rw [← Table.key_of_find? hrow, ← Table.key_of_find? hrow', hrows]
  · rw [hchunks, List.mem_filterMap] at hchunk
    obtain ⟨c, hc, hchunk⟩ := hchunk
    obtain ⟨row, document, hrow, hdocument, rfl⟩ := retrievedChunk_eq_some.1 hchunk
    obtain ⟨-, hscore⟩ := mem_ranking_iff.1 (List.mem_of_mem_take hc)
    have hid : row.id = c.chunkId := Table.key_of_find? hrow
    refine ⟨row, Table.mem_of_find? hrow, document, hdocument, ?_⟩
    rw [hscore, hid]
  · rw [hchunks, List.pairwise_filterMap]
    refine hsorted.imp fun {a b} hle chunk hchunk chunk' hchunk' => ?_
    obtain ⟨row, document, -, -, rfl⟩ := retrievedChunk_eq_some.1 hchunk
    obtain ⟨row', document', -, -, rfl⟩ := retrievedChunk_eq_some.1 hchunk'
    exact hle

theorem complete_of_cutKeeps (hkeeps : CutKeeps Score s companyId question db)
    (hroom : (((ranking Score s companyId question).take s.config.ragTopK).filterMap
      (retrievedChunk db companyId)).length < s.config.ragTopK)
    {c : RankedChunkId} (hc : c ∈ (found s companyId question).flatten) {row : ChunkRow}
    (hrow : db.chunks.find? c.chunkId = some row) (hvisible : (readyDocument db companyId row).isSome) :
    ∃ chunk ∈ ((ranking Score s companyId question).take s.config.ragTopK).filterMap
      (retrievedChunk db companyId),
        (chunk.documentId, chunk.chunkIndex) = (row.documentId, row.chunkIndex) := by
  let entry : FusedChunk Score :=
    { chunkId := c.chunkId, score := fusedScore (found s companyId question) c.chunkId }
  have hentry : entry ∈ ranking Score s companyId question := mem_ranking_iff.2 ⟨⟨c, hc, rfl⟩, rfl⟩
  have hisVisible : IsVisible db companyId entry.chunkId := ⟨row, hrow, hvisible⟩
  rw [← List.take_append_drop s.config.ragTopK (ranking Score s companyId question),
    List.mem_append] at hentry
  rcases hentry with hkept | hdropped
  · obtain ⟨document, hdocument⟩ := Option.isSome_iff_exists.1 hvisible
    exact ⟨_, List.mem_filterMap.2 ⟨entry, hkept,
      retrievedChunk_eq_some.2 ⟨row, document, hrow, hdocument, rfl⟩⟩, rfl⟩
  · -- Then the best are all visible, and fill the places.
    rcases hkeeps with hall | hnone
    · have hlength : (((ranking Score s companyId question).take s.config.ragTopK).filterMap
          (retrievedChunk db companyId)).length =
            ((ranking Score s companyId question).take s.config.ragTopK).length := by
        rw [List.length_filterMap_eq_countP, List.countP_eq_length]
        exact fun k hk => retrievedChunk_isSome.2 (hall k hk)
      have hlong : 0 < ((ranking Score s companyId question).drop s.config.ragTopK).length :=
        List.length_pos_of_mem hdropped
      rw [List.length_drop] at hlong
      rw [hlength, List.length_take] at hroom
      omega
    · exact absurd hisVisible (hnone entry hdropped)

theorem cutKeeps_of_complete
    (hcomplete : (((ranking Score s companyId question).take s.config.ragTopK).filterMap
      (retrievedChunk db companyId)).length < s.config.ragTopK →
      ∀ c ∈ (found s companyId question).flatten, ∀ row, db.chunks.find? c.chunkId = some row →
        (readyDocument db companyId row).isSome →
        ∃ chunk ∈ ((ranking Score s companyId question).take s.config.ragTopK).filterMap
          (retrievedChunk db companyId),
            (chunk.documentId, chunk.chunkIndex) = (row.documentId, row.chunkIndex)) :
    CutKeeps Score s companyId question db := by
  unfold CutKeeps
  by_contra hnot
  push Not at hnot
  obtain ⟨⟨stale, hstale, hinvisible⟩, dropped, hdropped, row, hrow, hvisible⟩ := hnot
  have hroom : (((ranking Score s companyId question).take s.config.ragTopK).filterMap
      (retrievedChunk db companyId)).length < s.config.ragTopK := by
    have hless : (((ranking Score s companyId question).take s.config.ragTopK).filterMap
        (retrievedChunk db companyId)).length <
          ((ranking Score s companyId question).take s.config.ragTopK).length := by
      rw [List.length_filterMap_lt_length_iff_exists]
      refine ⟨stale, hstale, ?_⟩
      rw [← Option.not_isSome_iff_eq_none, retrievedChunk_isSome]
      exact hinvisible
    have hle := List.length_take_le s.config.ragTopK (ranking Score s companyId question)
    omega
  obtain ⟨⟨c, hc, hid⟩, -⟩ := mem_ranking_iff.1 (List.mem_of_mem_drop hdropped)
  rw [← hid] at hrow
  obtain ⟨chunk, hchunk, heq⟩ := hcomplete hroom c hc row hrow hvisible
  obtain ⟨kept, hkept, hchunk⟩ := List.mem_filterMap.1 hchunk
  obtain ⟨row', document, hrow', -, rfl⟩ := retrievedChunk_eq_some.1 hchunk
  have hrows := row_unique (Table.mem_of_find? hrow') (Table.mem_of_find? hrow) heq
  have hsame : kept.chunkId = dropped.chunkId := by
    rw [← Table.key_of_find? hrow', hrows, Table.key_of_find? hrow, hid]
  -- No chunk is before the cut and after it.
  have hnodup : ((ranking Score s companyId question).map (·.chunkId)).Nodup := ranking_nodup
  rw [← List.take_append_drop s.config.ragTopK (ranking Score s companyId question), List.map_append,
    List.nodup_append] at hnodup
  exact hnodup.2.2 _ (List.mem_map_of_mem hkept) _ (List.mem_map_of_mem hdropped) hsame

variable (Score) in
/-- When retrieval degrades gracefully: when the embedding and the search answer, or there
is no vector store, and no visible chunk is cut off for one that is dropped. -/
theorem retrieval_graceful_iff (s : Services Vector) (companyId : Uuid) (question : String)
    (hcontent : s.content = .ok db) :
    Graceful Score s companyId question ↔
      EmbeddingAnswers s companyId question ∧ CutKeeps Score s companyId question db := by
  constructor
  · intro h
    have hanswers : EmbeddingAnswers s companyId question := by
      by_contra hnot
      have hanswers : EmbeddingAnswers s.noDense companyId question :=
        searchDense_isOk.1 ⟨[], searchDense_noDense⟩
      have hretrieve : retrieve s.noDense companyId question =
          .ok (((ranking Score s.noDense companyId question).take s.config.ragTopK).filterMap
            (retrievedChunk db companyId)) :=
        (retrieve_eq_ok (show s.noDense.content = .ok db from hcontent)).2 ⟨hanswers, rfl⟩
      rw [← h.dense (denseFails_of_not_answers hnot)] at hretrieve
      exact hnot ((retrieve_eq_ok hcontent).1 hretrieve).1
    refine ⟨hanswers, cutKeeps_of_complete ?_⟩
    exact (h.retrieved db _ hcontent ((retrieve_eq_ok hcontent).2 ⟨hanswers, rfl⟩)).complete
  · rintro ⟨hanswers, hkeeps⟩
    refine ⟨fun hfails => ?_, fun hfails => ?_, fun db' chunks hcontent' hretrieve => ?_⟩
    · obtain ⟨dense, hdense⟩ := searchDense_isOk.2 hanswers
      obtain rfl := searchDense_of_fails hfails hdense
      unfold retrieve
      rw [hdense, searchDense_noDense]
      rfl
    · obtain ⟨error, hfails⟩ := hfails
      have hkeyword : searchKeyword s companyId question =
          searchKeyword s.noKeyword companyId question := by
        have hnone : searchKeyword s.noKeyword companyId question = [] := by
          change ranked ((([] : List ChunkRow).take s.config.ragTopK).map (·.id)) = []
          rw [List.take_nil]
          rfl
        rw [hnone]
        unfold searchKeyword
        rw [hfails]
      unfold retrieve
      rw [hkeyword]
      rfl
    · rw [hcontent] at hcontent'
      cases hcontent'
      obtain ⟨-, hchunks⟩ := (retrieve_eq_ok hcontent).1 hretrieve
      refine retrieved_of_complete hchunks fun hroom c hc row hrow hvisible => ?_
      rw [hchunks] at hroom ⊢
      exact complete_of_cutKeeps hkeeps hroom hc hrow hvisible

end Retrieved

namespace RagDemo

def store : ChunkStore where
  documents := .ofRows
    [{ id := 1, companyId := some 9, scope := .Company, title := "Returns", content := []
       status := .Ready, errorMessage := none, chunkCount := 2, embeddingModel := none
       createdBy := none },
     { id := 2, companyId := some 9, scope := .Company, title := "Sizes", content := []
       status := .Processing, errorMessage := none, chunkCount := 0, embeddingModel := none
       createdBy := none }]
  chunks := .ofRows
    [{ id := "a", documentId := 1, companyId := some 9, chunkIndex := 0, content := [] },
     { id := "b", documentId := 1, companyId := some 9, chunkIndex := 1, content := [] },
     { id := "c", documentId := 2, companyId := some 9, chunkIndex := 0, content := [] }]
  unique := by decide

/-- The vector store finds `dense`, the words are found in the first chunk. -/
def services (embed : Except Failure (List Unit)) (dense : List ChunkId) : Services Unit where
  config := { ragTopK := 2, pos := by decide }
  qdrantConfigured := true
  embed _ := embed
  fetchSearch _ _ topK := .ok
    { ok := true
      json := .ok (some
        { result := some ((dense.take topK).map fun id => { id, payload := some () }) }) }
  matchAgainst _ rows := .ok (rows.take 1)
  searched := store
  content := .ok store

def down : Except Failure (List Unit) :=
  .error (appException .InternalError "Embedding provider returned HTTP 503")

end RagDemo

open RagDemo in
theorem retrieval_graceful_iff_returns :
    (Graceful ℚ (services (.ok [()]) ["b", "a"]) 9 "returns" ↔
      EmbeddingAnswers (services (.ok [()]) ["b", "a"]) 9 "returns" ∧
        CutKeeps ℚ (services (.ok [()]) ["b", "a"]) 9 "returns" store) ∧
    ((retrieve (services (.ok [()]) ["b", "a"]) 9 "returns" :
      Except Failure (List (RagRetrievedChunk ℚ))).toOption.map fun chunks =>
        chunks.map fun c => (c.documentId, c.chunkIndex)) = some [(1, 0), (1, 1)] :=
  ⟨retrieval_graceful_iff ℚ _ 9 "returns" rfl, by decide +kernel⟩

open RagDemo in
/-- The embedding fails, and there is no answer; and a stale chunk takes the place of one that
is READY. -/
theorem retrieval_not_graceful :
    ¬ Graceful ℚ (services down ["b"]) 9 "returns" ∧
      ¬ Graceful ℚ (services (.ok [()]) ["c", "b"]) 9 "returns" := by
  constructor
  · intro h
    have hfails : DenseFails (services down ["b"]) 9 "returns" :=
      ⟨rfl, fun embeddings hembed => nomatch hembed⟩
    have hsame := congrArg (fun r => r.toOption.isSome) (h.dense hfails)
    exact absurd hsame (by decide +kernel)
  · intro h
    have hkeys : (retrieve (services (.ok [()]) ["c", "b"]) 9 "returns" :
        Except Failure (List (RagRetrievedChunk ℚ))).toOption.map (fun chunks =>
          chunks.map fun c => (c.documentId, c.chunkIndex)) = some [(1, 0)] := by decide +kernel
    cases hretrieve : (retrieve (services (.ok [()]) ["c", "b"]) 9 "returns" :
        Except Failure (List (RagRetrievedChunk ℚ))) with
    | error e =>
      rw [hretrieve] at hkeys
      cases hkeys
    | ok chunks =>
      rw [hretrieve] at hkeys
      have hkeys : chunks.map (fun c => (c.documentId, c.chunkIndex)) = [(1, 0)] :=
        Option.some.inj hkeys
      have hlength : chunks.length = 1 := by
        rw [← List.length_map (fun c : RagRetrievedChunk ℚ => (c.documentId, c.chunkIndex)), hkeys]
        rfl
      have hroom : chunks.length < 2 := by omega
      obtain ⟨chunk, hchunk, heq⟩ := (h.retrieved store chunks rfl hretrieve).complete hroom
        { chunkId := "b", rank := 2 } (by decide +kernel)
        { id := "b", documentId := 1, companyId := some 9, chunkIndex := 1, content := [] }
        (by decide +kernel) (by decide +kernel)
      have hmem := List.mem_map_of_mem (f := fun c : RagRetrievedChunk ℚ =>
        (c.documentId, c.chunkIndex)) hchunk
      rw [hkeys, heq, List.mem_singleton] at hmem
      exact absurd hmem (by decide)

end FashionErp.AiRagService
