/-
`ai-assistant/services/chunking.util.ts`, `ai-knowledge.service.ts` and
`workers/knowledge-ingestion.worker.ts`: documents, and the chunks they are ingested as.

A text is the list of its UTF-16 code units, as JavaScript slices it.
-/
import FashionErp.Core.Basic
import FashionErp.Lib.Column
import FashionErp.Lib.Table

namespace FashionErp

open Lib

/-! ## Texts -/

abbrev Text := List ℕ

namespace Text

/-- What `trim` removes, as `isWhiteSpace`. -/
def isSpace (u : ℕ) : Bool :=
  (0x9 ≤ u && u ≤ 0xD) || u = 0x20 || u = 0xA0 || u = 0x1680 || (0x2000 ≤ u && u ≤ 0x200A) ||
    u = 0x2028 || u = 0x2029 || u = 0x202F || u = 0x205F || u = 0x3000 || u = 0xFEFF

def trim (text : Text) : Text := ((text.dropWhile isSpace).reverse.dropWhile isSpace).reverse

/-- `replace(/\r\n/g, '\n')`. -/
def unixLines : Text → Text
  | 0xD :: 0xA :: rest => 0xA :: unixLines rest
  | u :: rest => u :: unixLines rest
  | [] => []

def isHigh (u : ℕ) : Bool := 0xD800 ≤ u && u ≤ 0xDBFF

def isLow (u : ℕ) : Bool := 0xDC00 ≤ u && u ≤ 0xDFFF

def toWellFormed : Text → Text
  | u :: v :: rest =>
    if isHigh u && isLow v then u :: v :: toWellFormed rest
    else (if isHigh u || isLow u then 0xFFFD else u) :: toWellFormed (v :: rest)
  | [u] => [if isHigh u || isLow u then 0xFFFD else u]
  | [] => []

end Text

/-! ## `chunkText` -/

structure AiConfig where
  chunkSize : ℕ
  chunkOverlap : ℕ

/-- The loop of `chunkText` on what is left of the text; each round drops something, so that
the length of the text is enough `fuel` (`chunkLoop_succ`). -/
def chunkLoop (chunkSize step : ℕ) : ℕ → Text → List Text
  | 0, _ => []
  | fuel + 1, rest =>
    if rest = [] then []
    else
      let chunk := Text.trim (rest.take chunkSize)
      let chunks := if rest.length ≤ chunkSize then [] else chunkLoop chunkSize step fuel (rest.drop step)
      if chunk = [] then chunks else chunk :: chunks

def chunkText (config : AiConfig) (content : Text) : List Text :=
  let normalized := (Text.unixLines content).trim
  chunkLoop config.chunkSize (max (config.chunkSize - config.chunkOverlap) 1) normalized.length
    normalized

/-! ## Documents and chunks -/

inductive AiKnowledgeScope
  | System
  | Company
  deriving DecidableEq

inductive AiKnowledgeStatus
  | Pending
  | Processing
  | Ready
  | Failed
  deriving DecidableEq

/-- `deleted` is that `deletedAt` is set. -/
structure AiKnowledgeDocument where
  id : Uuid
  companyId : Option Uuid
  scope : AiKnowledgeScope
  title : String
  content : Text
  status : AiKnowledgeStatus
  errorMessage : Option String
  chunkCount : ℕ
  embeddingModel : Option String
  createdBy : Option Uuid
  deleted : Bool := false

instance : Keyed AiKnowledgeDocument Uuid := ⟨AiKnowledgeDocument.id⟩

structure AiKnowledgeChunk (ε : Type) where
  documentId : Uuid
  companyId : Option Uuid
  chunkIndex : ℕ
  content : Text
  embedding : ε

instance (ε : Type) : Keyed (AiKnowledgeChunk ε) (Uuid × ℕ) := ⟨fun c => (c.documentId, c.chunkIndex)⟩

/-- A job of the queue; a reingestion has a `dedupeKey` with the time. -/
structure IngestionJob where
  dedupeKey : Uuid × Option ℕ
  documentId : Uuid

structure KnowledgeDb (ε : Type) where
  documents : Table AiKnowledgeDocument := .empty
  chunks : Table (AiKnowledgeChunk ε) := .empty
  jobs : List IngestionJob := []

structure EmbeddingResult (ε : Type) where
  embeddings : List ε
  model : String

structure CreateAiKnowledgeDocumentDto where
  scope : AiKnowledgeScope
  title : String
  content : Text

section

variable {ε : Type}

namespace AiKnowledgeService

def findOne (id : Uuid) (db : KnowledgeDb ε) : Option AiKnowledgeDocument :=
  (db.documents.find? id).filter fun d => !d.deleted

def findByIdInCompany (id companyId : Uuid) (db : KnowledgeDb ε) :
    Except Failure AiKnowledgeDocument :=
  match findOne id db with
  | none => .error (appException .NotFound "Knowledge document not found")
  | some document =>
    if document.scope = .Company ∧ document.companyId ≠ some companyId then
      .error (appException .NotFound "Knowledge document not found")
    else
      .ok document

/-- The entity that `create` saves. -/
def newDocument (id companyId userId : Uuid) (dto : CreateAiKnowledgeDocumentDto) :
    AiKnowledgeDocument where
  id := id
  companyId := if dto.scope = .System then none else some companyId
  scope := dto.scope
  title := dto.title
  content := dto.content.toWellFormed
  status := .Pending
  errorMessage := none
  chunkCount := 0
  embeddingModel := none
  createdBy := some userId

/-- What `reingest` makes of the document it has read. -/
def setPending (document : AiKnowledgeDocument) : AiKnowledgeDocument :=
  { document with status := .Pending, errorMessage := none }

/-- The row that `save(entity)` writes over `row` when it has read `seen`; the other columns
never change. -/
def mergeDocument (entity seen row : AiKnowledgeDocument) : AiKnowledgeDocument :=
  { row with
    status := mergeCol entity.status seen.status row.status
    errorMessage := mergeCol entity.errorMessage seen.errorMessage row.errorMessage
    chunkCount := mergeCol entity.chunkCount seen.chunkCount row.chunkCount
    embeddingModel := mergeCol entity.embeddingModel seen.embeddingModel row.embeddingModel
    deleted := mergeCol entity.deleted seen.deleted row.deleted }

def enqueueIngestion (documentId : Uuid) (time : Option ℕ) (db : KnowledgeDb ε) : KnowledgeDb ε :=
  if db.jobs.any fun job => job.dedupeKey = (documentId, time) then db
  else { db with jobs := db.jobs ++ [⟨(documentId, time), documentId⟩] }

end AiKnowledgeService

namespace KnowledgeIngestionWorker

/-- `documentRepository.update(id, …)`. -/
def updateDocument (id : Uuid) (set : AiKnowledgeDocument → AiKnowledgeDocument)
    (db : KnowledgeDb ε) : KnowledgeDb ε :=
  match db.documents.find? id with
  | some row => { db with documents := db.documents.save (set row) }
  | none => db

def markProcessing (row : AiKnowledgeDocument) : AiKnowledgeDocument :=
  { row with status := .Processing }

def markEmpty (row : AiKnowledgeDocument) : AiKnowledgeDocument :=
  { row with
    status := .Failed, errorMessage := some "Document content produced zero chunks", chunkCount := 0 }

def markReady (chunkCount : ℕ) (model : String) (row : AiKnowledgeDocument) : AiKnowledgeDocument :=
  { row with
    status := .Ready, errorMessage := none, chunkCount := chunkCount, embeddingModel := some model }

def markFailed (message : String) (row : AiKnowledgeDocument) : AiKnowledgeDocument :=
  { row with status := .Failed, errorMessage := some (message.take 1000).toString }

/-- `chunkRepository.delete({ documentId })`. -/
def deleteChunks (id : Uuid) (db : KnowledgeDb ε) : KnowledgeDb ε :=
  { db with chunks := db.chunks.deleteWhere fun c => c.documentId = id }

/-- `chunkEntities`, as the columns keep them. -/
def chunkRows (document : AiKnowledgeDocument) (chunks : List Text) (embeddings : List ε) :
    List (AiKnowledgeChunk ε) :=
  (chunks.zip embeddings).mapIdx fun index c =>
    { documentId := document.id, companyId := document.companyId, chunkIndex := index,
      content := c.1.toWellFormed, embedding := c.2 }

/-- `chunkRepository.save(chunkEntities)`: every row or, where one meets the unique index, none. -/
def insertChunks (document : AiKnowledgeDocument) (chunks : List Text) (embeddings : List ε)
    (db : KnowledgeDb ε) : Except String (KnowledgeDb ε) :=
  if db.chunks.rows.any fun c => c.documentId = document.id ∧ c.chunkIndex < chunks.length then
    .error "Duplicate entry"
  else
    .ok { db with chunks := db.chunks.saveAll (chunkRows document chunks embeddings) }

end KnowledgeIngestionWorker

end

end FashionErp
