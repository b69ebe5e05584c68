import FrameNest.Identities
import FrameNest.Research.Documents
import FrameNest.Text.SortedJson

/-! The approval projection and the completed document as they are stored, and how they are
read back: text that is not exactly what would be stored again is refused. -/
namespace FrameNest.Records
open Plain Research

/-- What the records use of the interpreter: case folding, `json.loads`, the text of a float,
and `str` and `int` of a value that is no string, no integer. -/
structure Tool where
  casefold : String → String
  loads : String → Parsed.Loaded
  float : Option ℚ → List Char
  str : Parsed → String
  int : Parsed → Option Int

/- `json.dumps(.., sort_keys=True)` without and with `ensure_ascii`. -/
def Tool.dumps (t : Tool) (v : Parsed) : String := Parsed.dumps t.float false v
def Tool.dumpsAscii (t : Tool) (v : Parsed) : String := Parsed.dumps t.float true v

inductive RecordKind where
  | media | search | research
deriving DecidableEq

def RecordKind.value : RecordKind → String
  | media => "media"
  | search => "search"
  | research => "research"

def RecordKind.ofValue? (s : String) : Option RecordKind :=
  if s = "media" then some .media
  else if s = "search" then some .search
  else if s = "research" then some .research
  else none

/- `RecordKind(kind)`, of any value. -/
def RecordKind.ofParsed? (v : Parsed) : Option RecordKind := v.asStr.bind ofValue?

def RecordKind.document? : RecordKind → Option ResearchOperationKind
  | media => none
  | search => some .search
  | research => some .research

def recordKind : ResearchOperationKind → RecordKind
  | .search => .search
  | .research => .research

/-! The two JSON columns of a document. -/

/- `as_json_object`. -/
def citationObject (c : ResearchCitation) : Parsed :=
  .obj [("title", .str c.title), ("url", .str c.url)]

def citationsValue (citations : List ResearchCitation) : Parsed :=
  .arr (citations.map citationObject)

def citationsJson (t : Tool) (citations : List ResearchCitation) : String :=
  t.dumps (citationsValue citations)

def evidenceValue (e : CompletionEvidence) : Parsed :=
  .obj [("answer_complete", .bool e.answerComplete), ("incomplete_marker", .bool e.incompleteMarker),
    ("provider_terminal", .bool e.providerTerminal), ("refusal_marker", .bool e.refusalMarker),
    ("web_search_executed", .bool e.webSearchExecuted)]

def evidenceJson (t : Tool) (e : CompletionEvidence) : String := t.dumpsAscii (evidenceValue e)

section Shape
variable {url title : String} (h : (url ≠ "" ∧ url.toList.any isSpace = false) ∧
  url.utf8ByteSize ≤ maxCitationUrlBytes ∧ title.utf8ByteSize ≤ maxCitationTitleBytes)
include h

theorem citation_url : url ≠ "" ∧ url.toList.any isSpace = false := h.1

theorem citation_short : url.utf8ByteSize ≤ maxCitationUrlBytes := h.2.1

theorem citation_titled : title.utf8ByteSize ≤ maxCitationTitleBytes := h.2.2

end Shape

/- `NormalizedCitation`. -/
def citation? (url title : String) : Option ResearchCitation :=
  if h : (url ≠ "" ∧ url.toList.any isSpace = false) ∧ url.utf8ByteSize ≤ maxCitationUrlBytes ∧
      title.utf8ByteSize ≤ maxCitationTitleBytes then
    some ⟨url, title, citation_url h, citation_short h, citation_titled h⟩
  else none

def citationOf (item : Parsed) : Option ResearchCitation :=
  match item with
  | .obj members =>
    if Parsed.keysAre ["url", "title"] members then
      match members.lookup "url", members.lookup "title" with
      | some (.str url), some (.str title) => citation? url title
      | _, _ => none
    else none
  | _ => none

/-- `_citations_from_json`. -/
def citationsFromJson (t : Tool) (value : String) : Option (List ResearchCitation) :=
  match t.loads value with
  | .value (.arr items) =>
    if maxCitationCount < items.length then none
    else
      match items.mapM citationOf with
      | some citations => if citationsJson t citations = value then some citations else none
      | none => none
  | _ => none

def evidenceKeys : List String :=
  ["answer_complete", "incomplete_marker", "provider_terminal", "refusal_marker",
    "web_search_executed"]

/-- `_evidence_from_json`. -/
def evidenceFromJson (t : Tool) (value : String) : Option CompletionEvidence :=
  match t.loads value with
  | .value (.obj members) =>
    if Parsed.keysAre evidenceKeys members then
      match members.lookup "provider_terminal", members.lookup "answer_complete",
        members.lookup "web_search_executed", members.lookup "refusal_marker",
        members.lookup "incomplete_marker" with
      | some (.bool terminal), some (.bool complete), some (.bool searched), some (.bool refusal),
          some (.bool incomplete) =>
        if t.dumpsAscii (.obj members) = value then
          some ⟨terminal, complete, searched, refusal, incomplete⟩
        else none
      | _, _, _, _, _ => none
    else none
  | _ => none

/-! Completed documents. -/

/- What the constructor asks of the identity and the operation. -/
structure Built (t : Tool) (d : CompletedDocument) : Prop where
  identity : isUuid4Text d.documentId = true
  operation : parseOperationToken t.casefold d.operationId = true

/-- The columns of a document, as the reader is handed them. -/
structure DocumentColumns where
  documentId : Parsed
  operationId : Parsed
  kind : Parsed
  questionText : Parsed
  answerText : Parsed
  citationsJson : String
  completionEvidenceJson : String
  createdAtMs : Parsed
  completedAtMs : Parsed

/- The columns that are written. -/
def columns (t : Tool) (d : CompletedDocument) : DocumentColumns where
  documentId := .str d.documentId
  operationId := .str d.operationId
  kind := .str (recordKind d.kind).value
  questionText := .str d.questionText
  answerText := .str d.answerText
  citationsJson := citationsJson t d.citations
  completionEvidenceJson := evidenceJson t d.evidence
  createdAtMs := .int d.createdAtMs
  completedAtMs := .int d.completedAtMs

/- A string column, and an integer column; anything else is replaced by what is refused. -/
def text (v : Parsed) : String := v.asStr.getD ""

def timestamp : Parsed → Int
  | .int n => n
  | _ => -1

/-- `document_from_storage`, without the error it raises. -/
def documentFromStorage (t : Tool) (c : DocumentColumns) : Option CompletedDocument :=
  match (RecordKind.ofParsed? c.kind).bind RecordKind.document?,
    citationsFromJson t c.citationsJson, evidenceFromJson t c.completionEvidenceJson with
  | some kind, some citations, some evidence =>
    if isUuid4Text (text c.documentId) = false ∨
        parseOperationToken t.casefold (text c.operationId) = false then none
    else if h : nonblankText (text c.questionText) maxPromptUtf8Bytes = true ∧
        nonblankText (text c.answerText) maxAnswerUtf8Bytes = true ∧
        citations.length ≤ maxCitationCount ∧ completionError evidence = none ∧
        0 ≤ timestamp c.createdAtMs ∧ timestamp c.createdAtMs ≤ timestamp c.completedAtMs then
      some {
        documentId := text c.documentId
        operationId := text c.operationId
        kind := kind
        questionText := text c.questionText
        answerText := text c.answerText
        citations := citations
        evidence := evidence
        createdAtMs := timestamp c.createdAtMs
        completedAtMs := timestamp c.completedAtMs
        question_nonblank := h.1
        answer_nonblank := h.2.1
        citations_bounded := h.2.2.1
        evidence_complete := h.2.2.2.1
        created_nonneg := h.2.2.2.2.1
        completed_after := h.2.2.2.2.2 }
    else none
  | _, _, _ => none

/-! Approval projections. -/

structure ApprovedTagSnapshot where
  key : String
  displayName : String
  position : Int

structure ApprovedLocationSnapshot where
  locationId : String
  libraryId : String
  relativePath : String
  availability : String
  observedSizeBytes : Parsed
  observedMtimeNs : Parsed

/-- The projection. The constructor checks no type, so that a field that is read without a
conversion may hold any JSON value; `None` is null. -/
structure ApprovalProjection where
  schemaVersion : Int
  recordKind : RecordKind
  recordVersion : Int
  analysisRunId : Parsed
  mediaId : Parsed
  displayTitle : Parsed
  description : Parsed
  contentCategory : Parsed
  acquisitionSource : Parsed
  creatorAttributionKind : Parsed
  creatorStableId : Parsed
  creatorHandle : Parsed
  creatorDisplayName : Parsed
  coverArtifactDigest : Parsed
  tags : List ApprovedTagSnapshot
  locations : List ApprovedLocationSnapshot
  analysisResult : Parsed
  document : Option CompletedDocument

def documentValue (d : CompletedDocument) : Parsed :=
  .obj [
    ("answer_text", .str d.answerText),
    ("citations", citationsValue d.citations),
    ("completed_at_ms", .int d.completedAtMs),
    ("created_at_ms", .int d.createdAtMs),
    ("document_id", .str d.documentId),
    ("evidence", evidenceValue d.evidence),
    ("kind", .str (recordKind d.kind).value),
    ("operation_id", .str d.operationId),
    ("question_text", .str d.questionText)]

def locationValue (l : ApprovedLocationSnapshot) : Parsed :=
  .obj [
    ("availability", .str l.availability),
    ("library_id", .str l.libraryId),
    ("location_id", .str l.locationId),
    ("observed_mtime_ns", l.observedMtimeNs),
    ("observed_size_bytes", l.observedSizeBytes),
    ("relative_path", .str l.relativePath)]

def tagValue (tag : ApprovedTagSnapshot) : Parsed :=
  .obj [("display_name", .str tag.displayName), ("key", .str tag.key), ("position", .int tag.position)]

/-- The payload of `canonical_json`. -/
def ApprovalProjection.payload (p : ApprovalProjection) : Parsed :=
  .obj [
    ("acquisition_source", p.acquisitionSource),
    ("analysis_result", p.analysisResult),
    ("analysis_run_id", p.analysisRunId),
    ("content_category", p.contentCategory),
    ("cover_artifact_digest", p.coverArtifactDigest),
    ("creator_attribution_kind", p.creatorAttributionKind),
    ("creator_display_name", p.creatorDisplayName),
    ("creator_handle", p.creatorHandle),
    ("creator_stable_id", p.creatorStableId),
    ("description", p.description),
    ("display_title", p.displayTitle),
    ("document", p.document.elim .null documentValue),
    ("locations", .arr (p.locations.map locationValue)),
    ("media_id", p.mediaId),
    ("record_kind", .str p.recordKind.value),
    ("record_version", .int p.recordVersion),
    ("schema_version", .int p.schemaVersion),
    ("tags", .arr (p.tags.map tagValue))]

def ApprovalProjection.canonicalJson (p : ApprovalProjection) (t : Tool) : String :=
  t.dumps p.payload

/- `value[key]` of what was loaded. -/
def item? : Parsed → String → Option Parsed
  | .obj members, key => members.lookup key
  | _, _ => none

/- `value.get(key)`. -/
def get (members : List (String × Parsed)) (key : String) : Parsed := (members.lookup key).getD .null

/- `for item in value or []`; iterating anything but a list ends in an error at its first item. -/
def items? : Parsed → Option (List Parsed)
  | .arr items => some items
  | .null | .bool false | .int 0 | .float (some 0) | .str "" | .obj [] => some []
  | _ => none

/- `str(value)` and `int(value)`. -/
def Tool.asText (t : Tool) : Parsed → String
  | .str s => s
  | v => t.str v

def Tool.asInt (t : Tool) : Parsed → Option Int
  | .int n => some n
  | v => t.int v

def tagOf (t : Tool) (item : Parsed) : Option ApprovedTagSnapshot :=
  match item? item "key", item? item "display_name", (item? item "position").bind t.asInt with
  | some key, some name, some position => some ⟨t.asText key, t.asText name, position⟩
  | _, _, _ => none

def locationOf (t : Tool) (item : Parsed) : Option ApprovedLocationSnapshot :=
  match item? item "location_id", item? item "library_id", item? item "relative_path",
    item? item "availability", item? item "observed_size_bytes", item? item "observed_mtime_ns" with
  | some location, some library, some path, some availability, some size, some mtime =>
    some ⟨t.asText location, t.asText library, t.asText path, t.asText availability, size, mtime⟩
  | _, _, _, _, _, _ => none

/- The document of a projection; `none` is an error. -/
def documentOf (t : Tool) (payload : Parsed) : Option (Option CompletedDocument) :=
  match payload with
  | .null => some none
  | .obj members =>
    match members.lookup "evidence", members.lookup "document_id", members.lookup "operation_id",
      members.lookup "kind", members.lookup "question_text", members.lookup "answer_text",
      members.lookup "citations", members.lookup "created_at_ms", members.lookup "completed_at_ms" with
    | some evidence, some documentId, some operationId, some kind, some question, some answer,
        some citations, some created, some completed =>
      (documentFromStorage t {
        documentId := documentId
        operationId := operationId
        kind := kind
        questionText := question
        answerText := answer
        citationsJson := t.dumps citations
        completionEvidenceJson := t.dumpsAscii evidence
        createdAtMs := created
        completedAtMs := completed }).map some
    | _, _, _, _, _, _, _, _, _ => none
  | _ => none

/- What is read from the loaded object, before it is compared with the text. -/
def projectionOf (t : Tool) (parsed : List (String × Parsed)) : Option ApprovalProjection :=
  match documentOf t (get parsed "document"), (items? (get parsed "tags")).bind (·.mapM (tagOf t)),
    (items? (get parsed "locations")).bind (·.mapM (locationOf t)),
    (parsed.lookup "schema_version").bind t.asInt,
    (parsed.lookup "record_kind").bind RecordKind.ofParsed?,
    (parsed.lookup "record_version").bind t.asInt with
  | some document, some tags, some locations, some schemaVersion, some kind, some recordVersion =>
    some {
      schemaVersion := schemaVersion
      recordKind := kind
      recordVersion := recordVersion
      analysisRunId := get parsed "analysis_run_id"
      mediaId := get parsed "media_id"
      displayTitle := get parsed "display_title"
      description := get parsed "description"
      contentCategory := get parsed "content_category"
      acquisitionSource := get parsed "acquisition_source"
      creatorAttributionKind := get parsed "creator_attribution_kind"
      creatorStableId := get parsed "creator_stable_id"
      creatorHandle := get parsed "creator_handle"
      creatorDisplayName := get parsed "creator_display_name"
      coverArtifactDigest := get parsed "cover_artifact_digest"
      tags := tags
      locations := locations
      analysisResult := get parsed "analysis_result"
      document := document }
  | _, _, _, _, _, _ => none

/-- `projection_from_storage`, without the error it raises. -/
def projectionFromStorage (t : Tool) (value : String) : Option ApprovalProjection :=
  if value = "" then none
  else
    match t.loads value with
    | .value (.obj parsed) =>
      (projectionOf t parsed).filter fun projection => projection.canonicalJson t = value
    | _ => none

end FrameNest.Records

/-! The projection of a record as the catalogue holds it at the moment of approval. -/
namespace FrameNest.Records
open Plain Research

structure RecordRow where
  kind : RecordKind
  version : Int
  completedAtMs : Option Int
  documentId : Option String
  finalOperationId : Option String
  mediaId : Option String
  latestSuccessfulAnalysisRunId : Option String

structure RunRow where
  mediaId : String
  state : String
  resultJson : Option String

structure MetadataRow where
  displayTitle : Option String
  description : Option String
  contentCategory : String
  acquisitionSource : String
  creatorAttributionKind : Option String
  creatorStableId : Option String
  creatorHandle : Option String
  creatorDisplayName : Option String

structure LocationRow where
  id : String
  libraryId : String
  relativePath : String
  availability : String
  observedSizeBytes : Option Int
  observedMtimeNs : Option Int

/-- What the queries of an approval find. Tags stand in the order of their positions, locations
in the order of their identities. -/
structure Catalogue where
  document : String → Option DocumentColumns
  run : String → Option RunRow
  metadata : String → Option MetadataRow
  tags : String → List ApprovedTagSnapshot
  locations : String → List LocationRow
  cover : String → Option String

/- `derive_content_publication_readiness`. -/
def ready (displayTitle description : Option String) (tagCount : Nat) : Bool :=
  displayTitle.any (!isBlank ·) && description.any (!isBlank ·) && 1 ≤ tagCount

def forbiddenResultKeys : List String :=
  ["api_key", "credential", "prompt", "provider_response", "raw", "raw_response", "reasoning",
    "secret", "token"]

def forbidden (t : Tool) (key : String) : Bool := t.casefold key ∈ forbiddenResultKeys

mutual
/- The value of a key that is kept. -/
def keptItem (t : Tool) : Parsed → Parsed
  | .obj members => .obj (dropForbidden t members)
  | item => item
/-- `_drop_forbidden`. -/
def dropForbidden (t : Tool) : List (String × Parsed) → List (String × Parsed)
  | [] => []
  | (key, item) :: rest =>
    if forbidden t key then dropForbidden t rest
    else (key, keptItem t item) :: dropForbidden t rest
end

/-- `_normalized_analysis`. -/
def normalizedAnalysis (t : Tool) (resultJson : String) : Option (List (String × Parsed)) :=
  match t.loads resultJson with
  | .value (.obj parsed) => some (dropForbidden t parsed)
  | _ => none

/- A nullable text, and a nullable integer. -/
def textValue (s : Option String) : Parsed := s.elim .null .str
def intValue (n : Option Int) : Parsed := n.elim .null .int

def locationSnapshot (row : LocationRow) : ApprovedLocationSnapshot where
  locationId := row.id
  libraryId := row.libraryId
  relativePath := row.relativePath
  availability := row.availability
  observedSizeBytes := intValue row.observedSizeBytes
  observedMtimeNs := intValue row.observedMtimeNs

/-- `_media_projection`. -/
def mediaProjection (t : Tool) (c : Catalogue) (row : RecordRow) : Option ApprovalProjection :=
  let mediaId := row.mediaId.getD "None"
  match row.latestSuccessfulAnalysisRunId with
  | none => none
  | some runId =>
    match c.run runId, c.metadata mediaId with
    | some run, some metadata =>
      match run.resultJson.filter (· ≠ "") with
      | none => none
      | some resultJson =>
        if run.mediaId ≠ mediaId ∨ run.state ≠ "analyzed" then none
        else if ready metadata.displayTitle metadata.description (c.tags mediaId).length = false then
          none
        else
          (normalizedAnalysis t resultJson).map fun analysis => {
            schemaVersion := 1
            recordKind := .media
            recordVersion := row.version
            analysisRunId := .str runId
            mediaId := .str mediaId
            displayTitle := textValue metadata.displayTitle
            description := textValue metadata.description
            contentCategory := .str metadata.contentCategory
            acquisitionSource := .str metadata.acquisitionSource
            creatorAttributionKind := textValue metadata.creatorAttributionKind
            creatorStableId := textValue metadata.creatorStableId
            creatorHandle := textValue metadata.creatorHandle
            creatorDisplayName := textValue metadata.creatorDisplayName
            coverArtifactDigest := textValue (c.cover mediaId)
            tags := c.tags mediaId
            locations := (c.locations mediaId).map locationSnapshot
            analysisResult := .obj analysis
            document := none }
    | _, _ => none

/-- `_build_projection`. -/
def buildProjection (t : Tool) (c : Catalogue) (row : RecordRow) : Option ApprovalProjection :=
  match row.completedAtMs, row.kind, row.documentId with
  | none, _, _ => none
  | some _, .media, _ => mediaProjection t c row
  | some _, _, none => none
  | some completed, kind, some documentId =>
    match (c.document documentId).bind (documentFromStorage t) with
    | none => none
    | some document =>
      if some document.operationId ≠ row.finalOperationId ∨ recordKind document.kind ≠ kind then none
      else if document.completedAtMs ≠ completed then none
      else some {
        schemaVersion := 1
        recordKind := kind
        recordVersion := row.version
        analysisRunId := .null
        mediaId := .null
        displayTitle := .null
        description := .null
        contentCategory := .null
        acquisitionSource := .null
        creatorAttributionKind := .null
        creatorStableId := .null
        creatorHandle := .null
        creatorDisplayName := .null
        coverArtifactDigest := .null
        tags := []
        locations := []
        analysisResult := .null
        document := some document }

end FrameNest.Records
