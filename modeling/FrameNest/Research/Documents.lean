import FrameNest.Relational.Table
import FrameNest.Research.Values
import FrameNest.Text.Json

/-! The durable request row: what a save overwrites, what a read gives back, and
the CHECK constraints of `research_requests`. -/
namespace FrameNest.Research
open Plain

/- `checkpointJson` is the column's parsed value; its CHECK measures the text. -/
structure ResearchRequestRow where
  record : ResearchRequestRecord
  ownerLoginKey : String
  clientRequestId : String
  requestFingerprint : String
  checkpointJson : Option Json
  checkpointSha256 : Option String
  recordId : Option String
  createdAtMs : Int
  admittedAtMs : Int
  submittedAtMs : Option Int
  finishedAtMs : Option Int
  updatedAtMs : Int
  cancelRequestedAtMs : Option Int
  cancellationConfirmedAtMs : Option Int

namespace ResearchRequestRow

def operationId (row : ResearchRequestRow) : String := row.record.operationId

def state (row : ResearchRequestRow) : ResearchLifecycleState := row.record.state

def handle (row : ResearchRequestRow) : Option ProviderHandle := row.record.remoteHandle

def terminal (row : ResearchRequestRow) : Bool := isTerminalLifecycle row.state

theorem terminal_congr {row row' : ResearchRequestRow} (h : row.state = row'.state) :
    row.terminal = row'.terminal := congrArg isTerminalLifecycle h

/- `_row_from_mapping` after `_row_to_values`: tool calls, output tokens, deadline
   and reservation have one column each, which profile and limits share. -/
def persisted (row : ResearchRequestRow) : ResearchRequestRow :=
  let profile := row.record.profile
  let limits := row.record.resourceLimits
  { row with record := { row.record with
      profile := { profile with
        maxToolCalls := limits.maxToolCalls
        maxOutputTokens := limits.maxOutputTokens
        deadlineSeconds := row.record.deadlineSeconds
        toolCalls_bounded := limits.toolCalls_bounded
        outputTokens_bounded := limits.outputTokens_bounded
        deadline_bounded := row.record.deadline_bounded }
      resourceLimits := { limits with
        budgetReservationUsdMicros := profile.budgetReservationUsdMicros
        reservation_bounded := profile.reservation_bounded } } }

/- UPDATE of `_MUTABLE_COLUMNS` from `row`; every other column keeps its value. -/
def overwrite (stored row : ResearchRequestRow) : ResearchRequestRow :=
  { stored with
    record := { stored.record with
      state := row.record.state
      cleanupState := row.record.cleanupState
      accountingState := row.record.accountingState
      remoteHandle := row.record.remoteHandle
      errorCode := row.record.errorCode }
    checkpointJson := row.checkpointJson
    checkpointSha256 := row.checkpointSha256
    recordId := row.recordId
    submittedAtMs := row.submittedAtMs
    finishedAtMs := row.finishedAtMs
    updatedAtMs := row.updatedAtMs
    cancelRequestedAtMs := row.cancelRequestedAtMs
    cancellationConfirmedAtMs := row.cancellationConfirmedAtMs }

@[simp] theorem persisted_operationId (row : ResearchRequestRow) :
    row.persisted.operationId = row.operationId := rfl

@[simp] theorem overwrite_state (stored row : ResearchRequestRow) :
    (stored.overwrite row).state = row.state := rfl

@[simp] theorem overwrite_terminal (stored row : ResearchRequestRow) :
    (stored.overwrite row).terminal = row.terminal := rfl

/- CHECK constraints over the columns that an INSERT alone writes. Numeric columns
   and enumerations are bounded by the values' own constructors. -/
def insertAccepted (row : ResearchRequestRow) : Bool :=
  bytesWithin row.record.operationId 1 128 && !isUuidText row.record.operationId &&
  isLoginKeyColumn row.ownerLoginKey && bytesWithin row.clientRequestId 1 128 &&
  isLowerHex64 row.requestFingerprint && bytesWithin row.record.prompt 1 maxPromptUtf8Bytes &&
  0 < sqlLength (sqlTrim row.record.prompt.toList) &&
  bytesWithin row.record.profile.providerId 1 64 &&
  bytesWithin row.record.profile.modelId 1 128 &&
  bytesWithin row.record.profile.configurationVersion 1 16 &&
  row.record.profile.toolAllowlist = [webSearchTool]

def checkpointAccepted (row : ResearchRequestRow) : Bool :=
  (match row.checkpointJson with
    | none => true
    | some json => 2 ≤ json.dumps.length && json.dumps.length ≤ maxAnswerUtf8Bytes) &&
  row.checkpointSha256.all isLowerHex64 &&
  row.recordId.all fun id => sqlLength id.toList = 36

def timesAccepted (row : ResearchRequestRow) : Bool :=
  row.cancelRequestedAtMs.all (0 ≤ ·) &&
  row.cancellationConfirmedAtMs.all (fun confirmed =>
    row.cancelRequestedAtMs.any fun requested => requested ≤ confirmed) &&
  0 ≤ row.createdAtMs && row.createdAtMs ≤ row.admittedAtMs &&
  row.submittedAtMs.all (row.admittedAtMs ≤ ·) && row.finishedAtMs.all (row.admittedAtMs ≤ ·) &&
  row.createdAtMs ≤ row.updatedAtMs

theorem timesAccepted_iff (row : ResearchRequestRow) : row.timesAccepted = true ↔
    (∀ t ∈ row.cancelRequestedAtMs, 0 ≤ t) ∧
    (∀ t ∈ row.cancellationConfirmedAtMs, ∃ requested ∈ row.cancelRequestedAtMs, requested ≤ t) ∧
    0 ≤ row.createdAtMs ∧ row.createdAtMs ≤ row.admittedAtMs ∧
    (∀ t ∈ row.submittedAtMs, row.admittedAtMs ≤ t) ∧
    (∀ t ∈ row.finishedAtMs, row.admittedAtMs ≤ t) ∧ row.createdAtMs ≤ row.updatedAtMs := by
  simp only [timesAccepted, Bool.and_eq_true, Option.all_eq_true, Option.any_eq_true,
    decide_eq_true_eq, Option.mem_def, and_assoc]

/- CHECK constraints over the columns that every UPDATE rewrites. -/
def updateAccepted (row : ResearchRequestRow) : Bool :=
  checkpointAccepted row && timesAccepted row

end ResearchRequestRow
end FrameNest.Research

/-! The completed document and the record that owns it. -/
namespace FrameNest.Research
open Plain Relational

/- `parse_operation_token`; Unicode case folding is the caller's. -/
def parseOperationToken (casefold : String → String) (value : String) : Bool :=
  value ≠ "" && value.toList.length ≤ 128 && !value.toList.any isControl &&
    !isUuidText (casefold value) && bytesWithin value 1 128

def isForbiddenLoginCharacter (c : Char) : Bool := isSpace c || c.toNat < 32 || c.toNat = 127

def normalizeLogin (casefold : String → String) (value : String) : Option String :=
  let stripped := strip value
  if stripped = "" ∨ stripped.toList.length > 254 then none
  else if stripped.toList.any isForbiddenLoginCharacter then none
  else some (casefold stripped)

def nonblankText (value : String) (maximum : Nat) : Bool :=
  !isBlank value && bytesWithin value 1 maximum

structure CompletedDocument where
  documentId : String
  operationId : String
  kind : ResearchOperationKind
  questionText : String
  answerText : String
  citations : List ResearchCitation
  evidence : CompletionEvidence
  createdAtMs : Int
  completedAtMs : Int
  question_nonblank : nonblankText questionText maxPromptUtf8Bytes = true
  answer_nonblank : nonblankText answerText maxAnswerUtf8Bytes = true
  citations_bounded : citations.length ≤ maxCitationCount
  evidence_complete : completionError evidence = none
  created_nonneg : 0 ≤ createdAtMs
  completed_after : createdAtMs ≤ completedAtMs

/- CHECK constraints of `kronika_documents`; the JSON columns always hold two characters. -/
def CompletedDocument.columnsAccepted (document : CompletedDocument) : Bool :=
  sqlLength document.documentId.toList = 36 &&
  bytesWithin document.operationId 1 128 && !isUuidText document.operationId &&
  bytesWithin document.questionText 1 maxPromptUtf8Bytes &&
  0 < sqlLength (sqlTrim document.questionText.toList) &&
  bytesWithin document.answerText 1 maxAnswerUtf8Bytes &&
  0 < sqlLength (sqlTrim document.answerText.toList)

structure KronikaRecord where
  recordId : String
  kind : ResearchOperationKind
  ownerLoginKey : String
  documentId : String
  finalOperationId : String
  createdAtMs : Int
  completedAtMs : Int

/- CHECK constraints of `kronika_records` for a document's record; the document's
   own constraints cover the operation and the times. -/
def KronikaRecord.columnsAccepted (record : KronikaRecord) : Bool :=
  sqlLength record.recordId.toList = 36 && isLoginKeyColumn record.ownerLoginKey

abbrev DocumentTable := Table CompletedDocument.documentId
abbrev RecordTable := Table KronikaRecord.recordId

/- INSERT with the unique operation; a table's primary key is its own. -/
def insertDocument (documents : DocumentTable) (document : CompletedDocument) :
    Option DocumentTable :=
  if document.columnsAccepted = false ∨
      documents.rows.any (fun d => d.operationId = document.operationId) = true then none
  else documents.insert? document

def insertRecord (records : RecordTable) (record : KronikaRecord) : Option RecordTable :=
  if record.columnsAccepted = false ∨ records.rows.any (fun r =>
      r.documentId = record.documentId || r.finalOperationId = record.finalOperationId) = true then
    none
  else records.insert? record

/- The constructor: everything about an answer that it does not hold already. -/
def CompletedDocument.make? (casefold : String → String) (documentId operationId : String)
    (kind : ResearchOperationKind) (questionText : String) (answer : ResearchAnswer)
    (createdAtMs completedAtMs : Int) : Option CompletedDocument :=
  if h : parseOperationToken casefold operationId = true ∧
      nonblankText questionText maxPromptUtf8Bytes = true ∧
      nonblankText answer.text maxAnswerUtf8Bytes = true ∧
      completionError answer.evidence = none ∧ 0 ≤ createdAtMs ∧ createdAtMs ≤ completedAtMs then
    some
      { documentId, operationId, kind, questionText
        answerText := answer.text
        citations := answer.citations
        evidence := answer.evidence
        createdAtMs, completedAtMs
        question_nonblank := h.2.1
        answer_nonblank := h.2.2.1
        citations_bounded := answer.citations_bounded
        evidence_complete := h.2.2.2.1
        created_nonneg := h.2.2.2.2.1
        completed_after := h.2.2.2.2.2 }
  else none

theorem insertDocument_some {documents documents' : DocumentTable} {document : CompletedDocument}
    (h : insertDocument documents document = some documents') :
    documents'.rows = documents.rows ++ [document] ∧
      ∀ d ∈ documents.rows, d.operationId ≠ document.operationId := by
  unfold insertDocument at h
  split at h
  · cases h
  · rename_i hn
    have hrows := (not_or.mp hn).2
    simp only [List.any_eq_true, decide_eq_true_eq, not_exists, not_and] at hrows
    exact ⟨(Table.insert?_some h).2, hrows⟩

theorem insertRecord_some {records records' : RecordTable} {record : KronikaRecord}
    (h : insertRecord records record = some records') :
    records'.rows = records.rows ++ [record] ∧
      ∀ r ∈ records.rows, r.finalOperationId ≠ record.finalOperationId := by
  unfold insertRecord at h
  split at h
  · cases h
  · rename_i hn
    have hrows := (not_or.mp hn).2
    simp only [List.any_eq_true, Bool.or_eq_true, decide_eq_true_eq, not_exists, not_and, not_or]
      at hrows
    exact ⟨(Table.insert?_some h).2, fun r hr => (hrows r hr).2⟩

end FrameNest.Research
