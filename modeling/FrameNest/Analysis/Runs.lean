import FrameNest.Identities

/-! What a suggestion is made from and what it says: the prepared request for the provider,
the suggestion it returns, and the exceptions either step can end with. -/
namespace FrameNest.Analysis
open Plain

def promptVersion : String := "framenest-media-suggestion-v4"
def filenameMaxLength : Nat := 180

/-- The validated suggestion. `confidence` is the decimal text of the number. -/
structure MediaSuggestion where
  title : String
  description : String
  collection : String
  tags : List String
  suggestedFilename : String
  confidence : String
  evidence : List String
  uncertainties : List String
  providerId : String
  modelId : String
  promptVersion : String
deriving DecidableEq

/-- The members of the stored JSON object, in the order of their sorted keys. -/
structure SuggestionResult where
  collection : String
  confidence : String
  description : String
  evidence : List String
  suggestedFilename : String
  tags : List String
  title : String
  uncertainties : List String
deriving DecidableEq

def serializeSuggestionResult (suggestion : MediaSuggestion) : SuggestionResult where
  collection := suggestion.collection
  confidence := suggestion.confidence
  description := suggestion.description
  evidence := suggestion.evidence
  suggestedFilename := suggestion.suggestedFilename
  tags := suggestion.tags
  title := suggestion.title
  uncertainties := suggestion.uncertainties

/-- The exception classes an execution can end with, subclasses apart from their base. -/
inductive AnalysisException where
  | lifecycleNotConfigured | modelCapability
  | providerAuth | providerRateLimited | providerModelUnavailable
  | providerUnavailable | providerPendingTimeout
  | providerInvalidResponse | providerTruncatedResponse | providerEmptyResponse | providerRefusal
  | providerFailed
  | preparationFailed | preparationUnavailable
  | suggestionError | analysisError
  | mediaNotFound | mediaUnavailable | mediaFailed
  | other
deriving DecidableEq

inductive AnalysisErrorCode where
  | providerNotConfigured | providerModelCapabilityMissing | providerAuth | providerRateLimited
  | providerModelUnavailable | providerUnavailable | providerInvalidResponse | providerFailed
  | preparationFailed | preparationUnavailable | analysisFailed | analysisOutcomeUnknown
deriving DecidableEq

def retryableErrorCodes : List AnalysisErrorCode := [.providerUnavailable, .providerRateLimited]

/-- `_classify_failure`: the error code, its message, and whether a retry may help. -/
def classifyFailure : AnalysisException → AnalysisErrorCode × String × Bool
  | .lifecycleNotConfigured => (.providerNotConfigured, "AI provider is not configured.", false)
  | .modelCapability => (.providerModelCapabilityMissing,
      "AI provider model does not support image analysis.", false)
  | .providerAuth => (.providerAuth, "AI provider authentication failed.", false)
  | .providerRateLimited => (.providerRateLimited, "AI provider rate limited the request.", true)
  | .providerModelUnavailable =>
    (.providerModelUnavailable, "AI provider model is unavailable.", false)
  | .providerUnavailable | .providerPendingTimeout =>
    (.providerUnavailable, "AI provider is temporarily unavailable.", true)
  | .providerInvalidResponse | .providerTruncatedResponse | .providerEmptyResponse
  | .providerRefusal =>
    (.providerInvalidResponse, "AI provider returned an invalid response.", false)
  | .providerFailed => (.providerFailed, "AI provider failed to analyze the media.", false)
  | .preparationFailed => (.preparationFailed, "Local media preparation failed.", false)
  | .preparationUnavailable | .suggestionError | .analysisError =>
    (.preparationUnavailable, "Local media preparation is unavailable.", false)
  | .mediaNotFound | .mediaUnavailable | .mediaFailed | .other =>
    (.analysisFailed, "Automatic analysis failed.", false)

/-- `_provider_submission_occurred`: the failure implies the provider adapter was entered. -/
def providerSubmissionOccurred : AnalysisErrorCode → Bool
  | .providerAuth | .providerRateLimited | .providerModelUnavailable | .providerUnavailable
  | .providerInvalidResponse | .providerFailed => true
  | _ => false

/-! The local preparation: paths, kinds and the request. -/

inductive MediaKind where
  | video | animatedImage | image
deriving DecidableEq

structure CatalogMedia where
  kind : MediaKind

structure CatalogLocation where
  mediaId : MediaId
  available : Bool
  libraryId : LibraryId
  relativePath : String

def isControlCode (c : Char) : Bool := c.toNat ≤ 31 || c.toNat = 127

/-- `MediaRelativePath`: what its constructor lets through. -/
def isMediaRelativePath (value : String) : Bool :=
  let l := value.toList
  !l.isEmpty && l.head? ≠ some '/' && !l.contains '\\' &&
    !(l.head?.any Char.isAlpha && l[1]? = some ':' && l[2]? = some '/') &&
    l.all (fun c => !isControlCode c) &&
    (l.splitOn '/').all fun part => !part.isEmpty && part.head? ≠ some '.'

def filenameForbidden : List Char := ['/', '\\', ':', '*', '?', '"', '<', '>', '|']

/-- `media_basename` of a validated path. -/
def mediaBasename (path : String) : Except AnalysisException String :=
  let basename := ((path.toList.splitOn '/').getLast?).getD []
  if basename.isEmpty || basename = ['.'] || basename = ['.', '.'] then .error .suggestionError
  else if basename.any fun c => isControlCode c || filenameForbidden.contains c then
    .error .suggestionError
  else .ok (String.ofList basename)

/-- `source_extension`: the lowercase extension with its dot. -/
def sourceExtension (lower : String → String) (path : String) :
    Except AnalysisException String := do
  let basename ← mediaBasename path
  let l := basename.toList
  if l.contains '.' then
    let extension := "." ++ lower (String.ofList ((l.splitOn '.').getLast?.getD []))
    if extension = "." then .error .suggestionError else .ok extension
  else .error .suggestionError

def supportedMediaType : MediaKind → String → Option String
  | .video, ".mp4" => some "video/mp4"
  | .animatedImage, ".gif" => some "image/gif"
  | .image, ".jpg" => some "image/jpeg"
  | .image, ".jpeg" => some "image/jpeg"
  | .image, ".png" => some "image/png"
  | _, _ => none

/-- The prepared result; its technical metadata and frames are carried as they come. -/
structure PreparedAnalysisResult where
  relativePath : String
  technicalMetadata : String
  representativeFrames : List String
deriving DecidableEq

structure MediaSuggestionRequest where
  basename : String
  technicalMetadata : String
  representativeFrames : List String
  promptVersion : String
deriving DecidableEq

def buildSuggestionRequest (prepared : PreparedAnalysisResult) :
    Except AnalysisException MediaSuggestionRequest := do
  let basename ← mediaBasename prepared.relativePath
  if strip basename ≠ basename || filenameMaxLength < basename.toList.length ||
      prepared.representativeFrames.isEmpty then
    .error .suggestionError
  else
    pure ⟨basename, prepared.technicalMetadata, prepared.representativeFrames, promptVersion⟩

end FrameNest.Analysis

/-! Durable media analysis runs and the constraints their table puts on them. -/
namespace FrameNest.Analysis

inductive MediaAnalysisRunState where
  | pending | analyzing | analyzed | failed
deriving DecidableEq

namespace MediaAnalysisRunState

def active : MediaAnalysisRunState → Bool
  | pending | analyzing => true
  | analyzed | failed => false

def terminal : MediaAnalysisRunState → Bool
  | analyzed | failed => true
  | pending | analyzing => false

theorem active_eq_not_terminal (s : MediaAnalysisRunState) : s.active = !s.terminal := by
  cases s <;> rfl

end MediaAnalysisRunState

def automaticPostCatalogAnalysisDefinition : String := "automatic_post_catalog"
def resultSchemaVersion : String := "framenest-media-suggestion-result-v1"
def genericDerivativeStrategy : String := "representative_frames_jpeg_v1"
def defaultMaxAnalysisAttempts : Nat := 3
def maxConfiguredAnalysisAttempts : Nat := 10

/-- A configured number of attempts: positive and bounded. -/
structure MaxAttempts where
  value : Nat
  positive : 1 ≤ value
  bounded : value ≤ maxConfiguredAnalysisAttempts
deriving DecidableEq

def MaxAttempts.default : MaxAttempts := ⟨defaultMaxAnalysisAttempts, by decide, by decide⟩

inductive AnalysisProfile where
  | genericMedia | movieIdentification
deriving DecidableEq

structure MediaAnalysisRunId where
  value : String
deriving DecidableEq

structure MediaAnalysisRun where
  id : MediaAnalysisRunId
  mediaId : MediaId
  mediaLocationId : MediaLocationId
  analysisDefinition : String
  state : MediaAnalysisRunState
  attemptCount : Nat
  providerId : Option String := none
  modelId : Option String := none
  promptVersion : Option String := none
  resultSchemaVersion : Option String := none
  resultJson : Option SuggestionResult := none
  errorCode : Option AnalysisErrorCode := none
  errorMessage : Option String := none
  createdAtMs : Nat
  startedAtMs : Option Nat := none
  completedAtMs : Option Nat := none
  version : Nat
  analysisProfile : Option AnalysisProfile := none
  reasoningEnabled : Option Bool := none
  derivativeStrategy : Option String := none
  derivativeCount : Option Nat := none
  providerSubmissionOccurred : Option Bool := none
  supersedesRunId : Option MediaAnalysisRunId := none
deriving DecidableEq

namespace MediaAnalysisRun

/-- `ck_media_analysis_runs_state_payload`: which columns each state fills. -/
def statePayload (r : MediaAnalysisRun) : Bool :=
  match r.state with
  | .pending => r.startedAtMs.isNone && r.completedAtMs.isNone && r.resultJson.isNone &&
    r.resultSchemaVersion.isNone && r.errorCode.isNone && r.errorMessage.isNone
  | .analyzing => r.startedAtMs.isSome && r.completedAtMs.isNone && r.resultJson.isNone &&
    r.resultSchemaVersion.isNone && r.errorCode.isNone && r.errorMessage.isNone &&
    1 ≤ r.attemptCount
  | .analyzed => r.startedAtMs.isSome && r.completedAtMs.isSome && r.resultJson.isSome &&
    r.resultSchemaVersion.isSome && r.errorCode.isNone && r.errorMessage.isNone &&
    r.providerId.isSome && r.modelId.isSome && r.promptVersion.isSome && 1 ≤ r.attemptCount
  | .failed => r.startedAtMs.isSome && r.completedAtMs.isSome && r.resultJson.isNone &&
    r.resultSchemaVersion.isNone && r.errorCode.isSome && r.errorMessage.isSome &&
    1 ≤ r.attemptCount

/-- The CHECK constraints of the table. -/
def checks (r : MediaAnalysisRun) : Bool :=
  1 ≤ r.analysisDefinition.toList.length && r.analysisDefinition.toList.length ≤ 64 &&
    r.attemptCount ≤ 100 && r.derivativeCount.all (· ≤ 16) && 1 ≤ r.version &&
    r.supersedesRunId ≠ some r.id && r.statePayload

/-! What each statement writes into the row it names. -/

def fresh (id : MediaAnalysisRunId) (mediaId : MediaId) (locationId : MediaLocationId)
    (definition : String) (createdAtMs : Nat) (supersedes : Option MediaAnalysisRunId) :
    MediaAnalysisRun where
  id := id
  mediaId := mediaId
  mediaLocationId := locationId
  analysisDefinition := definition
  state := .pending
  attemptCount := 0
  createdAtMs := createdAtMs
  version := 1
  supersedesRunId := supersedes

def claimed (r : MediaAnalysisRun) (startedAtMs : Nat) : MediaAnalysisRun :=
  { r with
    state := .analyzing
    attemptCount := r.attemptCount + 1
    startedAtMs := some startedAtMs
    version := r.version + 1 }

def requeued (r : MediaAnalysisRun) : MediaAnalysisRun :=
  { r with state := .pending, startedAtMs := none, version := r.version + 1 }

def analyzed (r : MediaAnalysisRun) (suggestion : MediaSuggestion) (completedAtMs : Nat) :
    MediaAnalysisRun :=
  { r with
    state := .analyzed
    providerId := some suggestion.providerId
    modelId := some suggestion.modelId
    promptVersion := some suggestion.promptVersion
    resultSchemaVersion := some Analysis.resultSchemaVersion
    resultJson := some (serializeSuggestionResult suggestion)
    errorCode := none
    errorMessage := none
    completedAtMs := some completedAtMs
    version := r.version + 1
    analysisProfile := some .genericMedia
    reasoningEnabled := some false
    derivativeStrategy := some genericDerivativeStrategy
    providerSubmissionOccurred := some true }

def failed (r : MediaAnalysisRun) (code : AnalysisErrorCode) (message : String)
    (completedAtMs : Nat) : MediaAnalysisRun :=
  { r with
    state := .failed
    providerId := none
    modelId := none
    promptVersion := some Analysis.promptVersion
    resultSchemaVersion := none
    resultJson := none
    errorCode := some code
    errorMessage := some message
    startedAtMs := r.startedAtMs.or (some completedAtMs)
    completedAtMs := some completedAtMs
    version := r.version + 1
    providerSubmissionOccurred := some (Analysis.providerSubmissionOccurred code) }

def interruptedMessage : String :=
  "Automatic analysis was interrupted and the provider outcome cannot be determined safely."

def interrupted (r : MediaAnalysisRun) (updatedAtMs : Nat) : MediaAnalysisRun :=
  { r with
    state := .failed
    errorCode := some .analysisOutcomeUnknown
    errorMessage := some interruptedMessage
    completedAtMs := some updatedAtMs
    version := r.version + 1 }

end MediaAnalysisRun
end FrameNest.Analysis
