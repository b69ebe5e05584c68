import FrameNest.Text.Plain

/-! Provider-neutral research values. A value that its constructor would refuse
cannot be built: what `__post_init__` checks is a field of the structure. -/
namespace FrameNest.Research
open Plain

def maxPromptUtf8Bytes : Nat := 16384
def maxAnswerUtf8Bytes : Nat := 2097152
def maxCitationCount : Nat := 200
def maxCitationUrlBytes : Nat := 2048
def maxCitationTitleBytes : Nat := 300
def maxResearchToolCalls : Nat := 20
def maxResearchOutputTokens : Nat := 32768
def maxResearchDeadlineSeconds : Nat := 1800
def maxResearchReservationMicroUsd : Nat := 5000000
def maxDailyBudgetMicroUsd : Nat := 10000000
def maxMonthlyBudgetMicroUsd : Nat := 30000000
def webSearchTool : String := "web_search"

inductive ResearchOperationKind where
  | search | research
deriving DecidableEq

inductive ResearchLifecycleState where
  | admitted | submitting | running | validating | saved | refused | failed | incomplete
  | cancelRequested | cancelled | timeout | submissionUnknown
deriving DecidableEq

inductive ResearchRemoteCleanupState where
  | notRequired | pending | deleted | failed | unknown
deriving DecidableEq

inductive ResearchAccountingState where
  | reserved | reconciled | unknown
deriving DecidableEq

inductive ProviderObservationKind where
  | pending | running | complete | refused | failed | cancelled | uncertain
deriving DecidableEq

inductive ResearchErrorCode where
  | disabled | notConfigured | capabilityUnavailable | invalidRequest | busy
  | idempotencyConflict | auth | rateLimit | providerQuota | providerUnavailable | refused
  | invalidResult | incompleteResult | resultTooLarge | noWebEvidence | timeout | cancelled
  | submissionUnknown | resultExpired | accountingUnknown | budgetExceeded | storage
deriving DecidableEq

/- What a call can raise: `ResearchStoreError` with its code, or anything else. -/
inductive Failure where
  | store (code : ResearchErrorCode)
  | other
deriving DecidableEq

/- TERMINAL_RESEARCH_LIFECYCLE_STATES. -/
def isTerminalLifecycle : ResearchLifecycleState → Bool
  | .saved | .refused | .failed | .incomplete | .cancelled | .timeout | .submissionUnknown => true
  | .admitted | .submitting | .running | .validating | .cancelRequested => false

def requireToken (value : String) (maximum : Nat) : Bool :=
  value ≠ "" && value.toList.length ≤ maximum && !value.toList.any isSpace

def requirePositiveInt (value maximum : Nat) : Bool := 1 ≤ value && value ≤ maximum

structure ServerSelectedProfile where
  providerId : String
  modelId : String
  configurationVersion : String
  highReasoningEffort : Bool
  toolAllowlist : List String
  background : Bool
  maxToolCalls : Nat
  maxOutputTokens : Nat
  deadlineSeconds : Nat
  budgetReservationUsdMicros : Nat
  providerId_token : requireToken providerId 64 = true
  modelId_token : requireToken modelId 120 = true
  configurationVersion_token : requireToken configurationVersion 32 = true
  tools_allowed : toolAllowlist ≠ [] ∧ ∀ tool ∈ toolAllowlist, tool = webSearchTool
  toolCalls_bounded : requirePositiveInt maxToolCalls maxResearchToolCalls = true
  outputTokens_bounded : requirePositiveInt maxOutputTokens maxResearchOutputTokens = true
  deadline_bounded : requirePositiveInt deadlineSeconds maxResearchDeadlineSeconds = true
  reservation_bounded :
    requirePositiveInt budgetReservationUsdMicros maxResearchReservationMicroUsd = true
deriving DecidableEq

structure ApprovedResourceLimits where
  maxToolCalls : Nat
  maxOutputTokens : Nat
  budgetReservationUsdMicros : Nat
  promptMaxUtf8Bytes : Nat
  answerMaxUtf8Bytes : Nat
  citationCountMax : Nat
  toolCalls_bounded : requirePositiveInt maxToolCalls maxResearchToolCalls = true
  outputTokens_bounded : requirePositiveInt maxOutputTokens maxResearchOutputTokens = true
  reservation_bounded :
    requirePositiveInt budgetReservationUsdMicros maxResearchReservationMicroUsd = true
  prompt_bounded : requirePositiveInt promptMaxUtf8Bytes maxPromptUtf8Bytes = true
  answer_bounded : requirePositiveInt answerMaxUtf8Bytes maxAnswerUtf8Bytes = true
  citations_bounded : requirePositiveInt citationCountMax maxCitationCount = true
deriving DecidableEq

structure ProviderHandle where
  value : String
  token : requireToken value 256 = true
deriving DecidableEq

structure ResearchUsage where
  inputTokens : Nat
  cachedInputTokens : Nat
  outputTokens : Nat
  reasoningTokens : Nat
  webToolCalls : Nat
  cacheWriteInputTokens : Option Nat
  cached_le : cachedInputTokens ≤ inputTokens
  reasoning_le : reasoningTokens ≤ outputTokens
  cacheWrite_le : ∀ n, cacheWriteInputTokens = some n → cachedInputTokens + n ≤ inputTokens

structure ResearchCitation where
  url : String
  title : String
  url_plain : url ≠ "" ∧ url.toList.any isSpace = false
  url_bounded : url.utf8ByteSize ≤ maxCitationUrlBytes
  title_bounded : title.utf8ByteSize ≤ maxCitationTitleBytes
deriving DecidableEq

structure CompletionEvidence where
  providerTerminal : Bool
  answerComplete : Bool
  webSearchExecuted : Bool
  refusalMarker : Bool
  incompleteMarker : Bool
deriving DecidableEq

def completionError (evidence : CompletionEvidence) : Option ResearchErrorCode :=
  if evidence.refusalMarker then some .refused
  else if evidence.incompleteMarker || !evidence.answerComplete || !evidence.providerTerminal then
    some .incompleteResult
  else if !evidence.webSearchExecuted then some .noWebEvidence
  else none

structure ResearchAnswer where
  text : String
  citations : List ResearchCitation
  evidence : CompletionEvidence
  usage : Option ResearchUsage
  text_nonempty : text ≠ ""
  text_bounded : text.utf8ByteSize ≤ maxAnswerUtf8Bytes
  citations_bounded : citations.length ≤ maxCitationCount

/- Which of answer, handle and error code each kind of observation carries. -/
def observationShape (kind : ProviderObservationKind) (remoteHandle : Option ProviderHandle)
    (answer : Option ResearchAnswer) (errorCode : Option ResearchErrorCode) : Bool :=
  match kind with
  | .complete => remoteHandle.isSome && errorCode.isNone &&
      answer.any fun a => (completionError a.evidence).isNone
  | .pending | .running => answer.isNone && errorCode.isNone
  | .refused | .failed | .cancelled | .uncertain => answer.isNone && errorCode.isSome

structure ProviderObservation where
  kind : ProviderObservationKind
  remoteHandle : Option ProviderHandle
  answer : Option ResearchAnswer
  errorCode : Option ResearchErrorCode
  shape : observationShape kind remoteHandle answer errorCode = true

structure CleanupOutcome where
  state : ResearchRemoteCleanupState
  errorCode : Option ResearchErrorCode
  failed_code : state = .failed → errorCode.isSome = true
  deleted_code : state = .deleted → errorCode = none

theorem deleted_complete :
    ResearchRemoteCleanupState.deleted = .failed → (none : Option ResearchErrorCode).isSome = true :=
  nofun

theorem deleted_clean :
    ResearchRemoteCleanupState.deleted = .deleted → (none : Option ResearchErrorCode) = none :=
  fun _ => rfl

structure ResearchRequestRecord where
  operationId : String
  kind : ResearchOperationKind
  prompt : String
  profile : ServerSelectedProfile
  deadlineSeconds : Nat
  resourceLimits : ApprovedResourceLimits
  state : ResearchLifecycleState
  cleanupState : ResearchRemoteCleanupState
  accountingState : ResearchAccountingState
  remoteHandle : Option ProviderHandle
  errorCode : Option ResearchErrorCode
  operationId_token : requireToken operationId 128 = true
  prompt_nonblank : isBlank prompt = false
  deadline_bounded : requirePositiveInt deadlineSeconds maxResearchDeadlineSeconds = true

structure ProviderRequest where
  operationId : String
  kind : ResearchOperationKind
  prompt : String
  profile : ServerSelectedProfile
  deadlineSeconds : Nat
  resourceLimits : ApprovedResourceLimits
  operationId_token : requireToken operationId 128 = true
  prompt_nonblank : isBlank prompt = false
  deadline_bounded : requirePositiveInt deadlineSeconds maxResearchDeadlineSeconds = true
  prompt_within : prompt.utf8ByteSize ≤ resourceLimits.promptMaxUtf8Bytes

/- The constructor call of `submit_pending`: only the prompt bound can still fail. -/
def ProviderRequest.ofRecord? (record : ResearchRequestRecord) : Option ProviderRequest :=
  if h : record.prompt.utf8ByteSize ≤ record.resourceLimits.promptMaxUtf8Bytes then
    some
      { operationId := record.operationId
        kind := record.kind
        prompt := record.prompt
        profile := record.profile
        deadlineSeconds := record.deadlineSeconds
        resourceLimits := record.resourceLimits
        operationId_token := record.operationId_token
        prompt_nonblank := record.prompt_nonblank
        deadline_bounded := record.deadline_bounded
        prompt_within := h }
  else none

theorem ProviderRequest.ofRecord?_operationId {record : ResearchRequestRecord}
    {request : ProviderRequest} (h : ProviderRequest.ofRecord? record = some request) :
    request.operationId = record.operationId := by
  unfold ProviderRequest.ofRecord? at h
  split at h
  · cases h; rfl
  · cases h

structure BudgetReservation where
  operationId : String
  kind : ResearchOperationKind
  reservedUsdMicros : Nat
  dailyLimitUsdMicros : Nat
  monthlyLimitUsdMicros : Nat
  operationId_token : requireToken operationId 128 = true
  reserved_bounded : requirePositiveInt reservedUsdMicros maxResearchReservationMicroUsd = true
  daily_bounded : requirePositiveInt dailyLimitUsdMicros maxDailyBudgetMicroUsd = true
  monthly_bounded : requirePositiveInt monthlyLimitUsdMicros maxMonthlyBudgetMicroUsd = true
  daily_le_monthly : dailyLimitUsdMicros ≤ monthlyLimitUsdMicros

structure BudgetHold where
  operationId : String
  reservedUsdMicros : Nat
  state : ResearchAccountingState
  reserved_bounded : requirePositiveInt reservedUsdMicros maxResearchReservationMicroUsd = true

/- RECONCILED carries usage and cost; UNKNOWN never carries a cost. -/
structure BudgetReconciliation where
  operationId : String
  usage : Option ResearchUsage
  calculatedCostUsdMicros : Option Nat
  state : ResearchAccountingState
  operationId_token : requireToken operationId 128 = true
  reconciled_shape : state = .reconciled →
    usage.isSome = true ∧ calculatedCostUsdMicros.isSome = true
  unknown_shape : state = .unknown → calculatedCostUsdMicros = none

structure ResultCompletion where
  operationId : String
  answer : ResearchAnswer
  remoteHandle : ProviderHandle
  operationId_token : requireToken operationId 128 = true
  evidence_complete : completionError answer.evidence = none

structure ResultCompletionReceipt where
  operationId : String
  state : ResearchLifecycleState
  saved : state = .saved

end FrameNest.Research
