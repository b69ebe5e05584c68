import FrameNest.Concurrent.System
import FrameNest.Analysis.RunRepository

/-! The analysis services and the coordinator's drain as programs over their ports. The
provider is called between two transactions, never inside one. -/
namespace FrameNest.Analysis
open Concurrent

inductive AnalysisFailure where
  | repository (error : RunRepositoryError)
  | lifecycle (message : String)
  | metadata
  | execution (error : AnalysisException)
deriving DecidableEq

/-- Who makes a repository call. Only the record kept beside the state looks at it. -/
inductive Actor where
  | scheduler | requester | coordinator
  | importer (suggestion : MediaSuggestion)
deriving DecidableEq

inductive MetadataCategory where
  | mediaNotFound | movie | other
deriving DecidableEq

/-- Every port call. `suggest` names the run it is made for and the limit it was claimed
under, which the provider does not see. -/
inductive AnalysisEffect where
  | runs (actor : Actor) (op : RunOperation)
  | nowMs
  | enabled
  | stopping
  | inTransaction
  | interruptRequested
  | activeRunIds (id : MediaAnalysisRunId)
  | contentCategory (mediaId : MediaId)
  | providerConfigured
  | modelCapabilities
  | getMedia (id : MediaId)
  | getLocation (id : MediaLocationId)
  | libraryRoot (id : LibraryId)
  | prepare (root path : String)
  | suggest (run : MediaAnalysisRunId) (maxAttempts : MaxAttempts)
      (request : MediaSuggestionRequest)

def AnalysisEffect.Answer : AnalysisEffect → Type
  | runs _ op => op.Answer
  | nowMs => Nat
  | enabled | stopping | inTransaction | interruptRequested | activeRunIds _
  | providerConfigured => Bool
  | contentCategory _ => MetadataCategory
  | modelCapabilities => Option (List String)
  | getMedia _ => Option CatalogMedia
  | getLocation _ => Option CatalogLocation
  | libraryRoot _ => Option String
  | prepare .. => PreparedAnalysisResult
  | suggest .. => MediaSuggestion

abbrev AnalysisProgram := Program AnalysisEffect AnalysisEffect.Answer AnalysisFailure

def perform (e : AnalysisEffect) : AnalysisProgram e.Answer := Program.perform e

def nowMs : AnalysisProgram Nat := perform .nowMs
def enabled : AnalysisProgram Bool := perform .enabled
def stopping : AnalysisProgram Bool := perform .stopping
def inTransaction : AnalysisProgram Bool := perform .inTransaction
def interruptRequested : AnalysisProgram Bool := perform .interruptRequested
def isActive (id : MediaAnalysisRunId) : AnalysisProgram Bool := perform (.activeRunIds id)
def contentCategory (mediaId : MediaId) : AnalysisProgram MetadataCategory :=
  perform (.contentCategory mediaId)

def runs (actor : Actor) (op : RunOperation) : AnalysisProgram op.Answer :=
  perform (.runs actor op)

/-- `raise .. from exc` of every repository error; other exceptions pass. -/
def orLifecycleError {α : Type} (message : String) (p : AnalysisProgram α) : AnalysisProgram α :=
  p.rescue fun
    | .repository _ => .fail (.lifecycle message)
    | x => .fail x

structure CatalogedAnalysisTarget where
  mediaId : MediaId
  mediaLocationId : MediaLocationId

/-- `create_pending`, the lookup after a lost race included. -/
def createPending (actor : Actor) (target : CatalogedAnalysisTarget) (definition : String)
    (createdAtMs : Nat) : AnalysisProgram MediaAnalysisRun :=
  (perform (.runs actor
    (.createPending target.mediaId target.mediaLocationId definition createdAtMs))).rescue fun
    | .repository .integrity => do
      let raced ← runs actor (.getByMediaDefinition target.mediaId definition)
      match (raced : Option MediaAnalysisRun) with
      | some run => pure run
      | none => .fail (.repository .conflict)
    | x => .fail x

def createManualPending (actor : Actor) (target : CatalogedAnalysisTarget) (definition : String)
    (createdAtMs : Nat) : AnalysisProgram MediaAnalysisRun :=
  (perform (.runs actor
    (.createManualPending target.mediaId target.mediaLocationId definition createdAtMs))).rescue fun
    | .repository .integrity => do
      let raced ← runs actor (.getByMediaDefinition target.mediaId definition)
      match (raced : Option MediaAnalysisRun) with
      | some run => if run.state.active then pure run else .fail (.repository .conflict)
      | none => .fail (.repository .conflict)
    | x => .fail x

/-- `ScheduleAutomaticMediaAnalysis.execute`. -/
def scheduleAutomatic (target : CatalogedAnalysisTarget) (definition : String) :
    AnalysisProgram (Option MediaAnalysisRun) := do
  if !(← enabled) then return none
  orLifecycleError "automatic analysis schedule failed" do
    let now ← nowMs
    let run ← createPending .scheduler target definition now
    pure (some run)

/-- `notify_cataloged`, which swallows the lifecycle error. -/
def notifyCataloged (target : CatalogedAnalysisTarget) (definition : String) :
    AnalysisProgram (Option MediaAnalysisRun) := do
  if ← stopping then return none
  if !(← enabled) then return none
  (scheduleAutomatic target definition).rescue fun
    | .lifecycle _ => pure none
    | x => .fail x

/-- `RequestManualMediaAnalysis.execute`. -/
def requestManual (actor : Actor) (target : CatalogedAnalysisTarget) (definition : String) :
    AnalysisProgram MediaAnalysisRun :=
  orLifecycleError "manual analysis request failed" do
    let now ← nowMs
    createManualPending actor target definition now

/-- `MediaAnalysisCoordinator.request_manual`. -/
def coordinatorRequestManual (target : CatalogedAnalysisTarget) (definition : String) :
    AnalysisProgram MediaAnalysisRun := do
  if ← stopping then .fail (.lifecycle "media analysis coordinator is stopping")
  else requestManual .requester target definition

def recordSuggestion (actor : Actor) (claimed : MediaAnalysisRun) (suggestion : MediaSuggestion) :
    AnalysisProgram MediaAnalysisRun := do
  let now ← nowMs
  runs actor (.recordAnalyzed claimed.id claimed.version suggestion now)

def claim (actor : Actor) (run : MediaAnalysisRun) (maxAttempts : MaxAttempts) :
    AnalysisProgram MediaAnalysisRun := do
  let now ← nowMs
  runs actor (.claimPending run.id run.version now maxAttempts)

/-- The last two transactions of an import. -/
def persistPending (maxAttempts : MaxAttempts) (pending : MediaAnalysisRun)
    (suggestion : MediaSuggestion) : AnalysisProgram (Option MediaAnalysisRun) :=
  orLifecycleError "imported preview analysis persistence failed" do
    let claimed ← claim (.importer suggestion) pending maxAttempts
    let run ← recordSuggestion (.importer suggestion) claimed suggestion
    pure (some run)

/-- `PersistImportedPreviewAnalysis.execute`: no provider call, three transactions. -/
def persistImportedPreview (maxAttempts : MaxAttempts) (definition : String) (mediaId : MediaId)
    (locationId : MediaLocationId) (suggestion : MediaSuggestion) :
    AnalysisProgram (Option MediaAnalysisRun) := do
  if (← contentCategory mediaId) = .movie then return none
  let pending ← requestManual (.importer suggestion) ⟨mediaId, locationId⟩ definition
  if pending.state = .pending then persistPending maxAttempts pending suggestion else return none

/-- An exception class as a program's failure. -/
def raise {α : Type} (x : AnalysisException) : AnalysisProgram α := .fail (.execution x)

def ofExcept {α : Type} : Except AnalysisException α → AnalysisProgram α
  | .ok a => .done a
  | .error x => raise x

section Execution
variable (lower : String → String)

/-- `AutomaticImportedMediaSuggestionExecutor.execute`; the request goes out for `claimed`. -/
def executeSuggestion (claimed : MediaAnalysisRun) (maxAttempts : MaxAttempts) :
    AnalysisProgram MediaSuggestion := do
  let configured ← perform .providerConfigured
  if !configured then raise .lifecycleNotConfigured
  else
    let capabilities ← perform .modelCapabilities
    if (capabilities : Option (List String)).any fun c => !c.contains "vision_input" then
      raise .modelCapability
    else
      let media ← perform (.getMedia claimed.mediaId)
      let location ← perform (.getLocation claimed.mediaLocationId)
      match (media : Option CatalogMedia), (location : Option CatalogLocation) with
      | none, _ | _, none => raise .preparationUnavailable
      | some media, some location =>
        if location.mediaId ≠ claimed.mediaId || !location.available then
          raise .preparationUnavailable
        else
          let root ← perform (.libraryRoot location.libraryId)
          match (root : Option String) with
          | none => raise .preparationUnavailable
          | some root =>
            if !isMediaRelativePath location.relativePath then raise .analysisError
            else
              let extension ← ofExcept (sourceExtension lower location.relativePath)
              if (supportedMediaType media.kind extension).isNone then raise .suggestionError
              else
                let prepared ← (perform (.prepare root location.relativePath)).rescue fun
                  | .execution .mediaNotFound | .execution .mediaUnavailable
                  | .execution .analysisError => raise .preparationUnavailable
                  | .execution .mediaFailed => raise .preparationFailed
                  | x => .fail x
                let request ← ofExcept (buildSuggestionRequest prepared)
                perform (.suggest claimed.id maxAttempts request)

/-- What `_classify_failure` sees of a failure. -/
def AnalysisFailure.exception : AnalysisFailure → AnalysisException
  | .execution x => x
  | _ => .other

/-- `_persist_failure`; an interruption leaves the run analyzing. -/
def persistFailure (claimed : MediaAnalysisRun) (maxAttempts : MaxAttempts) (x : AnalysisFailure) :
    AnalysisProgram MediaAnalysisRun := do
  if ← interruptRequested then return claimed
  let (code, message, retryable) := classifyFailure x.exception
  let now ← nowMs
  if retryable && claimed.attemptCount < maxAttempts.value && retryableErrorCodes.contains code then
    orLifecycleError "automatic analysis retry persistence failed"
      (runs .coordinator (.requeueForRetry claimed.id claimed.version code message now))
  else
    orLifecycleError "automatic analysis failure persistence failed"
      (runs .coordinator (.recordFailed claimed.id claimed.version code message now))

/-- `reconcile_interrupted`. -/
def reconcileInterrupted (run : MediaAnalysisRun) : AnalysisProgram MediaAnalysisRun := do
  if run.state ≠ .analyzing then return run
  let now ← nowMs
  (perform (.runs .coordinator (.resetInterruptedAnalyzing run.id run.version now))).rescue fun
    | .repository .conflict => do
      let current ← runs .coordinator (.getByMediaDefinition run.mediaId run.analysisDefinition)
      match (current : Option MediaAnalysisRun) with
      | some current => pure current
      | none => .fail (.repository .conflict)
    | x => .fail x

/-- The outcome of the provider call, kept or classified. -/
def attemptSuggestion (claimed : MediaAnalysisRun) (maxAttempts : MaxAttempts) :
    AnalysisProgram (Except AnalysisFailure MediaSuggestion) :=
  Program.rescue (do
    let suggestion ← executeSuggestion lower claimed maxAttempts
    pure (.ok suggestion)) fun x => pure (.error x)

def executeClaimed (working : MediaAnalysisRun) (maxAttempts : MaxAttempts) :
    AnalysisProgram MediaAnalysisRun := do
  let claimed ← claim .coordinator working maxAttempts
  if ← inTransaction then
    .fail (.lifecycle "provider execution must not run inside a database transaction")
  else
    match ← attemptSuggestion lower claimed maxAttempts with
    | .error x => persistFailure claimed maxAttempts x
    | .ok suggestion =>
      orLifecycleError "automatic analysis persistence failed"
        (recordSuggestion .coordinator claimed suggestion)

/-- `ExecuteAutomaticMediaAnalysisRun.execute`. -/
def execute (run : MediaAnalysisRun) (maxAttempts : MaxAttempts) :
    AnalysisProgram MediaAnalysisRun := do
  if run.state.terminal then return run
  let working ← reconcileInterrupted run
  if working.state = .pending then executeClaimed lower working maxAttempts
  else return working

/-! The drain of the coordinator. -/

inductive CandidateOutcome where
  | progress | retry | stale | shutdown
deriving DecidableEq

inductive DrainOutcome where
  | idle | retry | shutdown
deriving DecidableEq

/-- `_process_run`: whatever an execution raises asks for a later retry. -/
def processRun (run : MediaAnalysisRun) (maxAttempts : MaxAttempts) :
    AnalysisProgram CandidateOutcome := do
  if ← isActive run.id then return .stale
  if !run.state.active then return .stale
  if ← stopping then return .shutdown
  Program.rescue (do
    let _ ← execute lower run maxAttempts
    pure .progress) fun _ => pure .retry

/-- `_discover`: a missing schema reads as no work. -/
def discover (batchSize : Nat) (cursor : Option (Nat × MediaAnalysisRunId)) :
    AnalysisProgram (Option (List MediaAnalysisRun)) :=
  Program.rescue (do
    let found ← perform (.runs .coordinator (.listUnfinished batchSize cursor))
    pure (some found)) fun
      | .repository .missingSchema => pure (some [])
      | _ => pure none

/-- What one pass over a batch leaves: where to look next, and what was visited. -/
structure DrainState where
  cursor : Option (Nat × MediaAnalysisRunId) := none
  visited : List MediaAnalysisRunId := []
  retryNeeded : Bool := false

def drainBatch (maxAttempts : MaxAttempts) :
    List MediaAnalysisRun → DrainState → AnalysisProgram (Option DrainState)
  | [], d => pure (some d)
  | run :: rest, d => do
    let d := { d with cursor := some (run.createdAtMs, run.id) }
    if ← stopping then return none
    if d.visited.contains run.id then drainBatch maxAttempts rest d
    else
      let d := { d with visited := run.id :: d.visited }
      match ← processRun lower run maxAttempts with
      | .shutdown => return none
      | .retry => drainBatch maxAttempts rest { d with retryNeeded := true }
      | .progress | .stale => drainBatch maxAttempts rest d

/-- `_drain_once`, over at most `fuel` batches. -/
def drainOnce (maxAttempts : MaxAttempts) (batchSize : Nat) :
    Nat → DrainState → AnalysisProgram DrainOutcome
  | 0, _ => pure .shutdown
  | fuel + 1, d => do
    if ← stopping then return .shutdown
    match ← discover batchSize d.cursor with
    | none => return .retry
    | some [] => return (if d.retryNeeded then .retry else .idle)
    | some found =>
      match ← drainBatch lower maxAttempts found d with
      | none => return .shutdown
      | some d => drainOnce maxAttempts batchSize fuel d

end Execution
end FrameNest.Analysis
