import FrameNest.Analysis.Lifecycle

/-! The analysis system: the store of runs, a journal of what the provider was asked and what
was recorded, and the callers that work on them side by side. -/
namespace FrameNest.Analysis
open Concurrent Relational

/-- What the journal keeps, newest first. No answer depends on it. -/
inductive JournalEntry where
  | invoked (run : MediaAnalysisRunId) (maxAttempts : MaxAttempts)
  | requeued (run : MediaAnalysisRunId) (code : AnalysisErrorCode)
  | importCreated (run : MediaAnalysisRunId) (suggestion : MediaSuggestion)
  | importClaimed (run : MediaAnalysisRunId) (suggestion : MediaSuggestion)
deriving DecidableEq

structure AnalysisState where
  store : RunStore
  journal : List JournalEntry

/-- What the surroundings make of one call. -/
structure Moment where
  nowMs : Nat := 0
  databaseFault : Option RunRepositoryError := none
  newRunId : MediaAnalysisRunId := ⟨""⟩
  referenced : Bool := true
  enabled : Bool := true
  stopping : Bool := false
  inTransaction : Bool := false
  interruptRequested : Bool := false
  active : Bool := false
  category : Except Unit MetadataCategory := .ok .other
  providerConfigured : Bool := true
  capabilities : Except AnalysisException (Option (List String)) := .ok none
  media : Except AnalysisException (Option CatalogMedia) := .ok none
  location : Except AnalysisException (Option CatalogLocation) := .ok none
  root : Except AnalysisException (Option String) := .ok none
  prepared : Except AnalysisException PreparedAnalysisResult := .error .other
  suggestion : Except AnalysisException MediaSuggestion := .error .other

/-- A raised database error is a repository failure, never a conflict of the run. -/
def Moment.fault (i : Moment) : Option RunRepositoryError :=
  i.databaseFault.map fun
    | .missingSchema => .missingSchema
    | _ => .failed

/-- One transaction of the repository, or the database's refusal of it. -/
def RunOperation.exec (i : Moment) (op : RunOperation) (s : RunStore) :
    Except RunRepositoryError op.Answer × RunStore :=
  match i.fault with
  | some x => (.error x, s)
  | none => transaction s (op.run i.newRunId i.referenced)

/-- What a repository call adds to the journal. -/
def journalOf (actor : Actor) : (op : RunOperation) → RunStore → Except RunRepositoryError op.Answer →
    List JournalEntry
  | .requeueForRetry id _ code _ _, _, .ok _ => [.requeued id code]
  | .createManualPending .., s, .ok (run : MediaAnalysisRun) =>
    match actor, s.find? run.id with
    | .importer suggestion, none => [.importCreated run.id suggestion]
    | _, _ => []
  | .claimPending id _ _ _, _, .ok _ =>
    match actor with
    | .importer suggestion => [.importClaimed id suggestion]
    | _ => []
  | _, _, _ => []

def AnalysisEffect.exec (i : Moment) : (e : AnalysisEffect) → AnalysisState →
    Except AnalysisFailure e.Answer × AnalysisState
  | .runs actor op, s =>
    ((op.exec i s.store).1.mapError .repository,
      ⟨(op.exec i s.store).2, journalOf actor op s.store (op.exec i s.store).1 ++ s.journal⟩)
  | .nowMs, s => (.ok i.nowMs, s)
  | .enabled, s => (.ok i.enabled, s)
  | .stopping, s => (.ok i.stopping, s)
  | .inTransaction, s => (.ok i.inTransaction, s)
  | .interruptRequested, s => (.ok i.interruptRequested, s)
  | .activeRunIds _, s => (.ok i.active, s)
  | .contentCategory _, s => (i.category.mapError fun _ => .metadata, s)
  | .providerConfigured, s => (.ok i.providerConfigured, s)
  | .modelCapabilities, s => (i.capabilities.mapError .execution, s)
  | .getMedia _, s => (i.media.mapError .execution, s)
  | .getLocation _, s => (i.location.mapError .execution, s)
  | .libraryRoot _, s => (i.root.mapError .execution, s)
  | .prepare .., s => (i.prepared.mapError .execution, s)
  | .suggest run maxAttempts _, s =>
    (i.suggestion.mapError .execution, { s with journal := .invoked run maxAttempts :: s.journal })

/-- The calls that work on analysis runs. Each process sets its own limits. -/
inductive Caller where
  | notifyCataloged (target : CatalogedAnalysisTarget) (definition : String)
  | requestManual (target : CatalogedAnalysisTarget) (definition : String)
  | importPreview (maxAttempts : MaxAttempts) (definition : String) (mediaId : MediaId)
      (locationId : MediaLocationId) (suggestion : MediaSuggestion)
  | drain (maxAttempts : MaxAttempts) (batchSize fuel : Nat)

def Caller.program (lower : String → String) : Caller → AnalysisProgram Unit
  | .notifyCataloged target definition => do
    let _ ← Analysis.notifyCataloged target definition
    pure ()
  | .requestManual target definition => do
    let _ ← coordinatorRequestManual target definition
    pure ()
  | .importPreview maxAttempts definition mediaId locationId suggestion => do
    let _ ← persistImportedPreview maxAttempts definition mediaId locationId suggestion
    pure ()
  | .drain maxAttempts batchSize fuel => do
    let _ ← drainOnce lower maxAttempts batchSize fuel {}
    pure ()

/-- A run taken for execution, until its outcome is written or given up. -/
structure Claim where
  run : MediaAnalysisRunId
  version : Nat
  maxAttempts : MaxAttempts
  invoked : Bool

/-- What a call has in its hands: the preview it imports, the run it has begun to write for
it, and the run it has claimed. -/
structure Memory where
  importing : Option MediaSuggestion := none
  unfinished : Option MediaAnalysisRunId := none
  claim : Option Claim := none

namespace Memory

def noteRuns (g : Memory) (s : RunStore) :
    (op : RunOperation) → Except RunRepositoryError op.Answer → Memory
  | .createManualPending .., .ok (run : MediaAnalysisRun) =>
    if g.importing.isSome && (s.find? run.id).isNone then { g with unfinished := some run.id } else g
  | .claimPending id _ _ maxAttempts, .ok (run : MediaAnalysisRun) =>
    { g with
      unfinished := if g.importing.isSome then some id else none
      claim := some ⟨id, run.version, maxAttempts, false⟩ }
  | .claimPending .., .error _ => { g with unfinished := none }
  | .requeueForRetry .., _ | .recordAnalyzed .., _ | .recordFailed .., _ =>
    { g with unfinished := none, claim := none }
  | _, _ => g

def note (g : Memory) (s : AnalysisState) : (e : AnalysisEffect) → Except AnalysisFailure e.Answer →
    Memory
  | .runs _ op, .ok answer => g.noteRuns s.store op (.ok answer)
  | .runs _ op, .error _ => g.noteRuns s.store op (.error .failed)
  | .suggest .., _ => { g with claim := g.claim.map fun c => { c with invoked := true } }
  | .interruptRequested, .ok true => { g with claim := none }
  | _, _ => g

@[simp] theorem note_runs (g : Memory) (s : AnalysisState) (actor : Actor) (op : RunOperation)
    (r : Except RunRepositoryError op.Answer) :
    g.note s (.runs actor op) (r.mapError .repository) =
      g.noteRuns s.store op (r.mapError fun _ => .failed) := by
  cases r <;> rfl

end Memory

/-- What a call may do, as far as the runs in its hands go. -/
def Memory.may (g : Memory) : AnalysisEffect → Prop
  | .runs actor op => (∀ suggestion, actor = .importer suggestion ↔ g.importing = some suggestion) ∧
    match op with
    | .requeueForRetry id version code _ _ => g.importing = none ∧ code ∈ retryableErrorCodes ∧
      ∃ c, g.claim = some c ∧ c.run = id ∧ c.version = version
    | .recordAnalyzed id version suggestion _ => (∀ s, g.importing = some s → suggestion = s) ∧
      ∃ c, g.claim = some c ∧ c.run = id ∧ c.version = version
    | .recordFailed id version _ _ _ => g.importing = none ∧
      ∃ c, g.claim = some c ∧ c.run = id ∧ c.version = version
    | .claimPending id version _ _ => ∀ run, g.unfinished = some run →
      run = id ∧ version = 1 ∧ g.claim = none
    | .resetInterruptedAnalyzing .. => g.importing = none
    | .createManualPending .. => g.unfinished = none
    | _ => True
  | .suggest run maxAttempts _ => g.importing = none ∧
    ∃ c, g.claim = some c ∧ c.run = run ∧ c.maxAttempts = maxAttempts ∧ c.invoked = false
  | .interruptRequested => g.importing = none
  | _ => True

def Caller.memory : Caller → Memory
  | .importPreview _ _ _ _ suggestion => { importing := some suggestion }
  | _ => {}

/-- Any number of calls of every kind beside each other, and a crash at any time. -/
def analysisSystem (lower : String → String) : System Caller Moment AnalysisEffect
    AnalysisEffect.Answer AnalysisFailure AnalysisState Memory Unit where
  exec i e s := e.exec i s
  note := Memory.note
  permits _ _ _ _ := True
  may := Memory.may
  program := Caller.program lower
  memory := Caller.memory
  mayStart _ _ := true
  mayCrash := true

end FrameNest.Analysis
