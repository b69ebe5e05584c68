import Mathlib.Data.List.Sort
import FrameNest.Analysis.Runs
import FrameNest.Relational.Transaction

/-! The repository of analysis runs: one function for each transaction. -/
namespace FrameNest.Analysis
open Relational

inductive RunRepositoryError where
  | failed | missingSchema | conflict | notFound | integrity
deriving DecidableEq

/-- The columns of `kronika_records` that a successful run of a bound medium touches. -/
structure BoundRecord where
  id : Identity .record
  mediaId : Option MediaId
  latestSuccessfulAnalysisRunId : Option MediaAnalysisRunId
  completedAtMs : Option Nat
  version : Nat
deriving DecidableEq

structure RunStore where
  runs : Table MediaAnalysisRun.id
  records : List BoundRecord

namespace RunStore

def find? (s : RunStore) (id : MediaAnalysisRunId) : Option MediaAnalysisRun := s.runs.find? id

/-- `ORDER BY created_at_ms DESC, id DESC`. -/
def newerFirst (a b : MediaAnalysisRun) : Prop :=
  b.createdAtMs < a.createdAtMs ∨ (a.createdAtMs = b.createdAtMs ∧ b.id.value ≤ a.id.value)

instance : DecidableRel newerFirst :=
  fun a b => inferInstanceAs (Decidable (b.createdAtMs < a.createdAtMs ∨ (_ ∧ b.id.value ≤ a.id.value)))

def olderFirst (a b : MediaAnalysisRun) : Prop := newerFirst b a

instance : DecidableRel olderFirst := fun a b => inferInstanceAs (Decidable (newerFirst b a))

def matching (s : RunStore) (mediaId : MediaId) (definition : String) : List MediaAnalysisRun :=
  s.runs.rows.filter fun r => r.mediaId = mediaId && r.analysisDefinition = definition

/-- `_latest_run`. -/
def latestRun (s : RunStore) (mediaId : MediaId) (definition : String) : Option MediaAnalysisRun :=
  ((s.matching mediaId definition).insertionSort newerFirst).head?

/-- `_active_run`. -/
def activeRun (s : RunStore) (mediaId : MediaId) (definition : String) : Option MediaAnalysisRun :=
  (((s.matching mediaId definition).filter fun r => r.state.active).insertionSort newerFirst).head?

def requireRow (s : RunStore) (id : MediaAnalysisRunId) :
    Except RunRepositoryError MediaAnalysisRun :=
  match s.find? id with
  | some row => .ok row
  | none => .error .notFound

/-- The INSERT: the primary key, the index of active runs, the references and the CHECKs. -/
def insertRun (s : RunStore) (referenced : Bool) (run : MediaAnalysisRun) :
    Except RunRepositoryError (MediaAnalysisRun × RunStore) :=
  if !referenced || !run.checks || (s.activeRun run.mediaId run.analysisDefinition).isSome then
    .error .integrity
  else match s.runs.insert? run with
    | some runs => .ok (run, { s with runs := runs })
    | none => .error .integrity

/-- `_insert_pending`; the superseded run is checked before the INSERT. -/
def insertPending (s : RunStore) (referenced : Bool) (run : MediaAnalysisRun) :
    Except RunRepositoryError (MediaAnalysisRun × RunStore) := do
  match run.supersedesRunId with
  | none => pure ()
  | some id =>
    require (id ≠ run.id) .conflict
    let superseded ← s.requireRow id
    require (superseded.mediaId = run.mediaId &&
      superseded.analysisDefinition = run.analysisDefinition && superseded.state.terminal) .conflict
  s.insertRun referenced run

/-- After an IntegrityError: the run that won, when the lookup finds one. -/
def orWinner (s : RunStore) (inserted : Except RunRepositoryError (MediaAnalysisRun × RunStore))
    (winner : Option MediaAnalysisRun) : Except RunRepositoryError (MediaAnalysisRun × RunStore) :=
  match inserted with
  | .error .integrity => match winner with
    | some run => .ok (run, s)
    | none => .error .integrity
  | other => other

def createPending (s : RunStore) (referenced : Bool) (id : MediaAnalysisRunId)
    (mediaId : MediaId) (locationId : MediaLocationId) (definition : String) (createdAtMs : Nat) :
    Except RunRepositoryError (MediaAnalysisRun × RunStore) :=
  match (s.activeRun mediaId definition).or (s.latestRun mediaId definition) with
  | some run => .ok (run, s)
  | none => s.orWinner
    (s.insertPending referenced (.fresh id mediaId locationId definition createdAtMs none))
    ((s.activeRun mediaId definition).or (s.latestRun mediaId definition))

def createManualPending (s : RunStore) (referenced : Bool) (id : MediaAnalysisRunId)
    (mediaId : MediaId) (locationId : MediaLocationId) (definition : String) (createdAtMs : Nat) :
    Except RunRepositoryError (MediaAnalysisRun × RunStore) :=
  match s.activeRun mediaId definition with
  | some run => .ok (run, s)
  | none =>
    match s.latestRun mediaId definition with
    | some latest =>
      if latest.state.terminal then s.orWinner (s.insertPending referenced
          (.fresh id mediaId locationId definition createdAtMs (some latest.id)))
        (s.activeRun mediaId definition)
      else .ok (latest, s)
    | none => s.orWinner
      (s.insertPending referenced (.fresh id mediaId locationId definition createdAtMs none))
      (s.activeRun mediaId definition)

/-- The shape of every other write: the row, its state and version checked, one UPDATE of the
row in that state and version, and the row read back. -/
def rewriteRun (s : RunStore) (id : MediaAnalysisRunId) (expectedVersion : Nat)
    (state : MediaAnalysisRunState) (allowed : MediaAnalysisRun → Bool)
    (f : MediaAnalysisRun → MediaAnalysisRun) (hf : ∀ r, (f r).id = r.id) :
    Except RunRepositoryError (MediaAnalysisRun × RunStore) := do
  let row ← s.requireRow id
  require (row.state = state && row.version = expectedVersion) .conflict
  require (allowed row) .conflict
  require (f row).checks .failed
  pure (f row, { s with runs := s.runs.update id f hf })

def claimPending (s : RunStore) (id : MediaAnalysisRunId) (expectedVersion startedAtMs : Nat)
    (maxAttempts : MaxAttempts) : Except RunRepositoryError (MediaAnalysisRun × RunStore) :=
  s.rewriteRun id expectedVersion .pending (fun row => row.attemptCount + 1 ≤ maxAttempts.value)
    (·.claimed startedAtMs) fun _ => rfl

def requeueForRetry (s : RunStore) (id : MediaAnalysisRunId) (expectedVersion : Nat) :
    Except RunRepositoryError (MediaAnalysisRun × RunStore) :=
  s.rewriteRun id expectedVersion .analyzing (fun _ => true) (·.requeued) fun _ => rfl

/-- `note_successful_analysis`: the bound record points at the run. -/
def noteSuccessfulAnalysis (s : RunStore) (run : MediaAnalysisRun) : RunStore :=
  if run.state = .analyzed && run.resultJson.isSome then
    { s with records := s.records.map fun record =>
        if record.mediaId = some run.mediaId then
          { record with
            latestSuccessfulAnalysisRunId := some run.id
            completedAtMs := record.completedAtMs.or run.completedAtMs
            version := record.version + 1 }
        else record }
  else s

def recordAnalyzed (s : RunStore) (id : MediaAnalysisRunId) (expectedVersion : Nat)
    (suggestion : MediaSuggestion) (completedAtMs : Nat) :
    Except RunRepositoryError (MediaAnalysisRun × RunStore) := do
  let (run, t) ← s.rewriteRun id expectedVersion .analyzing (fun _ => true)
    (·.analyzed suggestion completedAtMs) fun _ => rfl
  pure (run, t.noteSuccessfulAnalysis run)

def recordFailed (s : RunStore) (id : MediaAnalysisRunId) (expectedVersion : Nat)
    (code : AnalysisErrorCode) (message : String) (completedAtMs : Nat) :
    Except RunRepositoryError (MediaAnalysisRun × RunStore) :=
  s.rewriteRun id expectedVersion .analyzing (fun _ => true)
    (·.failed code message completedAtMs) fun _ => rfl

/-- Stale analyzing means the provider outcome is unknown: fail closed. -/
def resetInterruptedAnalyzing (s : RunStore) (id : MediaAnalysisRunId)
    (expectedVersion updatedAtMs : Nat) : Except RunRepositoryError (MediaAnalysisRun × RunStore) :=
  s.rewriteRun id expectedVersion .analyzing (fun _ => true) (·.interrupted updatedAtMs) fun _ => rfl

def afterCursor (cursor : Option (Nat × MediaAnalysisRunId)) (r : MediaAnalysisRun) : Bool :=
  match cursor with
  | none => true
  | some (createdAtMs, id) => createdAtMs < r.createdAtMs ||
    (r.createdAtMs = createdAtMs && id.value < r.id.value)

def listUnfinished (s : RunStore) (limit : Nat) (cursor : Option (Nat × MediaAnalysisRunId)) :
    List MediaAnalysisRun :=
  ((s.runs.rows.filter fun r => r.state.active && afterCursor cursor r).insertionSort
    olderFirst).take limit

end RunStore

inductive RunOperation where
  | getByMediaDefinition (mediaId : MediaId) (definition : String)
  | createPending (mediaId : MediaId) (locationId : MediaLocationId) (definition : String)
      (createdAtMs : Nat)
  | createManualPending (mediaId : MediaId) (locationId : MediaLocationId) (definition : String)
      (createdAtMs : Nat)
  | claimPending (id : MediaAnalysisRunId) (expectedVersion startedAtMs : Nat)
      (maxAttempts : MaxAttempts)
  | requeueForRetry (id : MediaAnalysisRunId) (expectedVersion : Nat) (code : AnalysisErrorCode)
      (message : String) (updatedAtMs : Nat)
  | recordAnalyzed (id : MediaAnalysisRunId) (expectedVersion : Nat) (suggestion : MediaSuggestion)
      (completedAtMs : Nat)
  | recordFailed (id : MediaAnalysisRunId) (expectedVersion : Nat) (code : AnalysisErrorCode)
      (message : String) (completedAtMs : Nat)
  | listUnfinished (limit : Nat) (cursor : Option (Nat × MediaAnalysisRunId))
  | resetInterruptedAnalyzing (id : MediaAnalysisRunId) (expectedVersion updatedAtMs : Nat)

def RunOperation.Answer : RunOperation → Type
  | getByMediaDefinition .. => Option MediaAnalysisRun
  | listUnfinished .. => List MediaAnalysisRun
  | _ => MediaAnalysisRun

/-- One transaction; the environment draws the identity and knows the catalog rows. -/
def RunOperation.run (id : MediaAnalysisRunId) (referenced : Bool) :
    (op : RunOperation) → RunStore → Except RunRepositoryError (op.Answer × RunStore)
  | getByMediaDefinition mediaId definition, s => .ok (s.latestRun mediaId definition, s)
  | createPending mediaId locationId definition createdAtMs, s =>
    s.createPending referenced id mediaId locationId definition createdAtMs
  | createManualPending mediaId locationId definition createdAtMs, s =>
    s.createManualPending referenced id mediaId locationId definition createdAtMs
  | claimPending run expectedVersion startedAtMs maxAttempts, s =>
    s.claimPending run expectedVersion startedAtMs maxAttempts
  | requeueForRetry run expectedVersion _ _ _, s => s.requeueForRetry run expectedVersion
  | recordAnalyzed run expectedVersion suggestion completedAtMs, s =>
    s.recordAnalyzed run expectedVersion suggestion completedAtMs
  | recordFailed run expectedVersion code message completedAtMs, s =>
    s.recordFailed run expectedVersion code message completedAtMs
  | listUnfinished limit cursor, s => .ok (s.listUnfinished limit cursor, s)
  | resetInterruptedAnalyzing run expectedVersion updatedAtMs, s =>
    s.resetInterruptedAnalyzing run expectedVersion updatedAtMs

end FrameNest.Analysis
