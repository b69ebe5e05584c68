import FrameNest.Backups.Retention

/-! The scheduled pipeline: create, verify, restore, record, retain; and the manual restore
verification. -/
namespace FrameNest.Backups
open Concurrent Relational

/-- `try: p finally: q`. -/
def ensuring {α : Type} (p : BackupProgram α) (q : BackupProgram Unit) : BackupProgram α := do
  let a ← p.rescue fun x => q >>= fun _ => .fail x
  q
  pure a

def demandBackup (b : Bool) (code : ErrorCode) : BackupProgram Unit :=
  if b then pure () else .fail (.backup code)

/- `except OSError: pass`. -/
def ignoringOSError (p : BackupProgram Unit) : BackupProgram Unit :=
  p.rescue fun x => if x.isOSError then pure () else .fail x

section Creating

def tokenHex : BackupProgram String := Program.perform Effect.tokenHex
def tempToken : BackupProgram String := Program.perform Effect.tempToken
def databaseIsFile : BackupProgram Bool := Program.perform Effect.databaseIsFile
def inspectSnapshot (name : String) : BackupProgram BackupResult :=
  Program.perform (Effect.inspectSnapshot name)

/- `_remove_owned_temp_bundle`, of a name that begins as temporary bundles do. -/
def removeOwnedTempBundle (temp : String) : BackupProgram Unit := do
  let entry ← lookAt temp
  match entry with
  | some (.bundle _) => ignoringOSError (Program.perform (Effect.rmtree temp))
  | _ => pure ()

/- `_remove_owned_final_bundle`. -/
def removeOwnedFinalBundle (bundle : String) : BackupProgram Unit := do
  ignoringOSError (unlink bundle manifestName)
  ignoringOSError (unlink bundle catalogName)
  ignoringOSError (rmdir bundle)

/- The steps of `_publish_bundle_no_replace` after the final directory was made. -/
def fillBundle (temp bundle : String) : BackupProgram Unit := do
  Program.perform (Effect.restrict bundle)
  Program.perform (Effect.link temp bundle manifestName)
  Program.perform (Effect.link temp bundle catalogName)
  let _ ← verifyBundle bundle
  pure ()

def withdrawBundle (bundle : String) : Failure → BackupProgram Unit
  | .fileExists => .fail (.backup .outputExists)
  | .osError => do
    removeOwnedFinalBundle bundle
    .fail (.backup .outputPublishFailed)
  | .operations code => do
    removeOwnedFinalBundle bundle
    .fail (.operations code)
  | .backup code => do
    removeOwnedFinalBundle bundle
    .fail (.backup code)
  | .other => .fail .other

def refusedDirectory : Failure → BackupProgram Unit
  | .fileExists => .fail (.backup .outputExists)
  | .osError => .fail (.backup .outputPublishFailed)
  | x => .fail x

def publishBundleNoReplace (temp bundle : String) : BackupProgram Unit := do
  (Program.perform (Effect.mkdir bundle)).rescue refusedDirectory
  (fillBundle temp bundle).rescue (withdrawBundle bundle)
  removeOwnedTempBundle temp

/- The `try` of `create_catalog_backup`. -/
def createInTemp (temp bundle : String) : BackupProgram BackupResult := do
  Program.perform (Effect.mkdir temp)
  Program.perform (Effect.onlineBackup temp)
  let snapshot ← inspectSnapshot temp
  Program.perform (Effect.writeManifest temp snapshot)
  let result ← verifyBundle temp
  let taken ← lookAt bundle
  demandBackup taken.isNone .outputExists
  publishBundleNoReplace temp bundle
  pure result

def createCatalogBackup (bundle : String) : BackupProgram BackupResult := do
  let isFile ← databaseIsFile
  demandBackup isFile .invalidPath
  let taken ← lookAt bundle
  demandBackup taken.isNone .outputExists
  let token ← tempToken
  ensuring ((createInTemp (tempPrefix ++ bundle ++ "." ++ token) bundle).rescue fun x =>
      if x.isBackupError then .fail x else .fail (.backup .backupFailed))
    (removeOwnedTempBundle (tempPrefix ++ bundle ++ "." ++ token))

end Creating

section Restoring

def captureSemantic (destination : String) : BackupProgram SemanticSnapshot :=
  Program.perform (Effect.captureSemantic destination)
def unlinkRestored (destination : String) : BackupProgram Unit :=
  Program.perform (Effect.unlinkRestored destination)
def restoredExists (destination : String) : BackupProgram Bool :=
  Program.perform (Effect.restoredExists destination)

/- The removal of the disposable database: what is left is pending cleanup. -/
def removeDisposable (destination : String) : BackupProgram Bool := do
  let kept ← (unlinkRestored destination >>= fun _ => pure false).rescue fun x =>
    if x.isOSError then pure true else .fail x
  let there ← restoredExists destination
  pure (kept || there)

def disposableName (name : String) (clock : Utc) (token : String) : String :=
  "restore-" ++ name ++ "-" ++ clock.stamp ++ "-" ++ token ++ ".sqlite3"

/- `_restore_and_semantic`, into a database of which nothing is to stay. -/
def restoreAndSemantic (name : String) (verified : BackupResult) (clock : Utc) :
    BackupProgram (SemanticSnapshot × Bool) := do
  let token ← tokenHex
  let taken ← restoredExists (disposableName name clock token)
  demandOps (!taken) .destinationExists
  Program.perform (Effect.restoreCatalogBackup name (disposableName name clock token))
  Program.perform (Effect.verifyRestored (disposableName name clock token))
  let semantic ← captureSemantic (disposableName name clock token)
  demandOps (semantic.alembicRevision = verified.alembicRevision) .restoreRevisionMismatch
  let pendingCleanup ← removeDisposable (disposableName name clock token)
  pure (semantic, pendingCleanup)

end Restoring

section Running
variable (readers : Readers)

/- `_allocate_scheduled_attempt_seq`. -/
def allocateScheduledAttemptSeq (status : Status) : Nat :=
  max status.scheduledAttemptSeq (max ((status.lastScheduledAttempt.bind (·.attemptSeq)).getD 0)
    ((status.lastSuccess.map (·.attemptSeq)).getD 0)) + 1

/- `allocate_automatic_bundle_name`. -/
def automaticName (clock : Utc) (token : String) : String :=
  "auto-" ++ clock.stamp ++ "-" ++ token

/- The first of two names that nothing bears. -/
def allocateBundle (clock : Utc) : BackupProgram String := do
  let token ← tokenHex
  let taken ← lookAt (automaticName clock token)
  if taken.isNone then pure (automaticName clock token)
  else do
    let token' ← tokenHex
    let taken' ← lookAt (automaticName clock token')
    demandOps taken'.isNone .outputExists
    pure (automaticName clock token')

def startedAt (status : Status) : Option String :=
  status.lastScheduledAttempt.bind (·.startedAtUtc)

/- The status that records a success, with the bundle in the ledger. -/
def recordedSuccess (status : Status) (success : ScheduledSuccess) (pendingCleanup : Bool) :
    Status :=
  { status with
    lastScheduledAttempt := some ⟨startedAt status, some success.completedAtUtc, .succeeded,
      some success.bundleId, none, some success.attemptSeq⟩
    lastSuccess := some success
    recentFailure := none
    pendingCleanup :=
      if pendingCleanup then some ⟨success.bundleId, success.completedAtUtc⟩ else none
    autoLedger := status.autoLedger ++ [⟨success.bundleId, success.completedAtUtc,
      success.catalogSha256, success.alembicRevision⟩]
    scheduledAttemptSeq := success.attemptSeq }

structure ScheduledPipelineResult where
  success : ScheduledSuccess
  retention : RetentionPlan
  expired : List String
  pendingCleanup : Bool

/- Create, verify and restore one new bundle. -/
def scheduledBundle (clock : Utc) (attemptSeq : Nat) :
    BackupProgram (ScheduledSuccess × Bool) := do
  validateBackupRoot
  let isFile ← databaseIsFile
  demandOps isFile .invalidPath
  let bundleId ← allocateBundle clock
  let created ← createCatalogBackup bundleId
  let verified ← verifyBundle bundleId
  demandOps (verified.catalogSha256 = created.catalogSha256) .catalogChecksumMismatch
  let stillFile ← databaseIsFile
  demandOps stillFile .invalidPath
  let restored ← restoreAndSemantic bundleId verified clock
  demandOps (restored.1.alembicRevision = verified.alembicRevision) .restoreRevisionMismatch
  pure (⟨bundleId, clock.format, verified.catalogSha256, verified.alembicRevision,
    verified.catalogSizeBytes, restored.1, attemptSeq⟩, restored.2)

def clearOperation (operation : Operation) : BackupProgram Unit := do
  let status ← loadStatus
  if status.currentOperation = some operation then
    writeStatus { status with currentOperation := none }
  else pure ()

/- `_run_scheduled_body`. -/
def runScheduledBody (config : CatalogBackupOpsConfig) (clock : Utc) (attemptSeq : Nat) :
    BackupProgram ScheduledPipelineResult := do
  let made ← scheduledBundle clock attemptSeq
  let status ← loadStatus
  writeStatus (recordedSuccess status made.1 made.2)
  appendEvent (.scheduledSucceeded clock.format made.1.bundleId attemptSeq)
  let retained ← scheduledRetention readers config
  let status' ← loadStatus
  writeStatus { status' with currentOperation := none }
  pure ⟨made.1, retained.1, retained.2, made.2⟩

/- `_record_scheduled_failure`. -/
def recordScheduledFailure (code : ErrorCode) (clock : Utc) (attemptSeq : Nat) :
    BackupProgram Unit := do
  let status ← loadStatus
  writeStatus { status with
    lastScheduledAttempt := some ⟨startedAt status, some clock.format, .failed, none, some code,
      some attemptSeq⟩
    scheduledAttemptSeq :=
      if attemptSeq = 0 then status.scheduledAttemptSeq else max status.scheduledAttemptSeq attemptSeq
    recentFailure := some ⟨clock.format, code, .runScheduled, some attemptSeq⟩
    currentOperation := none }
  appendEvent (.scheduledFailed clock.format code (some attemptSeq))

/- The `except` clauses of a scheduled run. -/
def scheduledFailure (clock : Utc) (attemptSeq : Nat) (x : Failure) :
    BackupProgram ScheduledPipelineResult :=
  match x with
  | .operations .pendingCleanup => .fail x
  | .operations code | .backup code => do
    recordScheduledFailure code clock attemptSeq
    .fail x
  | .fileExists | .osError | .other => do
    recordScheduledFailure .backupOpsFailed clock attemptSeq
    .fail (.operations .backupOpsFailed)

/- `run_scheduled_catalog_backup`, holding the lock. -/
def runScheduledCatalogBackup (config : CatalogBackupOpsConfig) (clock : Utc) :
    BackupProgram ScheduledPipelineResult := do
  ensureOpsLayout
  let status ← loadStatus
  let attemptSeq := allocateScheduledAttemptSeq status
  writeStatus { status with
    scheduledAttemptSeq := attemptSeq
    currentOperation := some .runScheduled
    lastScheduledAttempt := some ⟨some clock.format, none, .running, none, none, some attemptSeq⟩ }
  appendEvent (.scheduledStarted clock.format attemptSeq)
  ensuring ((do
      let result ← runScheduledBody readers config clock attemptSeq
      demandOps (!result.pendingCleanup) .pendingCleanup
      pure result).rescue (scheduledFailure clock attemptSeq))
    (clearOperation .runScheduled)

/- `_existing_bundle_under_root`, of a name in the root. -/
def existingBundleUnderRoot (name : String) : BackupProgram Unit := do
  let entry ← lookAt name
  match entry with
  | some (.bundle _) => pure ()
  | some (.symlink _) => .fail (.operations .unsafePath)
  | some .file | none => .fail (.operations .invalidPath)

def verifyRestore (name : String) (clock : Utc) : BackupProgram ManualEvidence := do
  existingBundleUnderRoot name
  let verified ← verifyBundle name
  let restored ← restoreAndSemantic name verified clock
  let evidence : ManualEvidence := ⟨name, clock.format, verified.catalogSha256,
    verified.alembicRevision, verified.catalogSizeBytes, restored.1, restored.2⟩
  let status ← loadStatus
  writeStatus { status with
    lastManualVerifyRestore := some evidence
    pendingCleanup :=
      if restored.2 then some ⟨name, clock.format⟩
      else status.pendingCleanup.filter fun pending => pending.bundleId ≠ name
    currentOperation := none }
  appendEvent (.manualVerifyRestoreSucceeded clock.format name)
  demandOps (!restored.2) .pendingCleanup
  pure evidence

/- `verify_restore_bundle`, holding the lock. -/
def verifyRestoreBundle (name : String) (clock : Utc) : BackupProgram ManualEvidence := do
  ensureOpsLayout
  let status ← loadStatus
  writeStatus { status with currentOperation := some .verifyRestore }
  ensuring ((verifyRestore name clock).rescue fun x => do
      let status ← loadStatus
      writeStatus { status with currentOperation := none }
      .fail x)
    (clearOperation .verifyRestore)

end Running

section Selecting
variable (readers : Readers)

/-- What the selection hands to an export: the recovery point and its semantic facts. -/
structure SelectedScheduledRecoveryPoint where
  bundleId : String
  verified : BackupResult
  semantic : SemanticSnapshot
  recordedSuccess : ScheduledSuccess

/- `select_latest_successful_scheduled_recovery_point`. -/
def selectLatestSuccessful (w : World) : Except Failure SelectedScheduledRecoveryPoint := do
  let status : Status ← match w.status with
    | .absent => .error (.operations .scheduledSourceUnavailable)
    | .rejected code => .error (.operations code)
    | .loaded status => .ok status
  let success ← match status.lastSuccess with
    | some success => .ok success
    | none => .error (.operations .scheduledSourceUnavailable)
  demand (isAutomaticBundleName readers success.bundleId) (.operations .scheduledSourceInvalid)
  demand (success.bundleId ∈ status.ledgerIds) (.operations .scheduledSourceNotLedgered)
  let children ← match Named.get? w.root success.bundleId with
    | some (.bundle children) => .ok children
    | _ => .error (.operations .scheduledSourceMissing)
  let verified ← verifyChildren readers children
  demand (verified.catalogSha256 = success.catalogSha256 &&
    verified.alembicRevision = success.alembicRevision &&
    verified.catalogSizeBytes = success.catalogSizeBytes)
    (.operations .scheduledSourceEvidenceMismatch)
  let catalog ← existingRegularFile children catalogName
  let semantic ← captureSemanticSnapshot readers catalog
  demand (success.semantic.counts = semantic.counts) (.operations .scheduledSourceEvidenceMismatch)
  demand (success.semantic.alembicRevision = semantic.alembicRevision)
    (.operations .scheduledSourceEvidenceMismatch)
  return ⟨success.bundleId, verified, semantic, success⟩

end Selecting
end FrameNest.Backups
