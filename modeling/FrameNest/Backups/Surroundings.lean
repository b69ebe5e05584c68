import FrameNest.Backups.Bundles
import FrameNest.Concurrent.Program

/-! The backup root and the operator state, and the calls through which the backup
operations read and change them. -/
namespace FrameNest.Backups
open Concurrent Relational

/-- Bounded semantic facts read from a restored catalog. -/
structure SemanticSnapshot where
  alembicRevision : String
  counts : List (String × Nat)
deriving DecidableEq

inductive Operation where
  | runScheduled | verifyRestore | expire
deriving DecidableEq

inductive AttemptState where
  | running | succeeded | failed
deriving DecidableEq

structure ScheduledAttempt where
  startedAtUtc : Option String
  completedAtUtc : Option String
  state : AttemptState
  bundleId : Option String
  errorCode : Option ErrorCode
  attemptSeq : Option Nat
deriving DecidableEq

/-- `last_successful_scheduled_backup_and_restore`. -/
structure ScheduledSuccess where
  bundleId : String
  completedAtUtc : String
  catalogSha256 : String
  alembicRevision : String
  catalogSizeBytes : Nat
  semantic : SemanticSnapshot
  attemptSeq : Nat
deriving DecidableEq

structure ManualEvidence where
  bundleId : String
  completedAtUtc : String
  catalogSha256 : String
  alembicRevision : String
  catalogSizeBytes : Nat
  semantic : SemanticSnapshot
  pendingCleanup : Bool
deriving DecidableEq

structure PendingCleanup where
  bundleId : String
  atUtc : String
deriving DecidableEq

structure RecentFailure where
  atUtc : String
  errorCode : ErrorCode
  operation : Operation
  attemptSeq : Option Nat
deriving DecidableEq

structure LedgerEntry where
  bundleId : String
  createdAtUtc : String
  catalogSha256 : String
  alembicRevision : String
deriving DecidableEq

/-- The operator status a backup operation reads and writes. -/
structure Status where
  updatedAtUtc : String
  currentOperation : Option Operation
  scheduledAttemptSeq : Nat
  lastScheduledAttempt : Option ScheduledAttempt
  lastSuccess : Option ScheduledSuccess
  lastManualVerifyRestore : Option ManualEvidence
  pendingCleanup : Option PendingCleanup
  recentFailure : Option RecentFailure
  autoLedger : List LedgerEntry
deriving DecidableEq

/- `_empty_status`. -/
def Status.empty (now : Utc) : Status :=
  ⟨now.format, none, 0, none, none, none, none, none, []⟩

def Status.ledgerIds (status : Status) : List String :=
  status.autoLedger.map LedgerEntry.bundleId

inductive StatusFile where
  | absent
  | rejected (code : ErrorCode)
  | loaded (status : Status)
deriving DecidableEq

inductive Event where
  | scheduledStarted (atUtc : String) (attemptSeq : Nat)
  | scheduledSucceeded (atUtc bundleId : String) (attemptSeq : Nat)
  | scheduledFailed (atUtc : String) (errorCode : ErrorCode) (attemptSeq : Option Nat)
  | scheduledExpireApplied (atUtc : String) (deletedCount : Nat)
  | manualVerifyRestoreSucceeded (atUtc bundleId : String)
  | expireDryRun (atUtc : String) (expireCount : Nat)
  | expirePartialFailure (atUtc bundleId : String) (errorCode : ErrorCode)
  | expireApplied (atUtc : String) (deletedCount : Nat)
deriving DecidableEq

structure World where
  root : Root
  status : StatusFile
  events : List Event
  /-- Files under the restore verification root. -/
  restored : Named Bytes

/-- What the ledger of a world names; without a status it names nothing. -/
def World.ledgerIds (w : World) : List String :=
  match w.status with
  | .loaded status => status.ledgerIds
  | _ => []

def World.lastSuccess (w : World) : Option ScheduledSuccess :=
  match w.status with
  | .loaded status => status.lastSuccess
  | _ => none

inductive Effect where
  | ensureOpsLayout
  | validateBackupRoot
  | loadStatus
  | writeStatus (status : Status)
  | appendEvent (event : Event)
  | iterdir
  | childNames (name : String)
  | verifyCatalogBackup (name : String)
  | readManifest (name : String)
  | resolve (name : String)
  | lookAt (name : String)
  | unlink (name file : String)
  | rmdir (name : String)
  | now
  | tokenHex
  | tempToken
  | databaseIsFile
  | mkdir (name : String)
  | restrict (name : String)
  | onlineBackup (name : String)
  | inspectSnapshot (name : String)
  | writeManifest (name : String) (result : BackupResult)
  | link (source destination file : String)
  | rmtree (name : String)
  | restoreCatalogBackup (name destination : String)
  | verifyRestored (destination : String)
  | captureSemantic (destination : String)
  | unlinkRestored (destination : String)
  | restoredExists (destination : String)
deriving DecidableEq

/- A text that `secrets.token_hex(4)` can answer. -/
def isTokenHex4 (s : String) : Bool :=
  s.toList.length = 8 && s.toList.all fun c => ('0' ≤ c && c ≤ '9') || ('a' ≤ c && c ≤ 'f')

/-- How one call comes out: what it raises, if anything, whether it had done its work by
then, and what the clock, the random source and the live database answer. -/
structure Moment where
  fault : Option Failure
  late : Bool
  now : Utc
  token : String
  isToken : isTokenHex4 token = true
  tempToken : String
  /-- The bytes of an online backup, when the live database is a regular file. -/
  database : Option Bytes

namespace Effect

def Answer : Effect → Type
  | loadStatus => Status
  | iterdir => List (String × Entry)
  | childNames _ => List String
  | verifyCatalogBackup _ | inspectSnapshot _ => BackupResult
  | readManifest _ => Parsed.Loaded
  | resolve _ => Option String
  | lookAt _ => Option Entry
  | now => Utc
  | tokenHex | tempToken => String
  | databaseIsFile | restoredExists _ => Bool
  | captureSemantic _ => SemanticSnapshot
  | _ => Unit

end Effect

section Disk
variable (readers : Readers)

def refuse {α : Type} (x : Failure) (w : World) : Except Failure α × World := (.error x, w)

/- A change of the children of one bundle directory. -/
def onBundle (name : String) (f : Children → Option Children) (w : World) :
    Except Failure Unit × World :=
  match Named.get? w.root name with
  | some (.bundle children) =>
    match f children with
    | some children' => (.ok (), { w with root := Named.set w.root name (.bundle children') })
    | none => refuse .osError w
  | _ => refuse .osError w

def putFile (children : Children) (file : String) (content : Bytes) : Children :=
  match Named.put? children file (.file content) with
  | some children' => children'
  | none => Named.set children file (.file content)

/- The file of one bundle under a free name of another. -/
def linkFile (w : World) (source destination file : String) : Except Failure Unit × World :=
  match Named.get? w.root source with
  | some (.bundle children) =>
    match Named.get? children file, Named.get? w.root destination with
    | some node, some (.bundle target) =>
      if (Named.get? target file).isSome then refuse (.backup .destinationExists) w
      else onBundle destination (fun c => Named.put? c file node) w
    | _, _ => refuse (.backup .outputPublishFailed) w
  | _ => refuse (.backup .outputPublishFailed) w

/- `capture_semantic_snapshot` of a file's content. -/
def captureSemanticSnapshot (content : Bytes) : Except Failure SemanticSnapshot :=
  match readers.catalogRevision content, readers.semanticCounts content with
  | some revision, some counts => .ok ⟨revision, counts⟩
  | none, _ => .error (.operations .catalogRevisionUnavailable)
  | some _, none => .error (.operations .semanticReadbackFailed)

/- The bytes a restore publishes, from a verified bundle. -/
def catalogContent : Option Entry → Option Bytes
  | some (.bundle children) =>
    match Named.get? children catalogName with
    | some (.file content) => some content
    | _ => none
  | _ => none

/- `restore_catalog_backup`: verified again, and refused when the destination is there. -/
def restore (w : World) (name destination : String) : Except Failure Unit × World :=
  match verifyCatalogBackup readers (Named.get? w.root name),
      catalogContent (Named.get? w.root name) with
  | .ok _, some content =>
    match Named.put? w.restored destination content with
    | some restored => (.ok (), { w with restored := restored })
    | none => refuse (.backup .destinationExists) w
  | .ok _, none => refuse (.backup .invalidPath) w
  | .error x, _ => refuse x w

def snapshotResult (content : Bytes) : Except Failure BackupResult := do
  verifySqliteIntegrity readers content
  let revision ← catalogRevision readers content
  return ⟨content.length, readers.sha256 content, revision⟩

/-- What one call does when nothing goes wrong with it. -/
def perform (i : Moment) : (e : Effect) → World → Except Failure e.Answer × World
  | .ensureOpsLayout, w =>
    (.ok (), match w.status with
      | .absent => { w with status := .loaded (Status.empty i.now) }
      | _ => w)
  | .validateBackupRoot, w => (.ok (), w)
  | .loadStatus, w =>
    (match w.status with
      | .absent => .ok (Status.empty i.now)
      | .rejected code => .error (.operations code)
      | .loaded status => .ok status, w)
  | .writeStatus status, w =>
    (.ok (), { w with status := .loaded { status with updatedAtUtc := i.now.format } })
  | .appendEvent event, w => (.ok (), { w with events := w.events ++ [event] })
  | .iterdir, w => (.ok w.root.rows, w)
  | .childNames name, w =>
    (match Named.get? w.root name with
      | some (.bundle children) => .ok (Named.names children)
      | _ => .error .osError, w)
  | .verifyCatalogBackup name, w => (verifyCatalogBackup readers (Named.get? w.root name), w)
  | .readManifest name, w =>
    (match Named.get? w.root name with
      | some (.bundle children) =>
        match Named.get? children manifestName with
        | some (.file content) => .ok (readers.loads content)
        | _ => .error .osError
      | _ => .error .osError, w)
  | .resolve name, w =>
    (.ok (match Named.get? w.root name with
      | some (.symlink target) => target
      | _ => some name), w)
  | .lookAt name, w => (.ok (Named.get? w.root name), w)
  | .unlink name file, w =>
    onBundle name (fun children =>
      match Named.get? children file with
      | some .directory => none
      | _ => some (Named.erase children file)) w
  | .rmdir name, w =>
    match Named.get? w.root name with
    | some (.bundle children) =>
      if children.rows = [] then (.ok (), { w with root := Named.erase w.root name })
      else refuse .osError w
    | _ => refuse .osError w
  | .now, w => (.ok i.now, w)
  | .tokenHex, w => (.ok i.token, w)
  | .tempToken, w => (.ok i.tempToken, w)
  | .databaseIsFile, w => (.ok i.database.isSome, w)
  | .mkdir name, w =>
    match Named.put? w.root name (.bundle .empty) with
    | some root => (.ok (), { w with root := root })
    | none => refuse .fileExists w
  | .restrict _, w => (.ok (), w)
  | .onlineBackup name, w =>
    match i.database with
    | some content => onBundle name (fun c => some (putFile c catalogName content)) w
    | none => refuse (.backup .sqliteBackupFailed) w
  | .inspectSnapshot name, w =>
    (match catalogContent (Named.get? w.root name) with
      | some content => snapshotResult readers content
      | none => .error .osError, w)
  | .writeManifest name result, w =>
    onBundle name (fun c => some (putFile c manifestName
      (readers.dumps (buildManifest readers.applicationVersion i.now result)))) w
  | .link source destination file, w => linkFile w source destination file
  | .rmtree name, w => (.ok (), { w with root := Named.erase w.root name })
  | .restoreCatalogBackup name destination, w => restore readers w name destination
  | .verifyRestored destination, w =>
    (match Named.get? w.restored destination with
      | some content => do
        demand (readers.integrityCheck content) (.operations .sqliteIntegrityFailed)
        demand (readers.foreignKeyCheck content) (.operations .sqliteForeignKeyFailed)
      | none => .error (.operations .sqliteIntegrityFailed), w)
  | .captureSemantic destination, w =>
    (match Named.get? w.restored destination with
      | some content => captureSemanticSnapshot readers content
      | none => .error (.operations .semanticReadbackFailed), w)
  | .unlinkRestored destination, w =>
    (.ok (), { w with restored := Named.erase w.restored destination })
  | .restoredExists destination, w => (.ok (Named.get? w.restored destination).isSome, w)

/-- One call, with the faults of its moment. -/
def exec (i : Moment) (e : Effect) (w : World) : Except Failure e.Answer × World :=
  match i.fault with
  | none => perform readers i e w
  | some x => (.error x, if i.late then (perform readers i e w).2 else w)

end Disk

abbrev BackupProgram := Program Effect Effect.Answer Failure

section Calls

def ensureOpsLayout : BackupProgram Unit := Program.perform Effect.ensureOpsLayout
def validateBackupRoot : BackupProgram Unit := Program.perform Effect.validateBackupRoot
def loadStatus : BackupProgram Status := Program.perform Effect.loadStatus
def writeStatus (status : Status) : BackupProgram Unit := Program.perform (Effect.writeStatus status)
def appendEvent (event : Event) : BackupProgram Unit := Program.perform (Effect.appendEvent event)
def iterdir : BackupProgram (List (String × Entry)) := Program.perform Effect.iterdir
def childNames (name : String) : BackupProgram (List String) := Program.perform (Effect.childNames name)
def verifyBundle (name : String) : BackupProgram BackupResult :=
  Program.perform (Effect.verifyCatalogBackup name)
def readManifest (name : String) : BackupProgram Parsed.Loaded :=
  Program.perform (Effect.readManifest name)
def resolve (name : String) : BackupProgram (Option String) := Program.perform (Effect.resolve name)
def lookAt (name : String) : BackupProgram (Option Entry) := Program.perform (Effect.lookAt name)
def unlink (name file : String) : BackupProgram Unit := Program.perform (Effect.unlink name file)
def rmdir (name : String) : BackupProgram Unit := Program.perform (Effect.rmdir name)

end Calls
end FrameNest.Backups
