import FrameNest.Deploy.Host
import Mathlib.Data.List.Infix

/-! The `deploy` and `rollback` commands of the release engine. -/
namespace FrameNest.Deploy
open Concurrent

inductive ExitCode where
  | usage | sourceGate | publicMismatch | apMismatch | tooling | exists | capacity
  | backupNotReady | checkpoint | migrationRequired | poetry | readiness | serviceTerminal
  | readinessTimeout | rollback | cleanup | transport
deriving DecidableEq

structure ReleaseError where
  message : String
  exitCode : ExitCode
deriving DecidableEq

/-- A JSON value: a string, or anything else by its text. -/
inductive Value where
  | text (s : String)
  | other (json : List Char)
deriving DecidableEq

/-- The members of a printed JSON object that some command looks at. -/
structure StatusPayload where
  currentRevision : Option Value
  headRevision : Option Value
  state : Option Value
  restoreReadiness : Option Value
  releaseSha : Option Value

structure Archives where
  superproject : String
  ap : String

structure CaptureIdentity where
  codeTree : String
  runtimeContractSha256 : String
  unitContractSha256 : String
  bridgeProtocol : String

/-- What the engine brings along: its own text, digests and the two parsers it calls. -/
structure Tool where
  engine : String
  sha256 : String → String
  parseJsonStatus : String → Option StatusPayload
  parseInt : String → Option Int

inductive GitCommand where
  | showToplevel | head | status | apStatus | publicMain
  | gitlink (sha : String)
  | apHead
deriving DecidableEq

inductive Effect where
  | ssh (c : Command)
  | resolveTransport
  | git (c : GitCommand)
  | buildArchives
  | captureRuntimeIdentity
  /-- Is the readiness deadline over? -/
  | deadlinePassed

abbrev Effect.Answer : Effect → Type
  | .ssh _ | .git _ => String
  | .resolveTransport => Unit
  | .buildArchives => Archives
  | .captureRuntimeIdentity => CaptureIdentity
  | .deadlinePassed => Bool

/-- The surroundings of one call. -/
structure Moment where
  outcome : Outcome := .success
  stdout : String := ""
  error : Option ReleaseError := none
  archives : Archives := ⟨"", ""⟩
  identity : CaptureIdentity := ⟨"", "", "", ""⟩
  deadlinePassed : Bool := false

/-- The remote host, and what the transport reported of the commands so far. -/
structure Remote where
  host : Host
  attempts : List (Command × Bool)

def Moment.answer (i : Moment) (a : α) : Except ReleaseError α :=
  match i.error with
  | some x => .error x
  | none => .ok a

def perform (tool : Tool) (i : Moment) : (e : Effect) → Remote → Except ReleaseError e.Answer × Remote
  | .ssh c, s =>
    let r := runCommand tool.sha256 i.outcome c s.host
    (if r.2 then .ok (c.output i.stdout s.host) else .error ⟨"command failed", .transport⟩,
      ⟨r.1, s.attempts ++ [(c, r.2)]⟩)
  | .resolveTransport, s => (i.answer (), s)
  | .git _, s => (i.answer (Plain.strip i.stdout), s)
  | .buildArchives, s => (i.answer i.archives, s)
  | .captureRuntimeIdentity, s => (i.answer i.identity, s)
  | .deadlinePassed, s => (.ok i.deadlinePassed, s)

abbrev Release := Program Effect Effect.Answer ReleaseError

def callOf (e : Effect) : Release e.Answer := Program.perform e

def ssh (c : Command) : Release String := callOf (.ssh c)

def probe (p : Probe) : Release String := ssh (.probe p)

def git (c : GitCommand) : Release String := callOf (.git c)

@[irreducible] def demand (b : Bool) (message : String) (code : ExitCode) : Release Unit :=
  if b then pure () else .fail ⟨message, code⟩

/- `except ReleaseError as exc: raise ReleaseError(message, code) from exc`. -/
def mapError (p : Release α) (message : String) (code : ExitCode) : Release α :=
  p.rescue fun _ => .fail ⟨message, code⟩

def settle : Except ReleaseError α → Release α
  | .ok a => pure a
  | .error x => .fail x

/- `try: p finally: cleanup`. -/
def andFinally (p : Release α) (cleanup : Release Unit) : Release α :=
  (p >>= fun a => pure (Except.ok a)).rescue (fun x => pure (.error x)) >>= fun r =>
    cleanup >>= fun _ => settle r

section Gates
variable (tool : Tool)

def validateReleaseSha (sha : String) : Release Unit :=
  demand (matchesShaPattern sha) "release must be a full lowercase 40-hex commit SHA" .usage

def parseStatus (output : String) : Release StatusPayload :=
  match tool.parseJsonStatus (Plain.strip output) with
  | some payload => pure payload
  | none => .fail ⟨"unexpected remote output", .transport⟩

def verifyLocalHead (sha : String) : Release Unit := do
  let head ← git .head
  demand (head = sha) "local HEAD does not match the requested release" .sourceGate

def verifyCleanWorktrees : Release Unit := do
  let status ← git .status
  demand (Plain.strip status = "") "worktree is not clean" .sourceGate
  let apStatus ← git .apStatus
  demand (Plain.strip apStatus = "") "worktree is not clean" .sourceGate

def verifyPublicMain (sha : String) : Release Unit := do
  let output ← git .publicMain
  demand ((words output)[0]? = some sha) "public main does not equal the requested release"
    .publicMismatch

def apGitlinkOf (sha : String) : Release String := do
  let output ← git (.gitlink sha)
  match words output with
  | _ :: "commit" :: gitlink :: _ => pure gitlink
  | _ => .fail ⟨"unable to resolve the release .ap gitlink", .apMismatch⟩

def verifyApPin (sha : String) : Release String := do
  let gitlink ← apGitlinkOf sha
  let head ← git .apHead
  demand (head = gitlink) "local .ap HEAD differs from the release gitlink" .apMismatch
  pure gitlink

def contains (text part : String) : Bool := decide (part.toList <:+: text.toList)

def verifyTooling : Release Unit := do
  let _ ← probe .poetryExecutable
  let _ ← probe .cpythonExecutable
  let poetryVersion ← probe .poetryVersion
  let cpythonVersion ← probe .cpythonVersion
  demand (contains (Plain.strip poetryVersion) "2.4.1") "Poetry tooling is mismatched" .tooling
  demand (contains (Plain.strip cpythonVersion) "3.13.14") "CPython tooling is mismatched" .tooling

/- `MIN_FREE_CAPACITY_BYTES`. -/
def minFreeCapacityBytes : Int := 1073741824

def capacityOf (output : String) : Option Int :=
  (words (Plain.strip output))[3]?.bind tool.parseInt

def verifyCapacity (requiredBytes : Int) : Release Unit := do
  let raw ← probe .dfCapacity
  match capacityOf tool raw with
  | none => .fail ⟨"capacity check failed", .capacity⟩
  | some availableKb =>
    demand (requiredBytes + minFreeCapacityBytes ≤ availableKb * 1024)
      "insufficient capacity for the release" .capacity

def readMarkers (path marker : String) : Release Unit :=
  if marker = "manifest" then do
    let manifest ← probe (.readManifest path)
    let _ ← parseStatus tool manifest
    pure ()
  else if marker = "sha" then do
    let sha ← probe (.readReleaseSha path)
    demand (matchesShaPattern (Plain.strip sha)) "current release SHA marker is invalid" .transport
  else if marker = "none" then
    .fail ⟨"current release SHA marker and manifest are absent", .transport⟩
  else .fail ⟨"current release markers are unreadable", .transport⟩

def readCurrentRelease : Release String := do
  let raw ← ssh .readlinkCurrent
  demand (startsWith (Plain.strip raw) releaseRoot) "current release path is unexpected" .transport
  let marker ← probe (.releaseMarkers (Plain.strip raw))
  readMarkers tool (Plain.strip raw) (Plain.strip marker)
  pure (Plain.strip raw)

def readBackupReadiness (path : String) : Release Value := do
  let raw ← probe (.backupStatus path)
  let payload ← parseStatus tool raw
  match payload.restoreReadiness with
  | some (.text readiness) => pure (.text readiness)
  | _ => .fail ⟨"backup readiness unavailable", .backupNotReady⟩

def captureRuntimeIdentity (sha : String) : Release CaptureIdentity := do
  validateReleaseSha sha
  callOf .captureRuntimeIdentity

/- `_cmd_check`, up to what it prints. -/
def cmdCheck (sha : String) : Release Unit := do
  validateReleaseSha sha
  callOf .resolveTransport
  let _ ← git .showToplevel
  verifyLocalHead sha
  verifyCleanWorktrees
  verifyPublicMain sha
  let _ ← verifyApPin sha
  let _ ← callOf .buildArchives
  verifyTooling
  let path ← readCurrentRelease tool
  let readiness ← readBackupReadiness tool path
  demand (readiness = .text "ready") "catalog backup is not restore-ready" .backupNotReady
  let _ ← captureRuntimeIdentity sha
  pure ()

def isHex64 (text : String) : Bool := text.toList.length = 64 && text.toList.all Plain.isLowerHex

/- `make_manifest`, its members in the order they are written in. -/
def makeManifest (sha apPin superSha256 apSha256 : String) (identity : CaptureIdentity) :
    Release Json := do
  validateReleaseSha identity.codeTree
  demand (identity.bridgeProtocol = "1") "capture bridge protocol is not compatible" .sourceGate
  demand (isHex64 identity.runtimeContractSha256 && isHex64 identity.unitContractSha256)
    "capture runtime identity is invalid" .sourceGate
  pure (.obj [("ap_archive_sha256", .str apSha256), ("ap_gitlink", .str apPin),
    ("capture_bridge_protocol", .str identity.bridgeProtocol),
    ("capture_code_tree", .str identity.codeTree),
    ("capture_runtime_contract_sha256", .str identity.runtimeContractSha256),
    ("capture_unit_contract_sha256", .str identity.unitContractSha256),
    ("framenest_release_sha", .str sha), ("superproject_archive_sha256", .str superSha256)])

end Gates

section Cutover

def checkReady (target : String) : Release Bool :=
  (probe (.checkHealth target) >>= fun _ => probe (.checkDatabaseReady target) >>= fun _ =>
    pure true).rescue fun _ => pure false

def health (active : Bool) (target : String) : Release Bool :=
  if active then checkReady target else pure false

def demandDeadline : Release Unit := do
  let passed ← callOf .deadlinePassed
  demand (!passed) "service readiness deadline exceeded" .readinessTimeout

/- One turn of the polling loop. -/
def pollReady (target : String) : Release Bool := do
  demandDeadline
  let activeState ← probe .serviceActiveState
  let resultState ← probe .serviceResult
  demand (Plain.strip activeState ≠ "failed") "service entered terminal failed state"
    .serviceTerminal
  demand (Plain.strip activeState = "active" || Plain.strip activeState = "activating" ||
    Plain.strip resultState = "" || Plain.strip resultState = "success")
    "service entered terminal failed state" .serviceTerminal
  health (Plain.strip activeState = "active") target

/- Every turn sleeps a second of the thirty, or what is left of them. -/
def waitReady (target : String) : Nat → Release Unit
  | 0 => .fail ⟨"service readiness deadline exceeded", .readinessTimeout⟩
  | turns + 1 => pollReady target >>= fun ready =>
    if ready then pure () else demandDeadline >>= fun _ => waitReady target turns

/- `READINESS_DEADLINE_SECONDS / READINESS_POLL_INTERVAL_SECONDS`. -/
def readinessPolls : Nat := 30

def unsanitized : List String :=
  ["/etc/framenest/credentials", "Authorization:", "Bearer ", "BEGIN "]

def verifyCutover (target : String) : Release Unit := do
  let currentPath ← ssh .readlinkCurrent
  demand (Plain.strip currentPath = target) "cutover failed" .readiness
  let workingDir ← probe .systemdWorkingDirectory
  demand (Plain.strip workingDir = current) "service working directory is unexpected" .readiness
  waitReady target readinessPolls
  let logs ← probe .journal
  demand (unsanitized.all fun token => !contains logs token) "unsanitized log content"
    .serviceTerminal

/- The `try` block of `_rollback`. -/
def restorePrevious (file : RemoteFile) : Release Unit := do
  let text ← ssh (.cat file)
  demand (isRemotePath (Plain.strip text)) "unsafe remote path" .transport
  let _ ← mapError (ssh (.atomicSwitch (Plain.strip text))) "rollback switch failed" .rollback
  let _ ← mapError (probe (.checkDatabaseReady (Plain.strip text)))
    "rollback pre-restart readiness failed" .rollback
  let _ ← mapError (probe .restartService) "rollback restart failed" .rollback
  verifyCutover (Plain.strip text)

def rollback (file : RemoteFile) : Release Unit :=
  (restorePrevious file).rescue fun x =>
    if x.exitCode = .rollback then .fail x
    else .fail ⟨"rollback failed (" ++ x.message ++ ")", .rollback⟩

end Cutover

section Deploy
variable (tool : Tool)

/- The archives and the engine, each checked against its digest on the host. -/
def transfer (archives : Archives) : Release Unit := do
  let _ ← ssh (.writeFile .engine (tool.sha256 tool.engine) tool.engine)
  let _ ← ssh (.writeFile .superproject (tool.sha256 archives.superproject) archives.superproject)
  let _ ← ssh (.writeFile .ap (tool.sha256 archives.ap) archives.ap)
  pure ()

def claimDeployDir (target staging : String) : Release Unit := do
  let _ ← mapError (ssh .mkdirDeployDir) "existing remote lock or recovery state" .exists
  let _ ← ssh (.testNotExists target)
  let _ ← ssh (.testNotExists staging)
  pure ()

def prepareTree (staging : String) : Release Unit := do
  let _ ← ssh (.prepare staging .directory)
  let _ ← ssh (.prepare staging .extract)
  let _ ← ssh (.prepare staging .apDirectory)
  let _ ← ssh (.prepare staging .extractAp)
  let _ ← ssh (.prepare staging .poetryToml)
  pure ()

def prepareEnvironment (staging : String) : Release Unit := do
  let lockBefore ← probe (.lockHash staging)
  let _ ← probe (.poetryCheckLock staging)
  let _ ← ssh (.prepare staging .envUse)
  let _ ← ssh (.prepare staging .install)
  let lockAfter ← probe (.lockHash staging)
  demand (Plain.strip lockBefore = Plain.strip lockAfter) "poetry.lock changed during installation"
    .poetry

def publish (sha apGitlink superSha256 apSha256 target staging : String) : Release Unit := do
  let _ ← ssh (.prepare staging (.relocateShebangs target))
  let _ ← ssh (.prepare staging .chownRoot)
  let _ ← ssh (.prepare staging .removeWritableBits)
  let identity ← captureRuntimeIdentity sha
  let manifest ← makeManifest sha apGitlink superSha256 apSha256 identity
  let _ ← ssh (.prepare staging (.manifest manifest))
  let _ ← ssh (.prepare staging (.releaseSha (sha ++ "\n")))
  let _ ← ssh (.renameStaging staging target)
  pure ()

/- The same-schema gate and the checkpoint before the cutover. -/
def checkTarget (target : String) : Release Unit := do
  let statusRaw ← probe (.dbStatus target)
  let payload ← parseStatus tool statusRaw
  demand (payload.currentRevision = payload.headRevision) "migration-required" .migrationRequired
  let checkpointRaw ← probe (.runScheduledBackup target)
  let checkpoint ← parseStatus tool checkpointRaw
  demand (checkpoint.state = some (.text "succeeded")) "checkpoint failed" .checkpoint

def cutover (target : String) : Release Unit := do
  let _ ← mapError (probe (.checkDatabaseReady target)) "pre-cutover target readiness failed"
    .readiness
  let _ ← mapError (ssh (.atomicSwitch target)) "atomic switch failed" .readiness
  let _ ← mapError (probe .restartService) "restart failed" .readiness
  verifyCutover target

def cutoverOrRollback (target : String) : Release Unit :=
  (cutover target).rescue fun x => rollback .previous >>= fun _ =>
    .fail ⟨"deployment failed; rollback attempted (" ++ x.message ++ ")", x.exitCode⟩

def removeRemoteState : Release Unit := do
  let _ ← ssh (.removeFile .superproject)
  let _ ← ssh (.removeFile .ap)
  let _ ← ssh (.removeFile .engine)
  let _ ← ssh (.removeFile .previous)
  let _ ← ssh .rmDeployDir
  pure ()

def isReleaseText : Option Value → Bool
  | some (.text sha) => matchesShaPattern sha
  | _ => false

def readPointer (raw : String) : Release Unit :=
  if raw = "absent" then pure ()
  else do
    demand (isRemotePath raw) "unsafe remote path" .transport
    let manifest ← probe (.readManifest raw)
    let payload ← parseStatus tool manifest
    demand (isReleaseText payload.releaseSha) "referenced release identity is unreadable" .transport

/- `read_optional_release_sha(CAPTURE_CURRENT)`, whose result is only printed. -/
def readOptionalReleaseSha : Release Unit := do
  let raw ← probe .readOptionalLink
  readPointer tool (Plain.strip raw)

/- The remote part of a deployment, up to the cutover. -/
def stage (sha apGitlink : String) (archives : Archives) : Release Unit := do
  claimDeployDir (releaseDir sha) (stagingDir sha)
  verifyTooling
  verifyCapacity tool (archives.superproject.utf8ByteSize + archives.ap.utf8ByteSize)
  transfer tool archives
  prepareTree (stagingDir sha)
  prepareEnvironment (stagingDir sha)
  publish sha apGitlink (tool.sha256 archives.superproject) (tool.sha256 archives.ap)
    (releaseDir sha) (stagingDir sha)
  checkTarget tool (releaseDir sha)
  let _ ← ssh (.captureCurrent .previous)
  pure ()

def cmdDeploy (sha : String) (yes : Bool) : Release Unit := do
  validateReleaseSha sha
  demand yes "deploy requires --yes to confirm" .usage
  callOf .resolveTransport
  cmdCheck tool sha
  let _ ← git .showToplevel
  let apGitlink ← verifyApPin sha
  let archives ← callOf .buildArchives
  stage tool sha apGitlink archives
  cutoverOrRollback (releaseDir sha)
  mapError removeRemoteState "cleanup failed" .cleanup
  readOptionalReleaseSha tool

def switchTo (target : String) : Release Unit := do
  let _ ← probe (.checkDatabaseReady target)
  let _ ← ssh (.atomicSwitch target)
  let _ ← probe .restartService
  verifyCutover target

def switchOrRestore (target : String) : Release Unit := do
  let _ ← ssh (.captureCurrent .rollbackPrevious)
  (switchTo target).rescue fun x => rollback .rollbackPrevious >>= fun _ =>
    .fail ⟨"rollback target failed; previous release restored (" ++ x.message ++ ")", x.exitCode⟩

def dropRollbackState : Release Unit := do
  let _ ← ssh (.removeFile .rollbackPrevious)
  let _ ← ssh .rmDeployDir
  pure ()

def cmdRollback (sha : String) (yes : Bool) : Release Unit := do
  validateReleaseSha sha
  demand yes "rollback requires --yes to confirm" .usage
  callOf .resolveTransport
  let _ ← ssh (.testExists (releaseDir sha))
  let _ ← ssh (.testReleaseSha (releaseDir sha))
  let _ ← ssh (.testProduction (releaseDir sha))
  let _ ← ssh .mkdirDeployDir
  andFinally (switchOrRestore (releaseDir sha)) dropRollbackState
  readOptionalReleaseSha tool

end Deploy

inductive Call where
  | deploy (sha : String) (yes : Bool)
  | rollback (sha : String) (yes : Bool)

def Tool.program (tool : Tool) : Call → Release Unit
  | .deploy sha yes => cmdDeploy tool sha yes
  | .rollback sha yes => cmdRollback tool sha yes

/- Commands run one at a time, each on its own machine's surroundings. -/
def Tool.system (tool : Tool) (permits : Unit → Moment → Effect → Remote → Prop) :
    System Call Moment Effect Effect.Answer ReleaseError Remote Unit Unit where
  exec := perform tool
  note _ _ _ _ := ()
  permits := permits
  may _ _ := True
  program := tool.program
  memory _ := ()
  mayStart _ _ := true
  mayCrash := true

end FrameNest.Deploy
