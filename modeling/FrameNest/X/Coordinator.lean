import FrameNest.Concurrent.RelyGuarantee
import FrameNest.X.Requests

/-! The acquisition coordinator of X claims: one step of each active claim in a drain, and the
clean-up of the staging of what is finished. -/
namespace FrameNest.X
open Concurrent Uploads Acquisition
variable {X : XDomain}

/-- How the coordinator is set up. -/
structure CoordinatorSettings where
  chunkSizeBytes : Nat
  batchSize : Nat

/-- The assets whose staging a clean-up removes. -/
def finishedAssetStates : List XAssetState := [.cataloged, .failed]

/- `_AWAITING_ACQUISITION_ASSET_STATES`. -/
def awaitingAssetStates : List XAssetState := [.pending, .extracted, .acquiring]

/- `_code_from_exception`. -/
def codeFromException : XError → String
  | .tooLarge => "X_MEDIA_TOO_LARGE"
  | .extraction code => code
  | .configuration => "X_EXTRACTOR_UNAVAILABLE"
  | .transport => "X_CATALOG_HANDOFF_FAILED"
  | .repository _ => "X_STAGING_FAILED"
  | _ => "X_EXTRACTOR_FAILED"

def notify : XProgram X Unit := Program.perform XEffect.notify

/-! Clean-up. -/

/- `_clean_asset_staging`: neither a clearing that fails nor a save that is refused is heard of. -/
def cleanAssetStaging (asset : XAsset X) : XProgram X (XAsset X) := do
  match ← Program.attempt (XEffect.clear asset.stageKey) with
  | .error _ => .done asset
  | .ok _ => do
    let updatedAt ← readClock
    let cleanedAt ← readClock
    let cleaned ← built (asset.evolve updatedAt fun row => { row with
      cleanupState := .complete, cleanupCompletedAtMs := some cleanedAt })
    (saveAssetOver asset cleaned).rescue fun _ => .done asset

/- The finished assets whose clean-up is pending. -/
def cleanFinished : List (XAsset X) → XProgram X Unit
  | [] => .done ()
  | a :: rest => do
    if a.state ∈ finishedAssetStates ∧ a.cleanupState = .pending then do
      let _ ← cleanAssetStaging a
      cleanFinished rest
    else cleanFinished rest

/- What is still to be cleaned is not finished. -/
def allCleaned (assets : List (XAsset X)) : Bool :=
  assets.all fun a => a.cleanupState = .complete || a.state ∈ activeXAssetStates

/-- The clean-up of one claim: its finished assets, then its own flag. -/
def cleanUp (claim : XPostClaim X) : XProgram X Unit := do
  let assets ← listAssetsForPost claim.id
  cleanFinished assets
  let assets ← listAssetsForPost claim.id
  if allCleaned assets ∧ claim.cleanupState = .pending then do
    let updatedAt ← readClock
    let cleanedAt ← readClock
    let cleaned ← built (claim.evolve updatedAt fun row => { row with
      cleanupState := .complete, cleanupCompletedAtMs := some cleanedAt })
    let _ ← save claim cleaned
    .done ()
  else .done ()

/- `_reconcile_cleanup` and `_cleanup_claim`. -/
def reconcileCleanup (claim : XPostClaim X) : XProgram X Unit := cleanUp claim
def cleanupClaim (claim : XPostClaim X) : XProgram X Unit := cleanUp claim

/-! Failures. -/

/- The claim as it stands now, failed and cleaned up. -/
def failCurrent (claim : XPostClaim X) (stage : XFailureStage) (code : String) :
    XProgram X Unit := do
  match ← getPost claim.id with
  | none => .done ()
  | some current =>
    if current.state ∈ terminalXAcquisitionStates then .done ()
    else do
      let updatedAt ← readClock
      let completedAt ← readClock
      let failed ← built (current.advance .failed updatedAt fun row => { row with
        failureStage := some stage, failureCode := some code, completedAtMs := some completedAt })
      let _ ← save current failed
      cleanupClaim failed

/- `_fail`. -/
def fail (claim : XPostClaim X) (stage : XFailureStage) (code : String) : XProgram X Unit :=
  (failCurrent claim stage code).rescue fun
    | .repository _ | .acquisition => .done ()
    | x => .fail x

/- `_advance_to_handoff`. -/
def advanceToHandoff (claim : XPostClaim X) (assets : List (XAsset X)) : XProgram X Unit :=
  if assets.any fun a => a.state ∈ awaitingAssetStates then .done ()
  else do
    match ← getPost claim.id with
    | none => .done ()
    | some current =>
      if current.isActive then do
        let _ ← advanceAndSave current .handingOff
        .done ()
      else .done ()

/- `_fail_asset`. -/
def failAsset (claim : XPostClaim X) (asset : XAsset X) (stage : XFailureStage) (code : String) :
    XProgram X Unit := do
  let _ ← advanceAssetAndSave asset .failed fun row => { row with
    failureStage := some stage, failureCode := some code }
  if isClaimWideXFailure code then fail claim stage code
  else do
    let assets ← listAssetsForPost claim.id
    advanceToHandoff claim assets

/-! Extraction. -/

/- `_queue`. -/
def queue (claim : XPostClaim X) : XProgram X Unit := do
  let _ ← advanceAndSave claim .queued
  .done ()

/-- The assets of an inspection, each with the clock and an identity of its own. -/
def newAssets (claimId : XPostClaimId) :
    List XNormalizedAssetDescriptor → XProgram X (List (XAsset X))
  | [] => .done []
  | d :: rest => do
    let now ← readClock
    let id ← Program.perform XEffect.newAssetId
    let a ← built (XAsset.new X id claimId d.ordinal d.mediaType d.expectedMime now
      d.sourceMediaKey d.width d.height d.durationSeconds d.selectedVariant)
    let others ← newAssets claimId rest
    .done (a :: others)

/- The claim with what an inspection brings, and then its assets. -/
def recordInspection (current : XPostClaim X) (inspection : XNormalizedInspection)
    (first : XNormalizedAssetDescriptor) : XProgram X Unit := do
  let now ← readClock
  let updated ← built (extracted current now inspection first)
  let acquiring ← save current updated
  let assets ← newAssets acquiring.id inspection.assets
  claims (.createAssets assets)

/- What `_extract` does with an inspection. -/
def inspected (current : XPostClaim X) (inspection : XNormalizedInspection) : XProgram X Unit :=
  match inspection.failureCode, inspection.assets with
  | some code, _ => fail current .extraction code
  | none, [] => fail current .extraction "X_NO_SUPPORTED_MEDIA"
  | none, first :: _ =>
    if maxAssetsPerPost < inspection.assets.length then fail current .extraction "X_TOO_MANY_ASSETS"
    else recordInspection current inspection first

/- `_extract`. -/
def extract (claim : XPostClaim X) : XProgram X Unit := do
  match ← getPost claim.id with
  | none => .done ()
  | some current =>
    if current.state ∈ terminalXAcquisitionStates then .done ()
    else do
      let current ← (if current.state = .queued then advanceAndSave current .extracting
        else .done current)
      match ← Program.attempt (XEffect.inspect current.xPostId current.submittedUrl) with
      | .error (.extraction code) => fail current .extraction code
      | .error x => .fail x
      | .ok inspection => inspected current inspection

/-! Acquisition. -/

def maxAssetBytes : Int := 1073741824

/- `_acquire_one`. -/
def acquireOne (claim : XPostClaim X) (asset : XAsset X) : XProgram X (Nat × String) := do
  let result ← Program.perform (XEffect.download claim.xPostId claim.submittedUrl asset)
  demand (0 < XAssetAcquisition.sizeBytes result &&
    (XAssetAcquisition.sha256 result).toList.length = 64) .infrastructure
  demand (XAssetAcquisition.sizeBytes result ≤ maxAssetBytes) .tooLarge
  .done ((XAssetAcquisition.sizeBytes result).toNat, XAssetAcquisition.sha256 result)

/- The staging of the assets whose download was interrupted; false where one cannot be cleared. -/
def clearInterrupted : List (XAsset X) → XProgram X Bool
  | [] => .done true
  | a :: rest => do
    match ← Program.attempt (XEffect.clear a.stageKey) with
    | .error _ => .done false
    | .ok _ => clearInterrupted rest

/- The asset on its way to its download. -/
def toAcquiring (asset : XAsset X) : XProgram X (XAsset X) := do
  let asset ← (if asset.state = .pending then advanceAssetAndSave asset .extracted else .done asset)
  if asset.state = .extracted then advanceAssetAndSave asset .acquiring else .done asset

/- One asset downloaded into its staging. -/
def acquireAsset (claim : XPostClaim X) (asset : XAsset X) : XProgram X Unit := do
  let acquiring ← toAcquiring asset
  let result ← ((do
      let acquired ← acquireOne claim acquiring
      .done (.ok acquired)) : XProgram X (Except XError (Nat × String))).rescue
    fun x => .done (.error x)
  match result with
  | .error .interrupted => .done ()
  | .error x => failAsset claim acquiring .acquisition (codeFromException x)
  | .ok (size, sha256) => do
    let _ ← advanceAssetAndSave acquiring .staged fun row => { row with
      acquiredBytes := some size, acquiredSha256 := some sha256 }
    let assets ← listAssetsForPost claim.id
    advanceToHandoff claim assets

/- `_acquire`. -/
def acquire (claim : XPostClaim X) : XProgram X Unit := do
  let assets ← listAssetsForPost claim.id
  if ← clearInterrupted (List.filter (fun a : XAsset X => a.state = .acquiring) assets) then do
    let assets ← listAssetsForPost claim.id
    match List.find? (fun a : XAsset X => a.state ∈ awaitingAssetStates) assets with
    | none => advanceToHandoff claim assets
    | some asset => acquireAsset claim asset
  else .done ()

/-! Handoff. -/

/- `UploadSessionId.from_string(asset.id.to_string())`. -/
def uploadIdOf (id : XAssetId) : UploadSessionId := ⟨id.value, id.canonical⟩

/- `_extension_for_mime`. -/
def extensionForMime (expectedMime : List Char) : String :=
  if expectedMime = "video/mp4".toList then "mp4"
  else if expectedMime = "image/jpeg".toList then "jpg"
  else if expectedMime = "image/png".toList then "png"
  else if expectedMime = "image/gif".toList then "gif"
  else "bin"

/- The session of an asset; an owned claim keeps its byte duplicates apart. -/
def sessionRequest (claim : XPostClaim X) (asset : XAsset X) (size : Nat) : SessionRequest where
  sessionId := uploadIdOf asset.id
  storageKey := asset.stageKey
  displayFilename := "x-" ++ String.ofList claim.xPostId ++ "-" ++ toString asset.ordinal ++ "." ++
    extensionForMime asset.expectedMime
  declaredSizeBytes := size
  createdByLoginKey := claim.createdByLoginKey
  duplicateResolutionMode :=
    if claim.createdByLoginKey.isSome then .silentKeepSeparate else .explicit

/-- The chunks still missing, one `receive_chunk` each. A chunk is never empty, so `fuel` for
every byte is enough. -/
def sendChunks (settings : CoordinatorSettings) (uploadId : UploadSessionId)
    (reader : StagedArtifactReader) (size : Nat) : Nat → UploadSnapshot → XProgram X UploadSnapshot
  | 0, snapshot => .done snapshot
  | fuel + 1, snapshot =>
    if snapshot.receivedSizeBytes < size then do
      Program.perform (XEffect.verifyStillConsistent reader)
      let chunk ← Program.perform (XEffect.read reader snapshot.receivedSizeBytes
        (min settings.chunkSizeBytes (size - snapshot.receivedSizeBytes)))
      demand (!List.isEmpty chunk) .transport
      let snapshot ← Program.perform
        (XEffect.receiveChunk uploadId snapshot.receivedSizeBytes chunk)
      sendChunks settings uploadId reader size fuel snapshot
    else .done snapshot

/- `_handoff_asset`. -/
def handoffAsset (settings : CoordinatorSettings) (claim : XPostClaim X) (asset : XAsset X) :
    XProgram X Unit :=
  match asset.acquiredBytes with
  | none => .fail .infrastructure
  | some size => do
    let uploadId := uploadIdOf asset.id
    let snapshot ← Program.perform (XEffect.createSession (sessionRequest claim asset size))
    let _ ← (if asset.uploadAssetKey.isNone then
        advanceAssetAndSave asset .handingOff fun row => { row with uploadAssetKey := some uploadId }
      else .done asset)
    let reader ← Program.perform (XEffect.openArtifact asset.stageKey size)
    let snapshot ← sendChunks settings uploadId reader size size snapshot
    Program.perform (XEffect.verifyStillConsistent reader)
    let snapshot ← (if UploadSnapshot.isOpen snapshot then
        Program.perform (XEffect.complete uploadId)
      else .done snapshot)
    demand (UploadSnapshot.receivedSizeBytes snapshot = size && !UploadSnapshot.isOpen snapshot)
      .transport
    notify

/- `_complete_asset`. -/
def completeAsset (asset : XAsset X) (candidate : Option Upload) : XProgram X Unit :=
  match candidate.bind Upload.link with
  | none => .fail .infrastructure
  | some link => do
    let updatedAt ← readClock
    let completedAt ← readClock
    let completed ← built (asset.advance .cataloged updatedAt fun row => { row with
      mediaId := some link.mediaId
      mediaLocationId := some link.mediaLocationId
      completedAtMs := some completedAt })
    let _ ← saveAssetOver asset completed
    overlay

/- The upload states in which a projection wakes the coordinator that is next. -/
def waitingStates : List UploadSessionState := [.received, .validating, .publishPending, .published]

/- `_project_asset` once the clean-up is done: what the upload has become decides. -/
def projectUpload (claim : XPostClaim X) (asset : XAsset X) (upload : Upload) : XProgram X Unit :=
  if upload.state ∈ waitingStates then notify
  else if upload.state = .cataloged then do
    let candidate ← Program.perform (XEffect.getCandidate upload.id)
    completeAsset asset candidate
  else failAsset claim asset .downstream "X_CATALOG_HANDOFF_FAILED"

/- `_project_asset`. -/
def projectAsset (claim : XPostClaim X) (asset : XAsset X) : XProgram X Unit :=
  match asset.uploadAssetKey with
  | none => .fail .infrastructure
  | some uploadId => do
    let asset ← (if asset.cleanupState = .pending then cleanAssetStaging asset else .done asset)
    match ← Program.perform (XEffect.getUpload uploadId) with
    | none => .fail .infrastructure
    | some upload => projectUpload claim asset upload

/-- The state an acquisition ends in, by its failed and its cataloged assets, with the columns of
its failure. -/
def conclusion (assets failed success : List (XAsset X)) :
    XAcquisitionState × (XPostClaimRow → XPostClaimRow) :=
  match failed, success with
  | first :: _, [] =>
    let code := if 1 < assets.length then "X_MULTI_ASSET_FAILED"
      else first.failureCode.getD "X_NO_SUPPORTED_MEDIA"
    (.failed, fun row => { row with
      failureStage := some .acquisition, failureCode := some code })
  | _ :: _, _ :: _ => (.completedPartial, id)
  | [], _ => (.completed, id)

/- The end of a handoff that has no asset left to hand off. -/
def conclude (claim : XPostClaim X) (assets : List (XAsset X)) : XProgram X Unit := do
  let failed := assets.filter fun a => a.state = .failed
  let success := assets.filter fun a => a.state = .cataloged
  match ← getPost claim.id with
  | none => .done ()
  | some current =>
    if XPostClaim.isActive current then do
      let now ← readClock
      let counted ← built (XPostClaim.evolve current now fun row => { row with
        failureCount := failed.length, successCount := success.length })
      let updatedAt ← readClock
      let completedAt ← readClock
      let (target, changes) := conclusion assets failed success
      let updated ← built (counted.advance target updatedAt fun row =>
        { changes row with completedAtMs := some completedAt })
      let _ ← save current updated
      cleanupClaim updated
    else .done ()

/- `_handoff`. -/
def handoff (settings : CoordinatorSettings) (claim : XPostClaim X) : XProgram X Unit := do
  let assets ← listAssetsForPost claim.id
  match List.find? (fun a : XAsset X => a.state = .staged) assets,
      List.find? (fun a : XAsset X => a.state = .handingOff) assets with
  | some asset, _ => handoffAsset settings claim asset
  | none, some asset => projectAsset claim asset
  | none, none => conclude claim assets

/-! The runner. -/

/- One step of a claim, by its state. -/
def step (settings : CoordinatorSettings) (claim : XPostClaim X) : XProgram X Unit :=
  match claim.state with
  | .submitted => queue claim
  | .queued | .extracting => extract claim
  | .acquiring => acquire claim
  | .handingOff => handoff settings claim
  | .completed | .completedPartial | .failed | .duplicateResolved | .catalogRemoved => .done ()

/- `_process`. -/
def process (settings : CoordinatorSettings) (claim : XPostClaim X) : XProgram X Unit :=
  (step settings claim).rescue fun
    | .interrupted => .done ()
    | x => fail claim .internal (codeFromException x)

def reconcileAll : List (XPostClaim X) → XProgram X Unit
  | [] => .done ()
  | claim :: rest => do
    reconcileCleanup claim
    reconcileAll rest

def processAll (settings : CoordinatorSettings) : List (XPostClaim X) → XProgram X Unit
  | [] => .done ()
  | claim :: rest => do
    process settings claim
    processAll settings rest

/- `_drain_once`. -/
def drainOnce (settings : CoordinatorSettings) : XProgram X Bool := do
  let cleanup ← claims (.listCleanupCandidates settings.batchSize)
  reconcileAll cleanup
  let candidates ← claims (.listRecoveryCandidates settings.batchSize)
  processAll settings candidates
  .done (!List.isEmpty candidates)

/-- `_run`: one iteration after another, whatever leaves them as an exception. -/
def runLoop (settings : CoordinatorSettings) : Nat → XProgram X Unit
  | 0 => .done ()
  | iterations + 1 => do
    let _ ← (drainOnce settings).rescue fun _ => .done false
    runLoop settings iterations

end FrameNest.X

/-! The callers beside each other: one coordinator at a time, any number of requests, the upload
services and the catalog; a crash at any point. -/
namespace FrameNest.X
open Concurrent Uploads Acquisition
variable {X : XDomain}

inductive XCall where
  | coordinate (settings : CoordinatorSettings) (iterations : Nat)
  | submit (limits : XRequestLimits) (url : List Char) (login : String)
      (category : Option ContentCategory) (withAlias : Bool)
  | retry (id : XPostClaimId) (login : String)
  | getOwned (id : XPostClaimId) (login : String)
  | administrationGet (id : XPostClaimId)
  /-- One transaction of the upload services. -/
  | pipeline (move : PipelineMove)
  | removeCatalogMedia (mediaId : MediaId)

inductive XRole where
  | coordinator | other
deriving DecidableEq

def XCall.role : XCall → XRole
  | coordinate .. => .coordinator
  | _ => .other

/- What a service returns is of no concern to the others. -/
def answered {α : Type} (p : XProgram X α) : XProgram X Unit := do
  let _ ← p
  .done ()

def XCall.program (X : XDomain) : XCall → XProgram X Unit
  | coordinate settings iterations => runLoop settings iterations
  | submit limits url login category withAlias =>
    answered (XAcquisitionRequestService.submit limits url login category withAlias)
  | retry id login => answered (XAcquisitionRequestService.retry id login)
  | getOwned id login => answered (XAcquisitionRequestService.getOwned id login)
  | administrationGet id => answered (XAcquisitionAdministrationService.get id)
  | pipeline move => Program.perform (XEffect.pipeline move)
  | removeCatalogMedia mediaId => claims (.removeCatalogMedia mediaId)

def xProtocol (X : XDomain) :
    Protocol XMoment (XEffect X) XEffect.Answer XError (XWorld X) XRole where
  exec := exec
  note g _ _ _ := g
  permits _ _ _ _ := True
  may _ _ := True

/-- Any number of callers, of whom one at a time coordinates; a crash at any point. -/
def xSystem (X : XDomain) :
    System XCall XMoment (XEffect X) XEffect.Answer XError (XWorld X) XRole Unit where
  toProtocol := xProtocol X
  program := XCall.program X
  memory := XCall.role
  mayStart threads call := match call.role with
    | .coordinator => threads.all fun t => t.memory ≠ .coordinator
    | .other => true
  mayCrash := true

/-- A world of the claims, the staging and their callers. -/
abbrev XRun (X : XDomain) := World (XEffect X) XEffect.Answer XError (XWorld X) XRole Unit

/-- A world that the callers have reached from empty tables. -/
abbrev ReachableX (w : XRun X) : Prop := Reachable (xSystem X) (XWorld.empty X) w

end FrameNest.X
