import FrameNest.Uploads.Surroundings

/-! Publication of one upload: reserve, copy beside the target, link, commit, clean up. -/
namespace FrameNest.Uploads

def copyChunkSize : Nat := 1024 * 1024

structure UploadPublicationResult where
  uploadId : UploadSessionId
  state : UploadSessionState
  cleanupState : Option UploadPublicationCleanupState
deriving DecidableEq

def publicationResult (candidate : UploadPublicationCandidate) : UploadPublicationResult :=
  { uploadId := candidate.upload.id
    state := candidate.upload.state
    cleanupState := candidate.publication.map fun publication => publication.cleanupState }

variable {α : Type}

def failPublication (x : UploadPublicationError) : UploadProgram α := .fail (.publication x)

def failTarget (x : PublishedMediaError) : UploadProgram α := .fail (.target x)

def ensureTarget (b : Bool) (x : PublishedMediaError) : UploadProgram Unit := demand b (.target x)

def ensurePublication (b : Bool) (x : UploadPublicationError) : UploadProgram Unit :=
  demand b (.publication x)

/- The calls of the destination, at their own types. -/
def verifyFinal (publication : UploadPublicationRow) : UploadProgram Bool :=
  target (.verifyFinal publication)

def openOwnedTemporary (name : String) : UploadProgram Nat := target (.openOwnedTemporary name)

def sizeOf (inode : Nat) : UploadProgram Nat := target (.sizeOf inode)

def fsyncDirectory : UploadProgram Unit := target .fsyncDirectory

def unlinkOwnedTemporary (publication : UploadPublicationRow) : UploadProgram Unit :=
  target (.unlinkOwnedTemporary (temporaryName publication))

def readSource (source : QuarantineReader) (position : Nat) : UploadProgram (List UInt8) :=
  quarantine (.read source position copyChunkSize)

def candidateOf (id : UploadSessionId) : UploadProgram (Option UploadPublicationCandidate) :=
  repository (.getCandidate id)

/- The copy loop; the bytes copied so far are what the digest has seen. Each turn copies
   a byte or ends, so it ends before `fuel` does when that is the expected size and one. -/
def copyChunks (inode : Nat) (source : QuarantineReader) (expectedSizeBytes : Int) :
    Nat → List UInt8 → UploadProgram (List UInt8)
  | 0, _ => failTarget .verification
  | fuel + 1, copied => do
    let stop ← stopRequested
    ensureTarget (!stop) .write
    let chunk ← readSource source copied.length
    if chunk = [] then .done copied
    else do
      ensureTarget (decide (((copied ++ chunk).length : Int) ≤ expectedSizeBytes)) .verification
      target (.writeAll inode copied.length chunk)
      copyChunks inode source expectedSizeBytes fuel (copied ++ chunk)

/- `except PublishedMediaInsufficientSpaceError`. -/
def exceptInsufficientSpace (p : UploadProgram α) (handler : UploadProgram α) : UploadProgram α :=
  p.rescue fun
    | .target .insufficientSpace => handler
    | x => .fail x

namespace UploadServices
variable (S : UploadServices)

def copyAndVerifySource (inode : Nat) (source : QuarantineReader)
    (publication : UploadPublicationRow) : UploadProgram Unit := do
  let (copied, size) ← (do
    let copied ← copyChunks inode source publication.expectedSizeBytes
      (publication.expectedSizeBytes.toNat + 1) []
    quarantine (.verifyStillConsistent source)
    let size ← sizeOf inode
    .done (copied, size)).rescue fun
      | .target .osError => failTarget .verification
      | .target x => failTarget x
      | .cancelled => .fail .cancelled
      | _ => failTarget .verification
  ensureTarget ((copied.length : Int) = publication.expectedSizeBytes &&
    (size : Int) = publication.expectedSizeBytes && S.sha256 copied = publication.checksumHex)
    .verification

def requireDestination (publication : UploadPublicationRow) : UploadProgram Unit :=
  ensureTarget (publication.destinationId = S.destinationId) .storageUnavailable

def ensureSpaceForCopy (requestedBytes : Int) : UploadProgram Unit := do
  ensureTarget (0 ≤ requestedBytes) .verification
  let available : Int ← target .availableBytes
  ensureTarget (requestedBytes + S.publishedReserveBytes ≤ available) .insufficientSpace

def verifyTarget (publication : UploadPublicationRow) : UploadProgram Bool := do
  S.requireDestination publication
  target .openRoot
  verifyFinal publication

/- The temporary copy, complete and synced. -/
def fillTemporary (publication : UploadPublicationRow) (source : QuarantineReader) :
    UploadProgram Unit :=
  exceptInsufficientSpace (do
    let inode ← openOwnedTemporary (temporaryName publication)
    S.copyAndVerifySource inode source publication
    target (.fsyncFile inode)) do
      unlinkOwnedTemporary publication
      failTarget .insufficientSpace

/- The link to the final name; a name that exists is adopted only when it verifies. -/
def linkTarget (publication : UploadPublicationRow) : UploadProgram Unit := do
  let linked : Bool ← exceptInsufficientSpace
    (target (.link (temporaryName publication) publication.relativePath)) do
      unlinkOwnedTemporary publication
      failTarget .insufficientSpace
  if linked then .done ()
  else do
    let verified ← verifyFinal publication
    ensureTarget verified .targetCollision

def publishFromReader (publication : UploadPublicationRow) (source : QuarantineReader) :
    UploadProgram Unit := do
  S.requireDestination publication
  target .openRoot
  let verified ← verifyFinal publication
  if verified then do
    unlinkOwnedTemporary publication
    fsyncDirectory
  else do
    ensureTarget ((source.sizeBytes : Int) = publication.expectedSizeBytes) .verification
    S.ensureSpaceForCopy publication.expectedSizeBytes
    S.fillTemporary publication source
    linkTarget publication
    fsyncDirectory
    let verified ← verifyFinal publication
    ensureTarget verified .verification
    unlinkOwnedTemporary publication
    fsyncDirectory

def ensureReservation (candidate : UploadPublicationCandidate) :
    UploadProgram UploadPublicationCandidate :=
  match candidate.publication with
  | some _ => .done candidate
  | none => do
    ensurePublication (candidate.upload.state = .publishPending) .state
    let now ← readClock
    let publicationId ← newIdentity .uploadPublication
    match newUploadPublicationReservation candidate.upload publicationId S.destinationId now with
    | none => .fail .other
    | some reservation =>
      repository (.getOrCreateReservation reservation candidate.upload.version)

/- The bytes of the target: found there, or copied from the quarantine. -/
def placeTarget (upload : UploadSession) (publication : UploadPublicationRow) :
    UploadProgram Unit :=
  (do
    let verified ← S.verifyTarget publication
    if verified then .done ()
    else do
      let reader ← quarantine (.openReader upload.storageKey publication.expectedSizeBytes)
      S.publishFromReader publication reader).rescue fun
        | .quarantine .stateInconsistent => failPublication .source
        | .quarantine .unavailable => failPublication .infrastructure
        | x => .fail x

/- What another owner of the upload has committed meanwhile, or the conflict itself. -/
def orReload (p : UploadProgram UploadPublicationCandidate) (id : UploadSessionId)
    (accepted : UploadSession → UploadPublication → Bool) :
    UploadProgram UploadPublicationCandidate :=
  p.rescue fun
    | .repository (.publication .concurrencyConflict) => do
      let current ← candidateOf id
      match current.filter fun current => current.publication.any (accepted current.upload) with
      | some current => .done current
      | none => .fail (.repository (.publication .concurrencyConflict))
    | x => .fail x

def publishPending (candidate : UploadPublicationCandidate) (publication : UploadPublication) :
    UploadProgram UploadPublicationCandidate := do
  ensurePublication (publication.state = .reserved) .state
  S.placeTarget candidate.upload publication.toUploadPublicationRow
  orReload (do
    let now ← readClock
    repository (.commitVerifiedPublication candidate.upload.id publication.publicationId
      candidate.upload.version publication.version now)) candidate.upload.id fun upload current =>
        upload.state = .published && current.publicationId = publication.publicationId &&
          current.state = .verified

/- The quarantined source of a published upload goes, and that is recorded. -/
def removeSource (candidate : UploadPublicationCandidate) (publication : UploadPublication) :
    UploadProgram UploadPublicationCandidate := do
  (quarantine (.remove candidate.upload.storageKey)).rescue fun
    | .quarantine .writeFailed | .quarantine .unavailable => failPublication .cleanupPending
    | x => .fail x
  orReload (do
    let now ← readClock
    repository (.markCleanupComplete candidate.upload.id publication.publicationId
      publication.version now)) candidate.upload.id fun _ current =>
        current.publicationId = publication.publicationId && current.cleanupState = .complete

def finishCleanup (candidate : UploadPublicationCandidate) :
    UploadProgram UploadPublicationResult :=
  match candidate.publication with
  | none => failPublication .state
  | some publication => do
    ensurePublication (candidate.upload.state = .published && publication.state = .verified) .state
    if publication.cleanupState = .complete then .done (publicationResult candidate)
    else do
      let completed ← removeSource candidate publication
      .done (publicationResult completed)

def publishCandidate (id : UploadSessionId) : UploadProgram UploadPublicationResult := do
  let found ← candidateOf id
  match found with
  | none => failPublication .notFound
  | some candidate => do
    let candidate ← S.ensureReservation candidate
    match candidate.publication with
    | none => .fail .other
    | some publication => do
      ensurePublication (publication.destinationId = S.destinationId) .configuration
      if candidate.upload.state = .publishPending then do
        let candidate ← S.publishPending candidate publication
        finishCleanup candidate
      else finishCleanup candidate

/- The `except` clauses of `publish_owned_blocking`. -/
def publicationErrorOf : UploadError → UploadError
  | .repository (.publication .unsupportedLegacy) => .publication .state
  | .repository (.publication _) => .publication .infrastructure
  | .target .insufficientSpace => .publication .insufficientSpace
  | .target .osError => .target .osError
  | .target _ => .publication .infrastructure
  | x => x

def publishOwnedBlocking (id : UploadSessionId) : UploadProgram UploadPublicationResult := do
  let stop ← stopRequested
  if stop then failPublication .infrastructure
  else (S.publishCandidate id).rescue fun x => .fail (publicationErrorOf x)

end UploadServices
end FrameNest.Uploads
