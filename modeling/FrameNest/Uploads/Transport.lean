import FrameNest.Uploads.Surroundings

/-! The upload transport service: sessions, chunks, completion, cancellation and the
resolution of duplicates. -/
namespace FrameNest.Uploads
open Concurrent

inductive UploadDuplicateResolution where
  | keepSeparate | discard
deriving DecidableEq

structure UploadSessionSnapshot where
  id : UploadSessionId
  state : UploadSessionState
  displayFilename : UploadDisplayFilename
  declaredSizeBytes : Int
  receivedSizeBytes : Int
  expiresAt : Int
  failureCode : Option String
deriving DecidableEq

def snapshot (session : UploadSessionRow) : UploadSessionSnapshot :=
  { id := session.id
    state := session.state
    displayFilename := session.displayFilename
    declaredSizeBytes := session.declaredSizeBytes
    receivedSizeBytes := session.receivedSizeBytes
    expiresAt := session.expiresAtMs
    failureCode := session.failureCode }

def uploadFailedStorageInconsistent : String := "QUARANTINE_STATE_INCONSISTENT"

structure CreateSessionRequest where
  displayFilename : String
  declaredSizeBytes : Int
  sessionId : Option UploadSessionId
  storageKey : Option UploadStorageKey
  createdByLoginKey : Option String
  duplicateResolutionMode : UploadDuplicateResolutionMode

/-- What the stream of a request body does next. -/
inductive BodyEvent where
  | chunk (data : List UInt8)
  | raised
  | cancelled

variable {α : Type}

def failTransport (x : UploadTransportError) : UploadProgram α := .fail (.transport x)

def ensure (b : Bool) (x : UploadTransportError) : UploadProgram Unit := demand b (.transport x)

/- `except FrameNestUploadSessionRepositoryError` and its subclasses. -/
def exceptSession (p : UploadProgram α) (handler : UploadSessionRepositoryError → UploadProgram α) :
    UploadProgram α :=
  p.rescue fun
    | .repository (.session x) => handler x
    | x => .fail x

def exceptQuarantine (p : UploadProgram α) (handler : QuarantineError → Option (UploadProgram α)) :
    UploadProgram α :=
  p.rescue fun
    | .quarantine x => (handler x).getD (.fail (.quarantine x))
    | x => .fail x

/- `except Exception`. -/
def exceptException (p : UploadProgram α) (handler : UploadError → UploadProgram α) :
    UploadProgram α :=
  p.rescue fun
    | .cancelled => .fail .cancelled
    | x => handler x

def requireStorage : UploadProgram Unit := do
  let available ← quarantine .rootAvailable
  ensure available .capabilityNotConfigured

def ensureRootSeparation : UploadProgram Unit := do
  let separated ← Program.perform UploadEffect.rootsSeparated
  ensure separated .capabilityNotConfigured

def fileSize (key : UploadStorageKey) : UploadProgram (Option Nat) := quarantine (.fileSize key)

def writeChunk (writer : QuarantineWriter) (data : List UInt8) : UploadProgram Nat :=
  quarantine (.write writer data)

def closeWriter (writer : QuarantineWriter) : UploadProgram Unit := quarantine (.closeWriter writer)

/- `size == expected`, of a size that may be None. -/
def sizeIs (size : Option Nat) (expected : Int) : Bool := size.any fun size => (size : Int) = expected

/- `QuarantineStorage.truncate`. -/
def truncate (key : UploadStorageKey) (size : Int) : UploadProgram Unit := do
  let writer ← quarantine (.openWriter key size false)
  withFinally (quarantine (.truncateAndFsync writer size)) (closeWriter writer)

def load (id : UploadSessionId) : UploadProgram UploadSession := do
  let found ← exceptSession (repository (.getSession id)) fun _ =>
    failTransport .quarantineUnavailable
  match found with
  | some session => .done session
  | none => failTransport .sessionNotFound

def transitionError : UploadSessionRepositoryError → UploadTransportError
  | .notFound => .sessionNotFound
  | .incomplete => .quarantineStateInconsistent
  | .invalidTransition => .stateConflict
  | .concurrencyConflict => .concurrencyConflict
  | _ => .quarantineUnavailable

def transition (session : UploadSession) (target : UploadSessionState)
    (failureCode : Option String) : UploadProgram UploadSession :=
  exceptSession (do
    let now ← readClock
    repository (.transitionState session.id session.state target session.version now failureCode))
    fun x => failTransport (transitionError x)

def dispositionError : UploadSessionRepositoryError → UploadTransportError
  | .notFound => .sessionNotFound
  | .invalidTransition => .stateConflict
  | .concurrencyConflict => .concurrencyConflict
  | _ => .quarantineUnavailable

def recordDuplicateDisposition (session : UploadSession)
    (disposition : UploadDuplicateDisposition) : UploadProgram UploadSession :=
  exceptSession (do
    let now ← readClock
    repository (.recordDuplicateDisposition session.id session.version disposition now))
    fun x => failTransport (dispositionError x)

def expireIfNeeded (session : UploadSession) : UploadProgram UploadSession :=
  if session.state ∈ terminalUploadSessionStates then .done session
  else do
    let now ← readClock
    if now ≤ session.expiresAtMs then .done session
    else do
      let expired ← transition session .expired none
      failTransport (.expired expired.state)

def failInconsistentSession (session : UploadSession) : UploadProgram α := do
  let _ ← (transition session .failed (some uploadFailedStorageInconsistent)).rescue fun
    | .transport .stateConflict => .done session
    | x => .fail x
  failTransport .quarantineStateInconsistent

def reconcileFileBeforeWrite (session : UploadSession) : UploadProgram Unit := do
  let size ← exceptQuarantine (fileSize session.storageKey) fun
    | .stateInconsistent => some (failTransport .quarantineStateInconsistent)
    | .unavailable => some (failTransport .quarantineUnavailable)
    | _ => none
  match size with
  | none =>
    if session.receivedSizeBytes = 0 then .done () else failInconsistentSession session
  | some size =>
    if (size : Int) = session.receivedSizeBytes then .done ()
    else if (size : Int) > session.receivedSizeBytes then
      exceptQuarantine (truncate session.storageKey session.receivedSizeBytes) fun
        | .writeFailed => some (failTransport .quarantineUnavailable)
        | _ => none
    else failInconsistentSession session

/- Bytes beyond the received ones are cut off before the session is failed. -/
def cutAndFail (session : UploadSession) (size : Option Nat) : UploadProgram α := do
  match size with
  | some size =>
    if (size : Int) > session.receivedSizeBytes then do
      truncate session.storageKey session.receivedSizeBytes
      failInconsistentSession session
    else failInconsistentSession session
  | none => failInconsistentSession session

def ensureCompleteFile (session : UploadSession) : UploadProgram Unit := do
  let size ← exceptQuarantine (fileSize session.storageKey) fun
    | .stateInconsistent => some (failInconsistentSession session)
    | _ => none
  if sizeIs size session.declaredSizeBytes && sizeIs size session.receivedSizeBytes then .done ()
  else cutAndFail session size

def ensureFileMatchesReceivedSize (session : UploadSession) : UploadProgram Unit := do
  let size ← exceptQuarantine (fileSize session.storageKey) fun
    | .stateInconsistent => some (failInconsistentSession session)
    | .unavailable => some (failTransport .quarantineUnavailable)
    | _ => none
  if sizeIs size session.receivedSizeBytes then .done ()
  else cutAndFail session size

def removeCancelledFile (session : UploadSession) : UploadProgram Unit :=
  exceptQuarantine (quarantine (.remove session.storageKey)) fun
    | .writeFailed => some (failTransport .quarantineUnavailable)
    | _ => none

/- States that an unverified rollback leaves alone. -/
def settledAfterRollback : List UploadSessionState :=
  [.cancelled, .expired, .failed, .cataloged, .rejected, .published]

def failSessionAfterUnverifiedRollback (id : UploadSessionId) : UploadProgram Unit := do
  let current ← exceptSession (repository (.getSession id)) fun _ => .done none
  match current with
  | none => .done ()
  | some current =>
    if current.state ∈ settledAfterRollback then .done ()
    else (do
      let _ ← transition current .failed (some uploadFailedStorageInconsistent)
      .done ()).rescue fun
        | .transport _ => .done ()
        | x => .fail x

def failAuthoritativeInconsistentSession (current : UploadSession) : UploadProgram α := do
  let _ ← (transition current .failed (some uploadFailedStorageInconsistent)).rescue fun
    | .transport _ => .done current
    | x => .fail x
  failTransport .quarantineStateInconsistent

def closeUnless (attempted : Bool) (writer : QuarantineWriter) : UploadProgram Unit :=
  if attempted then .done () else closeWriter writer

/- The same, its exceptions dropped. -/
def closeQuietly (attempted : Bool) (writer : QuarantineWriter) : UploadProgram Unit :=
  exceptException (closeUnless attempted writer) fun _ => .done ()

def recoverAdvancedPatch (writer : QuarantineWriter) (current : UploadSession)
    (closeAttempted : Bool) : UploadProgram α := do
  closeQuietly closeAttempted writer
  let size ← exceptQuarantine (fileSize current.storageKey) fun
    | .stateInconsistent | .unavailable => some (failTransport .quarantineStateInconsistent)
    | _ => none
  match size with
  | none => failAuthoritativeInconsistentSession current
  | some size =>
    if (size : Int) = current.receivedSizeBytes then
      failTransport (.offsetConflict current.receivedSizeBytes)
    else if (size : Int) < current.receivedSizeBytes then
      failAuthoritativeInconsistentSession current
    else do
      let verifiedSize ← exceptQuarantine (do
          truncate current.storageKey current.receivedSizeBytes
          fileSize current.storageKey) fun
        | .writeFailed | .stateInconsistent | .unavailable =>
          some (failTransport .quarantineStateInconsistent)
        | .insufficientSpace => none
      ensure (sizeIs verifiedSize current.receivedSizeBytes) .quarantineStateInconsistent
      failTransport (.offsetConflict current.receivedSizeBytes)

/- What every unverified rollback ends in. -/
def rollbackUnverified (id : UploadSessionId) : UploadProgram α := do
  failSessionAfterUnverifiedRollback id
  failTransport .quarantineStateInconsistent

/- The file is cut back to the offset the patch started at, and looked at again. -/
def cutBack (writer : QuarantineWriter) (session : UploadSession) (originalOffset : Int) :
    UploadProgram Unit := do
  quarantine (.truncateAndFsync writer originalOffset)
  let size ← fileSize session.storageKey
  ensure (sizeIs size originalOffset) .quarantineStateInconsistent
  let after ← repository (.getSession session.id)
  ensure (after.any fun after => after.receivedSizeBytes = originalOffset)
    .quarantineStateInconsistent

def recoverFailedPatch (writer : QuarantineWriter) (session : UploadSession) (originalOffset : Int)
    (originalError : UploadTransportError) (allowAdvancedOffsetConflict : Bool)
    (closeAttempted : Bool) : UploadProgram α := do
  let current ← exceptSession (repository (.getSession session.id)) fun _ => .done none
  match current.filter fun current => current.storageKey = session.storageKey with
  | none =>
    exceptException (do
      closeUnless closeAttempted writer
      failTransport .quarantineStateInconsistent) fun _ => rollbackUnverified session.id
  | some current =>
    if current.receivedSizeBytes > originalOffset then
      recoverAdvancedPatch writer current closeAttempted
    else if current.receivedSizeBytes ≠ originalOffset then
      exceptException (do
        closeUnless closeAttempted writer
        if allowAdvancedOffsetConflict then
          failTransport (.offsetConflict current.receivedSizeBytes)
        else failTransport .quarantineStateInconsistent) fun
          | .transport (.offsetConflict offset) => failTransport (.offsetConflict offset)
          | _ => rollbackUnverified session.id
    else do
      exceptException (cutBack writer session originalOffset) fun _ => do
        closeQuietly closeAttempted writer
        rollbackUnverified session.id
      exceptException (closeWriter writer) fun _ => rollbackUnverified session.id
      failTransport originalError

/- The chunks of a body, in order, as far as the announced length. -/
def writeBody (contentLength : Int) :
    List BodyEvent → QuarantineWriter → Int → UploadProgram (QuarantineWriter × Int)
  | [], writer, actual => .done (writer, actual)
  | .chunk data :: rest, writer, actual =>
    if data = [] then writeBody contentLength rest writer actual
    else do
      ensure (actual + data.length ≤ contentLength) .bodyLengthMismatch
      let written ← writeChunk writer data
      ensure (written = data.length) .quarantineUnavailable
      writeBody contentLength rest { writer with position := writer.position + data.length }
        (actual + data.length)
  | .raised :: _, _, _ => .fail .other
  | .cancelled :: _, _, _ => .fail .cancelled

/- The bytes of one patch, durable before the offset moves. -/
def writePatch (session : UploadSession) (contentLength : Int) (body : List BodyEvent)
    (writer : QuarantineWriter) : UploadProgram UploadSession := do
  let (writer, actual) ← writeBody contentLength body writer 0
  ensure (actual = contentLength) .bodyLengthMismatch
  quarantine (.flushAndFsync writer)
  let now ← readClock
  repository (.advanceReceivedOffset session.id session.receivedSizeBytes actual session.version
    now)

/- The `except` clauses of the patch. -/
def patchFailed (writer : QuarantineWriter) (session : UploadSession) :
    UploadError → UploadProgram α
  | .transport .bodyLengthMismatch => recover .bodyLengthMismatch false
  | .transport .quarantineUnavailable => recover .quarantineUnavailable false
  | .transport .chunkTooLarge => recover .chunkTooLarge false
  | .quarantine .writeFailed => recover .quarantineUnavailable false
  | .repository (.session .offsetConflict) =>
    recover (.offsetConflict session.receivedSizeBytes) true
  | .repository (.session .sizeLimitExceeded) => recover .chunkTooLarge false
  | .repository (.session _) => recover .concurrencyConflict false
  | _ => recover .bodyLengthMismatch false
where
  recover (x : UploadTransportError) (allowAdvanced : Bool) : UploadProgram α :=
    recoverFailedPatch writer session session.receivedSizeBytes x allowAdvanced false

/- A created session starts to receive at its first chunk. -/
def startReceiving (session : UploadSession) (uploadOffset : Int) : UploadProgram UploadSession :=
  if session.state = .created then do
    ensure (uploadOffset = 0) (.offsetConflict session.receivedSizeBytes)
    transition session .receiving none
  else .done session

/- Whether the writer has to create the file. -/
def mustCreate (session : UploadSession) : UploadProgram Bool :=
  if session.receivedSizeBytes = 0 then do
    let size ← fileSize session.storageKey
    .done size.isNone
  else .done false

/- The chunk once its session is open for writing. -/
def patch (session : UploadSession) (contentLength : Int) (body : List BodyEvent) :
    UploadProgram UploadSessionSnapshot := do
  reconcileFileBeforeWrite session
  let create ← mustCreate session
  let writer ← quarantine (.openWriter session.storageKey session.receivedSizeBytes create)
  let updated ← exceptException (writePatch session contentLength body writer)
    (patchFailed writer session)
  exceptException (closeWriter writer) fun _ =>
    recoverFailedPatch writer session session.receivedSizeBytes .quarantineUnavailable false true
  .done (snapshot updated.toUploadSessionRow)

/- `receive_chunk` under the lease of its session. -/
def receiveLoaded (session : UploadSession) (uploadOffset contentLength : Int)
    (body : List BodyEvent) : UploadProgram UploadSessionSnapshot := do
  let session ← expireIfNeeded session
  ensure (session.receivedSizeBytes = uploadOffset) (.offsetConflict session.receivedSizeBytes)
  let session ← startReceiving session uploadOffset
  ensure (session.state = .receiving) .stateConflict
  ensure (uploadOffset + contentLength ≤ session.declaredSizeBytes) .chunkTooLarge
  patch session contentLength body

def cancelOwned (session : UploadSession) : UploadProgram UploadSession :=
  if session.state = .cancelled then do
    removeCancelledFile session
    .done session
  else if session.state ∈ [UploadSessionState.expired, .failed, .cataloged, .rejected] then
    failTransport .stateConflict
  else do
    let cancelled ← transition session .cancelled none
    removeCancelledFile cancelled
    .done cancelled

def getStatus (id : UploadSessionId) : UploadProgram UploadSessionSnapshot := do
  let session ← load id
  .done (snapshot session.toUploadSessionRow)

def complete (id : UploadSessionId) : UploadProgram UploadSessionSnapshot := do
  requireStorage
  let session ← load id
  let session ← expireIfNeeded session
  if session.state = .received then do
    ensureCompleteFile session
    .done (snapshot session.toUploadSessionRow)
  else do
    ensure (session.state = .receiving) .stateConflict
    if session.receivedSizeBytes ≠ session.declaredSizeBytes then do
      ensureFileMatchesReceivedSize session
      failTransport .stateConflict
    else do
      ensureCompleteFile session
      let updated ← transition session .received none
      .done (snapshot updated.toUploadSessionRow)

def cancel (id : UploadSessionId) : UploadProgram UploadSessionSnapshot := do
  requireStorage
  let session ← load id
  let cancelled ← cancelOwned session
  .done (snapshot cancelled.toUploadSessionRow)

def resolveDuplicate (id : UploadSessionId) (resolution : UploadDuplicateResolution) :
    UploadProgram UploadSessionSnapshot := do
  requireStorage
  let session ← load id
  ensure (usesExplicitDuplicateResolution session.duplicateResolutionMode) .stateConflict
  match resolution with
  | .keepSeparate =>
    if session.duplicateDisposition = some .keepSeparate ∧
        session.state ∈ [UploadSessionState.publishPending, .published, .cataloged] then
      .done (snapshot session.toUploadSessionRow)
    else do
      ensure (session.state = .duplicatePending && session.duplicateDisposition.isNone)
        .stateConflict
      let kept ← recordDuplicateDisposition session .keepSeparate
      .done (snapshot kept.toUploadSessionRow)
  | .discard =>
    if session.state = .cancelled ∧ session.duplicateDisposition = some .discard then do
      removeCancelledFile session
      .done (snapshot session.toUploadSessionRow)
    else do
      ensure (session.state = .duplicatePending && session.duplicateDisposition.isNone)
        .stateConflict
      let discarded ← recordDuplicateDisposition session .discard
      removeCancelledFile discarded
      .done (snapshot discarded.toUploadSessionRow)

namespace UploadServices
variable (S : UploadServices)

def availableBytes : UploadProgram Int := do
  requireStorage
  quarantine .availableBytes

def ensureSpace (requestedBytes : Int) : UploadProgram Unit := do
  let available ← exceptQuarantine availableBytes fun
    | .unavailable | .insufficientSpace => some (failTransport .insufficientStorage)
    | _ => none
  ensure (requestedBytes + S.limits.minFreeSpaceReserveBytes ≤ available) .insufficientStorage

/- The row of a new session. -/
def createdRow (request : CreateSessionRequest) (filename : UploadDisplayFilename)
    (id : UploadSessionId) (storageKey : UploadStorageKey) (now : Int) : UploadSessionRow :=
  { id, state := .created, storageKey, displayFilename := filename
    declaredSizeBytes := request.declaredSizeBytes
    receivedSizeBytes := 0
    checksumAlgorithm := none
    checksumHex := none
    createdAtMs := now
    updatedAtMs := now
    expiresAtMs := now + S.limits.sessionTtlSeconds * 1000
    failureCode := none
    version := 0
    validatedMediaKind := none
    validatedFormat := none
    byteIdentityId := none
    duplicateDisposition := none
    createdByLoginKey := request.createdByLoginKey
    duplicateResolutionMode := request.duplicateResolutionMode }

/- The session a repeated request with given identities may already have made. -/
def existingSession (request : CreateSessionRequest) (filename : UploadDisplayFilename) :
    UploadProgram UploadSessionSnapshot :=
  match request.sessionId, request.storageKey with
  | some id, some storageKey => do
    let existing ← exceptSession (repository (.getSession id)) fun _ =>
      failTransport .quarantineUnavailable
    match existing.filter fun existing => existing.storageKey = storageKey &&
        existing.displayFilename = filename &&
        existing.declaredSizeBytes = request.declaredSizeBytes &&
        existing.createdByLoginKey = request.createdByLoginKey &&
        existing.duplicateResolutionMode = request.duplicateResolutionMode with
    | some existing => .done (snapshot existing.toUploadSessionRow)
    | none => failTransport .quarantineUnavailable
  | _, _ => failTransport .quarantineUnavailable

def displayFilename? (s : String) : Option UploadDisplayFilename :=
  if h : isDisplayFilename s = true then some ⟨s, h⟩ else none

/- The given identity, or a new one. -/
def orNew {β : Type} (given : Option β) (new : UploadProgram β) : UploadProgram β :=
  match given with
  | some b => .done b
  | none => new

def createSession (request : CreateSessionRequest) : UploadProgram UploadSessionSnapshot := do
  requireStorage
  match displayFilename? request.displayFilename with
  | none => failTransport .invalidMetadata
  | some filename => do
    ensure (0 < request.declaredSizeBytes) .invalidMetadata
    ensure (request.declaredSizeBytes ≤ S.limits.maxTotalBytes) .tooLarge
    ensureRootSeparation
    S.ensureSpace request.declaredSizeBytes
    let now ← readClock
    let id ← orNew request.sessionId (newIdentity .uploadSession)
    let storageKey ← orNew request.storageKey (Program.perform UploadEffect.newStorageKey)
    match sessionFromRow (S.createdRow request filename id storageKey now) with
    | none => .fail .other
    | some session =>
      exceptSession (do
        repository (.create session)
        .done (snapshot session.toUploadSessionRow)) fun
          | .alreadyExists | .storageKeyAlreadyExists => existingSession request filename
          | _ => failTransport .quarantineUnavailable

def receiveChunk (id : UploadSessionId) (uploadOffset contentLength : Int)
    (body : List BodyEvent) : UploadProgram UploadSessionSnapshot := do
  requireStorage
  ensure (0 ≤ uploadOffset) .invalidOffset
  ensure (0 < contentLength) .bodyLengthMismatch
  ensure (contentLength ≤ S.limits.maxPatchBytes) .chunkTooLarge
  S.ensureSpace contentLength
  let session ← load id
  receiveLoaded session uploadOffset contentLength body

end UploadServices
end FrameNest.Uploads
