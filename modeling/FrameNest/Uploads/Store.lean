import FrameNest.Relational.Transaction
import FrameNest.Uploads.Publications

/-! The upload tables and the repository of upload sessions: one definition for each
guarded statement. -/
namespace FrameNest.Uploads
open Relational Plain

inductive UploadSessionRepositoryError where
  | alreadyExists | storageKeyAlreadyExists | notFound | invalidTransition | incomplete
  | offsetConflict | sizeLimitExceeded | concurrencyConflict | invalidChecksum
  | invalidValidationEvidence | failed | byteIdentity
deriving DecidableEq

/-- The tables that uploads read and write. `libraries` and `canonicalTagKeys` are only
referred to. -/
structure UploadStore where
  sessions : Table UploadSessionRow.id
  identities : Table MediaByteIdentity.id
  publications : Table UploadPublicationRow.uploadId
  libraries : List LibraryId
  canonicalTagKeys : List String
  media : Table LogicalMedia.id
  locations : Table MediaLocation.id
  metadata : Table MediaMetadataRow.mediaId
  tags : List MediaCanonicalTag

namespace UploadStore

/- An empty catalog over the given libraries and tags. -/
def empty (libraries : List LibraryId) (canonicalTagKeys : List String) : UploadStore :=
  { sessions := .empty, identities := .empty, publications := .empty, libraries, canonicalTagKeys
    media := .empty, locations := .empty, metadata := .empty, tags := [] }

def session? (s : UploadStore) (id : UploadSessionId) : Option UploadSessionRow :=
  s.sessions.find? id

def publication? (s : UploadStore) (id : UploadSessionId) : Option UploadPublicationRow :=
  s.publications.find? id

/- UPDATE upload_sessions SET .. WHERE id = .. AND ..; nothing when no row matches. -/
def updateSession (s : UploadStore) (id : UploadSessionId) (guard : UploadSessionRow → Bool)
    (set : UploadSessionRow → UploadSessionRow) (hset : ∀ row, (set row).id = row.id) :
    Option UploadStore :=
  match s.session? id with
  | some row =>
    if guard row then some { s with sessions := s.sessions.update id set hset } else none
  | none => none

/- `_require_session`: what cannot be loaded again aborts the transaction, as the table's
   own CHECK constraints do. -/
def requireSession (s : UploadStore) (id : UploadSessionId) :
    Except UploadSessionRepositoryError UploadSession :=
  match s.session? id with
  | none => .error .notFound
  | some row =>
    match sessionFromRow row with
    | none => .error .failed
    | some session => .ok session

/-- A guarded UPDATE read back, or what the statement answers when no row matched. -/
def guardedUpdate (s : UploadStore) (id : UploadSessionId) (guard : UploadSessionRow → Bool)
    (set : UploadSessionRow → UploadSessionRow) (hset : ∀ row, (set row).id = row.id)
    (refuse : UploadSessionRow → Except UploadSessionRepositoryError UploadSession) :
    Except UploadSessionRepositoryError (UploadSession × UploadStore) :=
  match s.updateSession id guard set hset with
  | some t => (t.requireSession id).map (·, t)
  | none =>
    match s.session? id with
    | none => .error .notFound
    | some row => (refuse row).map (·, s)

/- `_get_or_create_byte_identity`: INSERT .. ON CONFLICT (evidence) DO NOTHING, then read. -/
def getOrCreateByteIdentity (s : UploadStore) (identity : MediaByteIdentity) :
    Except UploadSessionRepositoryError (MediaByteIdentity × UploadStore) :=
  if identity.Valid then
    match s.identities.rows.find? fun row => row.evidence = identity.evidence with
    | some existing => if existing.Valid then .ok (existing, s) else .error .byteIdentity
    | none =>
      match s.identities.insert? identity with
      | some identities => .ok (identity, { s with identities })
      | none => .error .failed
  else .error .byteIdentity

/- The values `create` inserts: the session's, its byte identity resolved. -/
def resolveByteIdentity (session : UploadSession) (s : UploadStore) :
    Except UploadSessionRepositoryError (UploadSessionRow × UploadStore) :=
  match session.byteIdentityId with
  | none => .ok (session.toUploadSessionRow, s)
  | some id =>
    (s.getOrCreateByteIdentity
      { id
        checksumAlgorithm := session.checksumAlgorithm.getD ""
        sizeBytes := session.declaredSizeBytes
        checksumHex := session.checksumHex.getD ""
        createdAtMs := session.updatedAtMs }).map fun (identity, t) =>
      ({ session.toUploadSessionRow with byteIdentityId := some identity.id }, t)

def create (session : UploadSession) (s : UploadStore) :
    Except UploadSessionRepositoryError (Unit × UploadStore) := do
  require (s.session? session.id).isNone .alreadyExists
  require (!s.sessions.rows.any fun row => row.storageKey = session.storageKey)
    .storageKeyAlreadyExists
  let (row, t) ← resolveByteIdentity session s
  -- the column's CHECK asks for a lowercase key, the constructor does not
  require (row.createdByLoginKey.all isLoginKeyColumn) .failed
  match t.sessions.insert? row with
  | some sessions => .ok ((), { t with sessions })
  | none => .error .failed

def advanceReceivedOffset (id : UploadSessionId) (expectedReceivedSizeBytes acceptedSizeBytes
    expectedVersion updatedAtMs : Int) (s : UploadStore) :
    Except UploadSessionRepositoryError (UploadSession × UploadStore) := do
  require (0 ≤ expectedReceivedSizeBytes && 0 < acceptedSizeBytes && 0 ≤ expectedVersion &&
    0 ≤ updatedAtMs) .offsetConflict
  let nextOffset := expectedReceivedSizeBytes + acceptedSizeBytes
  s.guardedUpdate id
    (fun row => row.state = .receiving && row.receivedSizeBytes = expectedReceivedSizeBytes &&
      row.version = expectedVersion && nextOffset ≤ row.declaredSizeBytes)
    (fun row => { row with
      receivedSizeBytes := nextOffset
      updatedAtMs
      version := row.version + 1 })
    (fun _ => rfl)
    fun row => do
      require (row.state = .receiving) .invalidTransition
      require (row.receivedSizeBytes = expectedReceivedSizeBytes) .offsetConflict
      require (row.version = expectedVersion) .concurrencyConflict
      require (nextOffset ≤ row.declaredSizeBytes) .sizeLimitExceeded
      .error .failed

def recordCompletedChecksum (id : UploadSessionId) (expectedState : UploadSessionState)
    (expectedVersion : Int) (checksumHex : String) (updatedAtMs : Int) (s : UploadStore) :
    Except UploadSessionRepositoryError (UploadSession × UploadStore) := do
  require (isLowerHex64 checksumHex) .invalidChecksum
  require (0 ≤ expectedVersion && 0 ≤ updatedAtMs) .concurrencyConflict
  s.guardedUpdate id
    (fun row => row.state = expectedState && row.version = expectedVersion &&
      row.checksumAlgorithm.isNone && row.checksumHex.isNone)
    (fun row => { row with
      checksumAlgorithm := some "sha256"
      checksumHex := some checksumHex
      updatedAtMs
      version := row.version + 1 })
    (fun _ => rfl)
    fun row => do
      require (row.state = expectedState) .invalidTransition
      require (row.version = expectedVersion) .concurrencyConflict
      require (row.checksumAlgorithm = some "sha256" && row.checksumHex = some checksumHex)
        .invalidChecksum
      match sessionFromRow row with
      | some session => .ok session
      | none => .error .failed

/- `_FAILURE_STATES`. -/
def failureStates : List UploadSessionState := [.failed, .rejected]

def transitionState (id : UploadSessionId) (expectedState targetState : UploadSessionState)
    (expectedVersion updatedAtMs : Int) (failureCode : Option String) (s : UploadStore) :
    Except UploadSessionRepositoryError (UploadSession × UploadStore) := do
  require (targetState ∈ allowedUploadSessionTransitions expectedState) .invalidTransition
  require (0 ≤ expectedVersion && 0 ≤ updatedAtMs) .concurrencyConflict
  require (failureCode.all isFailureCode) .concurrencyConflict
  require (failureCode.isNone || targetState ∈ failureStates) .invalidTransition
  let complete := fun row : UploadSessionRow =>
    targetState ∉ completeUploadSessionStates || row.receivedSizeBytes = row.declaredSizeBytes
  let evidence := fun row : UploadSessionRow =>
    targetState ∉ validatedUploadSessionStates || row.hasValidationEvidence
  s.guardedUpdate id
    (fun row => row.state = expectedState && row.version = expectedVersion && complete row &&
      evidence row)
    (fun row => { row with
      state := targetState
      updatedAtMs
      failureCode
      version := row.version + 1 })
    (fun _ => rfl)
    fun row => do
      require (row.state = expectedState) .invalidTransition
      require (row.version = expectedVersion) .concurrencyConflict
      require (complete row) .incomplete
      require (evidence row) .invalidValidationEvidence
      .error .concurrencyConflict

def startValidation (id : UploadSessionId) (expectedVersion updatedAtMs : Int) (s : UploadStore) :
    Except UploadSessionRepositoryError (UploadSession × UploadStore) := do
  require (0 ≤ expectedVersion && 0 ≤ updatedAtMs) .concurrencyConflict
  s.guardedUpdate id
    (fun row => row.state = .received && row.version = expectedVersion &&
      row.receivedSizeBytes = row.declaredSizeBytes)
    (fun row => { row with
      state := .validating
      updatedAtMs
      version := row.version + 1 })
    (fun _ => rfl)
    fun row => do
      require (row.state = .received) .invalidTransition
      require (row.version = expectedVersion) .concurrencyConflict
      require (row.receivedSizeBytes = row.declaredSizeBytes) .incomplete
      .error .concurrencyConflict

/-- A row that holds the place of its byte identity. -/
def isCanonical (s : UploadStore) (row : UploadSessionRow) : Bool :=
  row.state = .publishPending || row.state = .published ||
    (row.state = .cataloged && (s.publication? row.id).any fun p => p.mediaId.isSome)

/- `canonical_exists` of `complete_validation_success`. -/
def canonicalExists (s : UploadStore) (id : UploadSessionId) (identity : MediaByteIdentityId) :
    Bool :=
  s.sessions.rows.any fun row =>
    row.id ≠ id && row.byteIdentityId = some identity && s.isCanonical row

/- `_row_has_matching_validation_success_evidence`. -/
def hasMatchingEvidence (row : UploadSessionRow) (checksumHex : String)
    (kind : UploadValidatedMediaKind) (format : UploadValidatedFormat) : Bool :=
  row.state ∈ validatedUploadSessionStates && row.checksumAlgorithm = some "sha256" &&
    row.checksumHex = some checksumHex && row.validatedMediaKind = some kind &&
    row.validatedFormat = some format && row.byteIdentityId.isSome

/- `_row_byte_identity_matches_upload_evidence`. -/
def byteIdentityMatches (s : UploadStore) (row : UploadSessionRow) : Bool :=
  match row.byteIdentityId with
  | none => false
  | some id => (s.identities.find? id).any fun identity =>
      row.checksumAlgorithm = some identity.checksumAlgorithm &&
        identity.sizeBytes = row.declaredSizeBytes && row.checksumHex = some identity.checksumHex

/- Where a validated upload goes, and the disposition recorded with it. -/
def validationOutcome (mode : UploadDuplicateResolutionMode) (canonicalExists : Bool) :
    UploadSessionState × Option UploadDuplicateDisposition :=
  if canonicalExists then
    if usesExplicitDuplicateResolution mode then (.duplicatePending, none)
    else (.publishPending, some .keepSeparate)
  else (.publishPending, none)

/-- `complete_validation_success`; `freshId` is the identity drawn for new bytes. -/
def completeValidationSuccess (id : UploadSessionId) (expectedVersion : Int) (checksumHex : String)
    (kind : UploadValidatedMediaKind) (format : UploadValidatedFormat) (updatedAtMs : Int)
    (freshId : MediaByteIdentityId) (s : UploadStore) :
    Except UploadSessionRepositoryError (UploadSession × UploadStore) := do
  require (isLowerHex64 checksumHex) .invalidChecksum
  require ((kind, format) ∈ allowedUploadValidationEvidencePairs) .invalidValidationEvidence
  require (0 ≤ expectedVersion && 0 ≤ updatedAtMs) .concurrencyConflict
  match s.session? id with
  | none => .error .notFound
  | some row =>
    if hasMatchingEvidence row checksumHex kind format then do
      require (s.byteIdentityMatches row) .invalidValidationEvidence
      match sessionFromRow row with
      | some session => .ok (session, s)
      | none => .error .failed
    else do
      if row.state ∈ validatedUploadSessionStates then
        require (row.checksumAlgorithm = some "sha256" && row.checksumHex = some checksumHex)
          .invalidChecksum
        require false .invalidValidationEvidence
      require (row.state = .validating) .invalidTransition
      require (row.version = expectedVersion) .concurrencyConflict
      require (row.receivedSizeBytes = row.declaredSizeBytes) .incomplete
      require (row.checksumAlgorithm.isNone && row.checksumHex.isNone) .invalidChecksum
      require (row.validatedMediaKind.isNone && row.validatedFormat.isNone)
        .invalidValidationEvidence
      let (identity, t) ← s.getOrCreateByteIdentity
        { id := freshId
          checksumAlgorithm := "sha256"
          sizeBytes := row.declaredSizeBytes
          checksumHex
          createdAtMs := updatedAtMs }
      let outcome := validationOutcome row.duplicateResolutionMode (t.canonicalExists id identity.id)
      t.guardedUpdate id
        (fun row => row.state = .validating && row.version = expectedVersion &&
          row.receivedSizeBytes = row.declaredSizeBytes && row.checksumAlgorithm.isNone &&
          row.checksumHex.isNone && row.validatedMediaKind.isNone && row.validatedFormat.isNone &&
          row.byteIdentityId.isNone)
        (fun row => { row with
          state := outcome.1
          checksumAlgorithm := some "sha256"
          checksumHex := some checksumHex
          validatedMediaKind := some kind
          validatedFormat := some format
          byteIdentityId := some identity.id
          duplicateDisposition := outcome.2
          updatedAtMs
          version := row.version + 1 })
        (fun _ => rfl)
        fun _ => .error .concurrencyConflict

/- Where a disposition sends its session. -/
def dispositionTarget : UploadDuplicateDisposition → UploadSessionState
  | .keepSeparate => .publishPending
  | .discard => .cancelled

def recordDuplicateDisposition (id : UploadSessionId) (expectedVersion : Int)
    (disposition : UploadDuplicateDisposition) (updatedAtMs : Int) (s : UploadStore) :
    Except UploadSessionRepositoryError (UploadSession × UploadStore) := do
  require (0 ≤ expectedVersion && 0 ≤ updatedAtMs) .concurrencyConflict
  s.guardedUpdate id
    (fun row => row.state = .duplicatePending && row.version = expectedVersion &&
      row.duplicateDisposition.isNone)
    (fun row => { row with
      state := dispositionTarget disposition
      duplicateDisposition := some disposition
      updatedAtMs
      version := row.version + 1 })
    (fun _ => rfl)
    fun row => do
      require (row.state = .duplicatePending) .invalidTransition
      require row.duplicateDisposition.isNone .invalidTransition
      .error .concurrencyConflict

def rejectValidation (id : UploadSessionId) (expectedVersion : Int) (failureCode : String)
    (updatedAtMs : Int) (s : UploadStore) :
    Except UploadSessionRepositoryError (UploadSession × UploadStore) := do
  require (isFailureCode failureCode && 0 ≤ expectedVersion && 0 ≤ updatedAtMs)
    .concurrencyConflict
  s.guardedUpdate id
    (fun row => row.state = .validating && row.version = expectedVersion)
    (fun row => { row with
      state := .rejected
      failureCode := some failureCode
      updatedAtMs
      version := row.version + 1 })
    (fun _ => rfl)
    fun row => do
      require (row.state = .validating) .invalidTransition
      .error .concurrencyConflict

end UploadStore
end FrameNest.Uploads
