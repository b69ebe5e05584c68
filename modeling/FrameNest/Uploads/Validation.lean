import FrameNest.Uploads.Surroundings

/-! Validation of a received upload: two passes over the quarantined bytes around the
media validator, then one guarded statement. -/
namespace FrameNest.Uploads
open Concurrent

def uploadValidationQuarantineInconsistent : String := "QUARANTINE_INCONSISTENT"
def uploadValidationIoError : String := "VALIDATION_IO_ERROR"
def uploadValidationInternalError : String := "VALIDATION_INTERNAL_ERROR"

def hashChunkSize : Nat := 1024 * 1024

structure UploadValidationResult where
  uploadId : UploadSessionId
  state : UploadSessionState
  checksumAlgorithm : Option String
  checksumHex : Option String
  validatedMediaKind : Option UploadValidatedMediaKind
  validatedFormat : Option UploadValidatedFormat
  failureCode : Option String
deriving DecidableEq

def validationResult (session : UploadSessionRow) : UploadValidationResult :=
  { uploadId := session.id
    state := session.state
    checksumAlgorithm := session.checksumAlgorithm
    checksumHex := session.checksumHex
    validatedMediaKind := session.validatedMediaKind
    validatedFormat := session.validatedFormat
    failureCode := session.failureCode }

/- `_matches_success`. -/
def matchesSuccess (session : UploadSessionRow) (checksumHex : String)
    (kind : UploadValidatedMediaKind) (format : UploadValidatedFormat) : Bool :=
  session.state ∈ [UploadSessionState.duplicatePending, .publishPending] &&
    session.checksumAlgorithm = some "sha256" && session.checksumHex = some checksumHex &&
    session.validatedMediaKind = some kind && session.validatedFormat = some format

/- `_validation_infrastructure_error`. -/
def validationInfrastructureError (failureCode : String) : UploadValidationError :=
  if failureCode = uploadValidationQuarantineInconsistent then .quarantineInconsistent
  else .unavailable

variable {α : Type}

def failValidation (x : UploadValidationError) : UploadProgram α := .fail (.validation x)

/- `except` clauses over the errors of the session repository. -/
def validationExcept (p : UploadProgram α)
    (handler : UploadSessionRepositoryError → UploadProgram α) : UploadProgram α :=
  p.rescue fun
    | .repository (.session x) => handler x
    | x => .fail x

def readChunk (reader : QuarantineReader) (position limit : Nat) : UploadProgram (List UInt8) :=
  quarantine (.read reader position limit)

def validationLoad (id : UploadSessionId) : UploadProgram UploadSession := do
  let found ← validationExcept (repository (.getSession id)) fun _ => failValidation .unavailable
  match found with
  | some session => .done session
  | none => failValidation .notFound

/- The row another owner may have brought into one of the given states meanwhile. -/
def reloaded (id : UploadSessionId) (accepted : UploadSession → Bool) (x : UploadValidationError) :
    UploadProgram UploadSession := do
  let current ← validationLoad id
  if accepted current then .done current else failValidation x

def failIfPossible (session : UploadSession) (failureCode : String) : UploadProgram Bool :=
  if session.state ≠ .validating then .done false
  else validationExcept (do
      let now ← readClock
      let _ ← repository (.transitionState session.id .validating .failed session.version now
        (some failureCode))
      .done true) fun _ => do
    let current ← validationExcept (repository (.getSession session.id)) fun _ => .done none
    .done (current.any fun current => current.state = .failed &&
      current.failureCode = some failureCode)

def failValidationAfter (session : UploadSession) (failureCode : String)
    (x : UploadValidationError) : UploadProgram α := do
  let _ ← failIfPossible session failureCode
  failValidation x

def startValidation (session : UploadSession) : UploadProgram UploadSession :=
  let accepted := fun current : UploadSession =>
    decide (current.state ∈
      [UploadSessionState.validating, .duplicatePending, .publishPending, .rejected])
  validationExcept (do
    let now ← readClock
    repository (.startValidation session.id session.version now)) fun
      | .notFound => failValidation .notFound
      | .incomplete =>
        failValidationAfter session uploadValidationQuarantineInconsistent .quarantineInconsistent
      | .invalidTransition => reloaded session.id accepted .stateConflict
      | .concurrencyConflict => reloaded session.id accepted .concurrency
      | _ => failValidation .unavailable

def openReader (session : UploadSession) : UploadProgram QuarantineReader :=
  (quarantine (.openReader session.storageKey session.declaredSizeBytes)).rescue fun
    | .quarantine .stateInconsistent =>
      failValidationAfter session uploadValidationQuarantineInconsistent .quarantineInconsistent
    | .quarantine .unavailable =>
      failValidationAfter session uploadValidationIoError .unavailable
    | x => .fail x

def completeSuccess (session : UploadSession) (checksumHex : String)
    (kind : UploadValidatedMediaKind) (format : UploadValidatedFormat) :
    UploadProgram UploadSession :=
  let accepted := fun current : UploadSession =>
    matchesSuccess current.toUploadSessionRow checksumHex kind format
  validationExcept (do
    let now ← readClock
    let freshId ← newIdentity .mediaByteIdentity
    repository (.completeValidationSuccess session.id session.version checksumHex kind format now
      freshId)) fun
      | .invalidChecksum | .invalidValidationEvidence =>
        failValidationAfter session uploadValidationInternalError .unavailable
      | .invalidTransition => reloaded session.id accepted .stateConflict
      | .concurrencyConflict => reloaded session.id accepted .concurrency
      | _ => failValidation .unavailable

def reject (session : UploadSession) (failureCode : String) : UploadProgram UploadSession :=
  let accepted := fun current : UploadSession => decide (current.state = .rejected)
  validationExcept (do
    let now ← readClock
    repository (.rejectValidation session.id session.version failureCode now)) fun
      | .notFound => failValidation .notFound
      | .invalidTransition => reloaded session.id accepted .stateConflict
      | .concurrencyConflict => reloaded session.id accepted .concurrency
      | _ => failValidation .unavailable

namespace UploadServices
variable (S : UploadServices)

/- `_sha256`. A file with more bytes than it had when it was opened fails the fingerprint
   check that follows, so the loop may as well give up there. -/
def sha256OfReader (reader : QuarantineReader) : Nat → Nat → List UInt8 → UploadProgram String
  | 0, _, _ => .fail (.quarantine .stateInconsistent)
  | fuel + 1, position, hashed => do
    let stop ← stopRequested
    if stop then failValidation .interrupted
    else do
      let chunk ← readChunk reader position hashChunkSize
      if chunk = [] then .done (S.sha256 hashed)
      else sha256OfReader reader fuel (position + chunk.length) (hashed ++ chunk)

/- What the stable object is checked for, once it is open. -/
def checkReader (session : UploadSession) (reader : QuarantineReader) :
    UploadProgram UploadValidationResult := do
  let checksumHex ← S.sha256OfReader reader (reader.sizeBytes + 1) 0 []
  quarantine (.verifyStillConsistent reader)
  let evidence ← Program.attempt (UploadEffect.validate reader)
  match evidence with
  | .error (.validator .interrupted) => failValidation .interrupted
  | .error (.validator (.rejected failureCode)) => do
    let rejected ← reject session failureCode
    .done (validationResult rejected.toUploadSessionRow)
  | .error (.validator (.infrastructure failureCode)) =>
    failValidationAfter session failureCode (validationInfrastructureError failureCode)
  | .error _ => failValidationAfter session uploadValidationInternalError .unavailable
  | .ok (kind, format) => do
    quarantine (.verifyStillConsistent reader)
    let secondChecksumHex ← S.sha256OfReader reader (reader.sizeBytes + 1) 0 []
    if secondChecksumHex ≠ checksumHex then
      failValidationAfter session uploadValidationQuarantineInconsistent .quarantineInconsistent
    else do
      quarantine (.verifyStillConsistent reader)
      let completed ← completeSuccess session checksumHex kind format
      .done (validationResult completed.toUploadSessionRow)

def validateStableQuarantineObject (session : UploadSession) :
    UploadProgram UploadValidationResult :=
  if session.receivedSizeBytes ≠ session.declaredSizeBytes then
    failValidationAfter session uploadValidationQuarantineInconsistent .quarantineInconsistent
  else do
    let reader ← openReader session
    (S.checkReader session reader).rescue fun
      | .quarantine .stateInconsistent =>
        failValidationAfter session uploadValidationQuarantineInconsistent .quarantineInconsistent
      | x => .fail x

/- The rest of both entry points, from the session they work on. -/
def validateFrom (session : UploadSession) : UploadProgram UploadValidationResult :=
  if session.state = .validating then S.validateStableQuarantineObject session
  else failValidation .stateConflict

/- States whose validation already has a result. -/
def alreadyValidated (session : UploadSession) : Bool :=
  session.state ∈ [UploadSessionState.duplicatePending, .publishPending, .rejected]

def validateOwnedBlocking (id : UploadSessionId) : UploadProgram UploadValidationResult := do
  let session ← validationLoad id
  if alreadyValidated session then .done (validationResult session.toUploadSessionRow)
  else if session.state = .received then do
    let session ← startValidation session
    S.validateFrom session
  else S.validateFrom session

def recoverAbandonedValidatingOwnedBlocking (id : UploadSessionId) :
    UploadProgram UploadValidationResult := do
  let session ← validationLoad id
  if alreadyValidated session then .done (validationResult session.toUploadSessionRow)
  else S.validateFrom session

end UploadServices
end FrameNest.Uploads
