import FrameNest.Identities

/-! Upload sessions: the durable states, the moves between them and what the
constructor asks of a session before it can exist. -/
namespace FrameNest.Uploads
open Plain

inductive UploadSessionState where
  | created | receiving | received | validating | duplicatePending | publishPending | published
  | cataloged | rejected | cancelled | expired | failed
deriving DecidableEq

inductive UploadDuplicateDisposition where
  | keepSeparate | discard
deriving DecidableEq

inductive UploadDuplicateResolutionMode where
  | explicit | silentKeepSeparate
deriving DecidableEq

inductive UploadValidatedMediaKind where
  | animatedImage | video | image
deriving DecidableEq

inductive UploadValidatedFormat where
  | gif | mp4 | jpeg | png
deriving DecidableEq

def terminalUploadSessionStates : List UploadSessionState :=
  [.cataloged, .rejected, .cancelled, .expired, .failed]

def completeUploadSessionStates : List UploadSessionState :=
  [.received, .validating, .duplicatePending, .publishPending, .published, .cataloged, .rejected]

def validatedUploadSessionStates : List UploadSessionState :=
  [.duplicatePending, .publishPending, .published, .cataloged]

instance lawfulEvidencePair : LawfulBEq (UploadValidatedMediaKind × UploadValidatedFormat) :=
  inferInstance

def allowedUploadValidationEvidencePairs :
    List (UploadValidatedMediaKind × UploadValidatedFormat) :=
  [(.animatedImage, .gif), (.video, .mp4), (.image, .jpeg), (.image, .png)]

def allowedUploadSessionTransitions : UploadSessionState → List UploadSessionState
  | .created => [.receiving, .cancelled, .expired, .failed]
  | .receiving => [.received, .cancelled, .expired, .failed]
  | .received => [.validating, .cancelled, .expired, .failed]
  | .validating => [.duplicatePending, .publishPending, .rejected, .failed]
  | .duplicatePending => [.publishPending, .cancelled, .expired, .failed]
  | .publishPending => [.failed]
  | .published | .cataloged | .rejected | .cancelled | .expired | .failed => []

/-- Published and cataloged are entered by the publication repository alone. -/
def extendedUploadSessionTransitions : UploadSessionState → List UploadSessionState
  | .publishPending => .published :: allowedUploadSessionTransitions .publishPending
  | .published => .cataloged :: allowedUploadSessionTransitions .published
  | state => allowedUploadSessionTransitions state

theorem allowed_subset_extended {state target : UploadSessionState}
    (h : target ∈ allowedUploadSessionTransitions state) :
    target ∈ extendedUploadSessionTransitions state := by
  cases state <;> simp_all [allowedUploadSessionTransitions, extendedUploadSessionTransitions]

theorem extended_of_terminal {state target : UploadSessionState}
    (h : state ∈ terminalUploadSessionStates) :
    target ∉ extendedUploadSessionTransitions state := by
  cases state <;>
    simp_all [terminalUploadSessionStates, extendedUploadSessionTransitions,
      allowedUploadSessionTransitions]

/- `[a-z0-9][a-z0-9._-]{15,127}`. -/
def isStorageKeyText (s : String) : Bool :=
  let lowerOrDigit := fun c : Char => ('a' ≤ c && c ≤ 'z') || ('0' ≤ c && c ≤ '9')
  match s.toList with
  | [] => false
  | first :: rest => lowerOrDigit first && 15 ≤ rest.length && rest.length ≤ 127 &&
      rest.all fun c => lowerOrDigit c || c = '.' || c = '_' || c = '-'

structure UploadStorageKey where
  value : String
  isKey : isStorageKeyText value = true
deriving DecidableEq

/- Both pure-path tests ask for a separator, so the separators are all there is to refuse. -/
def isDisplayFilename (s : String) : Bool :=
  s ≠ "" && s.toList.length ≤ 255 &&
    s.toList.all fun c => c ≠ '/' && c ≠ '\\' && !(c.toNat ≤ 0x1F) && c.toNat ≠ 0x7F

structure UploadDisplayFilename where
  value : String
  isFilename : isDisplayFilename value = true
deriving DecidableEq

/- `[A-Z0-9_]{1,80}`. -/
def isFailureCode (s : String) : Bool :=
  1 ≤ s.toList.length && s.toList.length ≤ 80 &&
    s.toList.all fun c => ('A' ≤ c && c ≤ 'Z') || ('0' ≤ c && c ≤ '9') || c = '_'

def maxLoginLength : Nat := 254

/- `_validate_created_by_login_key` of a present key. -/
def isCreatedByLoginKey (s : String) : Bool :=
  s ≠ "" && s.toList.length ≤ maxLoginLength &&
    s.toList.all fun c => !isSpace c && !(c.toNat ≤ 0x1F) && c.toNat ≠ 0x7F

/-- One row of `upload_sessions`, and the arguments of the `UploadSession` constructor. -/
structure UploadSessionRow where
  id : UploadSessionId
  state : UploadSessionState
  storageKey : UploadStorageKey
  displayFilename : UploadDisplayFilename
  declaredSizeBytes : Int
  receivedSizeBytes : Int
  checksumAlgorithm : Option String
  checksumHex : Option String
  createdAtMs : Int
  updatedAtMs : Int
  expiresAtMs : Int
  failureCode : Option String
  version : Int
  validatedMediaKind : Option UploadValidatedMediaKind
  validatedFormat : Option UploadValidatedFormat
  byteIdentityId : Option MediaByteIdentityId
  duplicateDisposition : Option UploadDuplicateDisposition
  createdByLoginKey : Option String
  duplicateResolutionMode : UploadDuplicateResolutionMode
deriving DecidableEq

/- `_validate_checksum_pair`. -/
def checksumPairValid (algorithm hex : Option String) : Bool :=
  match algorithm, hex with
  | none, none => true
  | some algorithm, some hex => algorithm = "sha256" && isLowerHex64 hex
  | _, _ => false

/- `_validate_validation_evidence_pair`. -/
def validationEvidencePairValid (kind : Option UploadValidatedMediaKind)
    (format : Option UploadValidatedFormat) : Bool :=
  match kind, format with
  | none, none => true
  | some kind, some format => (kind, format) ∈ allowedUploadValidationEvidencePairs
  | _, _ => false

/- States in which a recorded disposition may stand. -/
def UploadDuplicateDisposition.allowedStates : UploadDuplicateDisposition → List UploadSessionState
  | .keepSeparate => [.publishPending, .published, .cataloged, .failed]
  | .discard => [.cancelled]

namespace UploadSessionRow

/- `_row_has_validation_evidence`. -/
def hasValidationEvidence (row : UploadSessionRow) : Bool :=
  row.checksumAlgorithm = some "sha256" && row.checksumHex.isSome &&
    row.validatedMediaKind.isSome && row.validatedFormat.isSome && row.byteIdentityId.isSome

/-- What `UploadSession.__post_init__` checks, beyond the types of the fields. -/
structure Valid (row : UploadSessionRow) : Prop where
  declared_pos : 0 < row.declaredSizeBytes
  received_nonneg : 0 ≤ row.receivedSizeBytes
  received_le : row.receivedSizeBytes ≤ row.declaredSizeBytes
  created_empty : row.state = .created → row.receivedSizeBytes = 0
  complete_full : row.state ∈ completeUploadSessionStates →
    row.receivedSizeBytes = row.declaredSizeBytes
  checksum_pair : checksumPairValid row.checksumAlgorithm row.checksumHex = true
  created_nonneg : 0 ≤ row.createdAtMs
  updated_nonneg : 0 ≤ row.updatedAtMs
  expires_nonneg : 0 ≤ row.expiresAtMs
  expires_after : row.createdAtMs < row.expiresAtMs
  updated_after : row.createdAtMs ≤ row.updatedAtMs
  failure_code : row.failureCode.all isFailureCode = true
  version_nonneg : 0 ≤ row.version
  evidence_pair : validationEvidencePairValid row.validatedMediaKind row.validatedFormat = true
  validated_evidence : row.state ∈ validatedUploadSessionStates → row.hasValidationEvidence = true
  disposition_state : ∀ disposition ∈ row.duplicateDisposition,
    row.state ∈ disposition.allowedStates ∧ row.hasValidationEvidence = true
  login_key : row.createdByLoginKey.all isCreatedByLoginKey = true

theorem valid_iff (row : UploadSessionRow) : row.Valid ↔
    (0 < row.declaredSizeBytes ∧ 0 ≤ row.receivedSizeBytes ∧
      row.receivedSizeBytes ≤ row.declaredSizeBytes ∧
      (row.state = .created → row.receivedSizeBytes = 0) ∧
      (row.state ∈ completeUploadSessionStates → row.receivedSizeBytes = row.declaredSizeBytes)) ∧
    checksumPairValid row.checksumAlgorithm row.checksumHex = true ∧
    (0 ≤ row.createdAtMs ∧ 0 ≤ row.updatedAtMs ∧ 0 ≤ row.expiresAtMs ∧
      row.createdAtMs < row.expiresAtMs ∧ row.createdAtMs ≤ row.updatedAtMs) ∧
    row.failureCode.all isFailureCode = true ∧ 0 ≤ row.version ∧
    validationEvidencePairValid row.validatedMediaKind row.validatedFormat = true ∧
    (row.state ∈ validatedUploadSessionStates → row.hasValidationEvidence = true) ∧
    (∀ disposition ∈ row.duplicateDisposition,
      row.state ∈ disposition.allowedStates ∧ row.hasValidationEvidence = true) ∧
    row.createdByLoginKey.all isCreatedByLoginKey = true :=
  ⟨fun ⟨a, b, c, d, e, f, g, h, i, j, k, l, m, n, o, p, q⟩ =>
      ⟨⟨a, b, c, d, e⟩, f, ⟨g, h, i, j, k⟩, l, m, n, o, p, q⟩,
    fun ⟨⟨a, b, c, d, e⟩, f, ⟨g, h, i, j, k⟩, l, m, n, o, p, q⟩ =>
      ⟨a, b, c, d, e, f, g, h, i, j, k, l, m, n, o, p, q⟩⟩

instance : DecidablePred Valid := fun row => decidable_of_iff _ row.valid_iff.symm

end UploadSessionRow

/-- A session that its constructor has accepted. -/
structure UploadSession extends UploadSessionRow where
  valid : toUploadSessionRow.Valid

/-- `_session_from_row`: refused when the constructor refuses. -/
def sessionFromRow (row : UploadSessionRow) : Option UploadSession :=
  if h : row.Valid then some ⟨row, h⟩ else none

theorem sessionFromRow_some {row : UploadSessionRow} {session : UploadSession}
    (h : sessionFromRow row = some session) : session.toUploadSessionRow = row := by
  unfold sessionFromRow at h
  split at h
  · cases h; rfl
  · cases h

theorem sessionFromRow_valid {row : UploadSessionRow} (h : row.Valid) :
    sessionFromRow row = some ⟨row, h⟩ := by
  simp [sessionFromRow, h]

/- `uses_explicit_duplicate_resolution`. -/
def usesExplicitDuplicateResolution (mode : UploadDuplicateResolutionMode) : Bool :=
  mode = .explicit

end FrameNest.Uploads
