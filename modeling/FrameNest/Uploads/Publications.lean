import FrameNest.Uploads.Sessions

/-! Publications of uploads, the byte identities they carry and the catalog rows made
from them. -/
namespace FrameNest.Uploads
open Plain

inductive UploadPublicationState where
  | reserved | verified
deriving DecidableEq

inductive UploadPublicationCleanupState where
  | pending | complete
deriving DecidableEq

/- The format's value, which is also the extension of the target. -/
def UploadValidatedFormat.extension : UploadValidatedFormat → String
  | .gif => "gif"
  | .mp4 => "mp4"
  | .jpeg => "jpg"
  | .png => "png"

/-- `UploadPublicationRelativePath.for_publication`. -/
def relativePathForPublication (publicationId : UploadPublicationId)
    (format : UploadValidatedFormat) : String :=
  publicationId.hex ++ "." ++ format.extension

/-- One row of `upload_publications`. -/
structure UploadPublicationRow where
  uploadId : UploadSessionId
  publicationId : UploadPublicationId
  destinationId : LibraryId
  relativePath : String
  byteIdentityId : MediaByteIdentityId
  expectedSizeBytes : Int
  checksumAlgorithm : String
  checksumHex : String
  validatedMediaKind : UploadValidatedMediaKind
  validatedFormat : UploadValidatedFormat
  state : UploadPublicationState
  cleanupState : UploadPublicationCleanupState
  createdAtMs : Int
  updatedAtMs : Int
  verifiedAtMs : Option Int
  cleanupCompletedAtMs : Option Int
  version : Int
  mediaId : Option MediaId
  mediaLocationId : Option MediaLocationId
deriving DecidableEq

namespace UploadPublicationRow

/- The progress columns that a reserved, a verified and a cleaned row may hold. -/
def progressValid (row : UploadPublicationRow) : Bool :=
  match row.state, row.verifiedAtMs with
  | .reserved, none => row.cleanupState = .pending && row.cleanupCompletedAtMs.isNone
  | .reserved, some _ | .verified, none => false
  | .verified, some verified => row.createdAtMs ≤ verified &&
      match row.cleanupState, row.cleanupCompletedAtMs with
      | .pending, none => true
      | .complete, some completed => verified ≤ completed
      | .pending, some _ | .complete, none => false

/-- What `UploadPublication.__post_init__` checks, beyond the types of the fields. -/
structure Valid (row : UploadPublicationRow) : Prop where
  path : row.relativePath = relativePathForPublication row.publicationId row.validatedFormat
  size_pos : 0 < row.expectedSizeBytes
  algorithm : row.checksumAlgorithm = "sha256"
  checksum : isLowerHex64 row.checksumHex = true
  evidence_pair :
    (row.validatedMediaKind, row.validatedFormat) ∈ allowedUploadValidationEvidencePairs
  created_nonneg : 0 ≤ row.createdAtMs
  updated_after : row.createdAtMs ≤ row.updatedAtMs
  verified_nonneg : row.verifiedAtMs.all (0 ≤ ·) = true
  cleanup_nonneg : row.cleanupCompletedAtMs.all (0 ≤ ·) = true
  version_nonneg : 0 ≤ row.version
  progress : row.progressValid = true
  linkage : row.mediaId.isSome = row.mediaLocationId.isSome

theorem valid_iff (row : UploadPublicationRow) : row.Valid ↔
    row.relativePath = relativePathForPublication row.publicationId row.validatedFormat ∧
    0 < row.expectedSizeBytes ∧ row.checksumAlgorithm = "sha256" ∧
    isLowerHex64 row.checksumHex = true ∧
    (row.validatedMediaKind, row.validatedFormat) ∈ allowedUploadValidationEvidencePairs ∧
    0 ≤ row.createdAtMs ∧ row.createdAtMs ≤ row.updatedAtMs ∧
    row.verifiedAtMs.all (0 ≤ ·) = true ∧ row.cleanupCompletedAtMs.all (0 ≤ ·) = true ∧
    0 ≤ row.version ∧ row.progressValid = true ∧
    row.mediaId.isSome = row.mediaLocationId.isSome :=
  ⟨fun ⟨a, b, c, d, e, f, g, h, i, j, k, l⟩ => ⟨a, b, c, d, e, f, g, h, i, j, k, l⟩,
    fun ⟨a, b, c, d, e, f, g, h, i, j, k, l⟩ => ⟨a, b, c, d, e, f, g, h, i, j, k, l⟩⟩

instance : DecidablePred Valid := fun row => decidable_of_iff _ row.valid_iff.symm

/- `ensure_publication_matches_upload`. -/
def matchesUpload (row : UploadPublicationRow) (upload : UploadSessionRow) : Bool :=
  row.uploadId = upload.id && upload.byteIdentityId = some row.byteIdentityId &&
    row.expectedSizeBytes = upload.declaredSizeBytes &&
    upload.checksumAlgorithm = some row.checksumAlgorithm &&
    upload.checksumHex = some row.checksumHex &&
    upload.validatedMediaKind = some row.validatedMediaKind &&
    upload.validatedFormat = some row.validatedFormat

theorem matchesUpload_iff {row : UploadPublicationRow} {upload : UploadSessionRow} :
    row.matchesUpload upload = true ↔ row.uploadId = upload.id ∧
      upload.byteIdentityId = some row.byteIdentityId ∧
      row.expectedSizeBytes = upload.declaredSizeBytes ∧
      upload.checksumAlgorithm = some row.checksumAlgorithm ∧
      upload.checksumHex = some row.checksumHex ∧
      upload.validatedMediaKind = some row.validatedMediaKind ∧
      upload.validatedFormat = some row.validatedFormat := by
  simp [matchesUpload, and_assoc]

end UploadPublicationRow

structure UploadPublication extends UploadPublicationRow where
  valid : toUploadPublicationRow.Valid

def publicationFromRow (row : UploadPublicationRow) : Option UploadPublication :=
  if h : row.Valid then some ⟨row, h⟩ else none

theorem publicationFromRow_some {row : UploadPublicationRow} {publication : UploadPublication}
    (h : publicationFromRow row = some publication) :
    publication.toUploadPublicationRow = row := by
  unfold publicationFromRow at h
  split at h
  · cases h; rfl
  · cases h

theorem UploadPublication.eq_of_row {p q : UploadPublication}
    (h : p.toUploadPublicationRow = q.toUploadPublicationRow) : p = q := by
  obtain ⟨row, valid⟩ := p
  cases h
  rfl

/- `ensure_upload_is_publication_candidate`. -/
def isPublicationCandidate (upload : UploadSessionRow) : Bool :=
  upload.state = .publishPending && upload.receivedSizeBytes = upload.declaredSizeBytes &&
    upload.hasValidationEvidence

/-- `new_upload_publication_reservation`, for the publication id drawn and the clock read. -/
def newUploadPublicationReservation (upload : UploadSession) (publicationId : UploadPublicationId)
    (destinationId : LibraryId) (nowMs : Int) : Option UploadPublication :=
  if isPublicationCandidate upload.toUploadSessionRow then
    match upload.byteIdentityId, upload.checksumHex, upload.validatedMediaKind,
        upload.validatedFormat with
    | some byteIdentityId, some checksumHex, some kind, some format =>
      publicationFromRow
        { uploadId := upload.id
          publicationId
          destinationId
          relativePath := relativePathForPublication publicationId format
          byteIdentityId
          expectedSizeBytes := upload.declaredSizeBytes
          checksumAlgorithm := "sha256"
          checksumHex
          validatedMediaKind := kind
          validatedFormat := format
          state := .reserved
          cleanupState := .pending
          createdAtMs := nowMs
          updatedAtMs := nowMs
          verifiedAtMs := none
          cleanupCompletedAtMs := none
          version := 0
          mediaId := none
          mediaLocationId := none }
    | _, _, _, _ => none
  else none

/-- One row of `media_byte_identities`: the identity of one exact byte stream. -/
structure MediaByteIdentity where
  id : MediaByteIdentityId
  checksumAlgorithm : String
  sizeBytes : Int
  checksumHex : String
  createdAtMs : Int
deriving DecidableEq

namespace MediaByteIdentity

/- `MediaByteIdentity.__post_init__`. -/
def Valid (identity : MediaByteIdentity) : Prop :=
  identity.checksumAlgorithm = "sha256" ∧ 0 < identity.sizeBytes ∧
    isLowerHex64 identity.checksumHex = true ∧ 0 ≤ identity.createdAtMs

instance : DecidablePred Valid := fun identity => by unfold Valid; infer_instance

/- The unique tuple of the table. -/
def evidence (identity : MediaByteIdentity) : String × Int × String :=
  (identity.checksumAlgorithm, identity.sizeBytes, identity.checksumHex)

end MediaByteIdentity

/- `MediaKind(kind.value)`: the catalog's kinds and the upload's have the same values. -/
inductive MediaKind where
  | video | animatedImage | image
deriving DecidableEq

def UploadValidatedMediaKind.toMediaKind : UploadValidatedMediaKind → MediaKind
  | .video => .video
  | .animatedImage => .animatedImage
  | .image => .image

structure LogicalMedia where
  id : MediaId
  kind : MediaKind
  createdAtMs : Int
  updatedAtMs : Int
deriving DecidableEq

inductive MediaLocationAvailability where
  | available | offline | missing | unverified | archived
deriving DecidableEq

structure MediaLocation where
  id : MediaLocationId
  mediaId : MediaId
  libraryId : LibraryId
  relativePath : String
  availability : MediaLocationAvailability
  observedSizeBytes : Option Int
  observedMtimeNs : Option Int
  createdAtMs : Int
  updatedAtMs : Int
deriving DecidableEq

inductive ContentCategory where
  | general | meme | movie | youtube
deriving DecidableEq

inductive AcquisitionSource where
  | unknown | manualUpload | libraryScan | youtubeManualClaim | xManualClaim
deriving DecidableEq

inductive CreatorAttributionKind where
  | youtubeChannel | xAuthor
deriving DecidableEq

/- What a catalogued upload may carry besides its media: `CatalogUploadClassification`. -/
structure CatalogUploadClassification where
  contentCategory : ContentCategory
  acquisitionSource : AcquisitionSource
  displayTitle : Option String
  creatorAttributionKind : Option CreatorAttributionKind
  creatorStableId : Option String
  creatorHandle : Option String
  creatorDisplayName : Option String
  description : Option String
  tagKeys : List String
deriving DecidableEq

structure MediaMetadata where
  mediaId : MediaId
  classification : CatalogUploadClassification
  hasGenres : Bool
  createdAtMs : Int
  updatedAtMs : Int
deriving DecidableEq

/- The row of `media_metadata`: the metadata less its tags, and the collection they put
   it in. -/
structure MediaMetadataRow where
  metadata : MediaMetadata
  processed : Bool
  processedAtMs : Option Int
deriving DecidableEq

/- `derive_collection_state(None, None, tag_keys, now_ms)`. -/
def metadataRow (metadata : MediaMetadata) : MediaMetadataRow :=
  if metadata.classification.tagKeys = [] then ⟨metadata, false, none⟩
  else ⟨metadata, true, some metadata.updatedAtMs⟩

def MediaMetadataRow.mediaId (row : MediaMetadataRow) : MediaId := row.metadata.mediaId

structure MediaCanonicalTag where
  mediaId : MediaId
  tagKey : String
  position : Nat
deriving DecidableEq

def canonicalTags (metadata : MediaMetadata) : List MediaCanonicalTag :=
  metadata.classification.tagKeys.zipIdx.map fun (key, position) =>
    ⟨metadata.mediaId, key, position⟩

end FrameNest.Uploads
