import FrameNest.Uploads.Store

/-! The repository of upload publications, and what a catalog removal takes from it. -/
namespace FrameNest.Uploads
open Relational

inductive UploadPublicationRepositoryError where
  | notFound | stateConflict | concurrencyConflict | evidenceConflict | targetConflict
  | unsupportedLegacy | catalogStateConflict | catalogInconsistency | failed
deriving DecidableEq

structure UploadPublicationCandidate where
  upload : UploadSession
  publication : Option UploadPublication

/-- `_upload_from_row` of this repository reads neither the owner nor the resolution mode. -/
def uploadFromRow (row : UploadSessionRow) : Option UploadSession :=
  sessionFromRow { row with createdByLoginKey := none, duplicateResolutionMode := .explicit }

theorem uploadFromRow_some {row : UploadSessionRow} {upload : UploadSession}
    (h : uploadFromRow row = some upload) : upload.toUploadSessionRow =
      { row with createdByLoginKey := none, duplicateResolutionMode := .explicit } :=
  sessionFromRow_some h

namespace UploadStore

/- UPDATE upload_publications SET .. WHERE upload_id = .. AND .. -/
def updatePublication (s : UploadStore) (id : UploadSessionId)
    (guard : UploadPublicationRow → Bool) (set : UploadPublicationRow → UploadPublicationRow)
    (hset : ∀ row, (set row).uploadId = row.uploadId) : Option UploadStore :=
  match s.publication? id with
  | some row =>
    if guard row then some { s with publications := s.publications.update id set hset } else none
  | none => none

/- `_candidate_from_rows`. -/
def candidateFromRows (upload : UploadSessionRow) (publication : Option UploadPublicationRow) :
    Option UploadPublicationCandidate :=
  match uploadFromRow upload, publication with
  | some upload, none => some ⟨upload, none⟩
  | some upload, some row => (publicationFromRow row).map fun publication =>
      ⟨upload, some publication⟩
  | none, _ => none

def getCandidate (id : UploadSessionId) (s : UploadStore) :
    Except UploadPublicationRepositoryError (Option UploadPublicationCandidate) :=
  match s.session? id with
  | none => .ok none
  | some row =>
    match candidateFromRows row (s.publication? id) with
    | some candidate => .ok (some candidate)
    | none => .error .failed

def requireCandidate (s : UploadStore) (id : UploadSessionId) :
    Except UploadPublicationRepositoryError UploadPublicationCandidate :=
  match s.session? id with
  | none => .error .notFound
  | some row =>
    match candidateFromRows row (s.publication? id) with
    | some candidate => .ok candidate
    | none => .error .failed

/- UNIQUE and FOREIGN KEY constraints that an INSERT of a reservation can meet. -/
def reservationAccepted (s : UploadStore) (row : UploadPublicationRow) : Bool :=
  !(s.publications.rows.any fun other => other.publicationId = row.publicationId ||
    (other.destinationId = row.destinationId && other.relativePath = row.relativePath)) &&
  row.destinationId ∈ s.libraries && (s.identities.find? row.byteIdentityId).isSome

def getOrCreateReservation (reservation : UploadPublication) (expectedUploadVersion : Int)
    (s : UploadStore) :
    Except UploadPublicationRepositoryError (UploadPublicationCandidate × UploadStore) := do
  require (0 ≤ expectedUploadVersion) .concurrencyConflict
  let candidate ← s.requireCandidate reservation.uploadId
  match candidate.publication with
  | some existing => do
    require (existing.matchesUpload candidate.upload.toUploadSessionRow) .evidenceConflict
    .ok (candidate, s)
  | none => do
    require (isPublicationCandidate candidate.upload.toUploadSessionRow &&
      reservation.matchesUpload candidate.upload.toUploadSessionRow) .evidenceConflict
    require (candidate.upload.version = expectedUploadVersion) .concurrencyConflict
    require (reservation.state = .reserved) .stateConflict
    require (s.reservationAccepted reservation.toUploadPublicationRow) .targetConflict
    match s.publications.insert? reservation.toUploadPublicationRow with
    | none => .error .targetConflict
    | some publications => do
      let t := { s with publications }
      let candidate ← t.requireCandidate reservation.uploadId
      .ok (candidate, t)

/- The publication of a candidate, or the error its absence raises. -/
def requirePublication (candidate : UploadPublicationCandidate) :
    Except UploadPublicationRepositoryError UploadPublication :=
  match candidate.publication with
  | some publication => .ok publication
  | none =>
    if candidate.upload.state = .published ∨ candidate.upload.state = .cataloged then
      .error .unsupportedLegacy
    else .error .notFound

def orConflict (t : Option UploadStore) : Except UploadPublicationRepositoryError UploadStore :=
  match t with
  | some t => .ok t
  | none => .error .concurrencyConflict

def commitVerifiedPublication (id : UploadSessionId) (publicationId : UploadPublicationId)
    (expectedUploadVersion expectedPublicationVersion updatedAtMs : Int) (s : UploadStore) :
    Except UploadPublicationRepositoryError (UploadPublicationCandidate × UploadStore) := do
  require (0 ≤ expectedUploadVersion && 0 ≤ expectedPublicationVersion && 0 ≤ updatedAtMs)
    .concurrencyConflict
  let candidate ← s.requireCandidate id
  let publication ← requirePublication candidate
  require (publication.publicationId = publicationId) .evidenceConflict
  require (publication.matchesUpload candidate.upload.toUploadSessionRow) .evidenceConflict
  if candidate.upload.state = .published ∧ publication.state = .verified then
    .ok (candidate, s)
  else do
    require (candidate.upload.state = .publishPending) .stateConflict
    require (publication.state = .reserved) .stateConflict
    require (candidate.upload.version = expectedUploadVersion &&
      publication.version = expectedPublicationVersion) .concurrencyConflict
    let t ← orConflict (s.updatePublication id
      (fun row => row.publicationId = publicationId && row.state = .reserved &&
        row.version = expectedPublicationVersion)
      (fun row => { row with
        state := .verified
        cleanupState := .pending
        verifiedAtMs := some updatedAtMs
        updatedAtMs
        version := row.version + 1 })
      (fun _ => rfl))
    let u ← orConflict (t.updateSession id
      (fun row => row.state = .publishPending && row.version = expectedUploadVersion &&
        row.receivedSizeBytes = row.declaredSizeBytes &&
        publication.matchesUpload row)
      (fun row => { row with
        state := .published
        updatedAtMs
        failureCode := none
        version := row.version + 1 })
      (fun _ => rfl))
    let committed ← u.requireCandidate id
    .ok (committed, u)

def markCleanupComplete (id : UploadSessionId) (publicationId : UploadPublicationId)
    (expectedPublicationVersion updatedAtMs : Int) (s : UploadStore) :
    Except UploadPublicationRepositoryError (UploadPublicationCandidate × UploadStore) := do
  require (0 ≤ expectedPublicationVersion && 0 ≤ updatedAtMs) .concurrencyConflict
  let candidate ← s.requireCandidate id
  let publication ← requirePublication candidate
  require (publication.publicationId = publicationId) .evidenceConflict
  require (publication.matchesUpload candidate.upload.toUploadSessionRow) .evidenceConflict
  if publication.cleanupState = .complete then
    .ok (candidate, s)
  else do
    require (candidate.upload.state = .published && publication.state = .verified) .stateConflict
    require (publication.version = expectedPublicationVersion) .concurrencyConflict
    let t ← orConflict (s.updatePublication id
      (fun row => row.publicationId = publicationId && row.state = .verified &&
        row.cleanupState = .pending && row.version = expectedPublicationVersion)
      (fun row => { row with
        cleanupState := .complete
        cleanupCompletedAtMs := some updatedAtMs
        updatedAtMs
        version := row.version + 1 })
      (fun _ => rfl))
    let committed ← t.requireCandidate id
    .ok (committed, t)

/- `_catalog_links_resolve`. -/
def catalogLinksResolve (s : UploadStore) (publication : UploadPublicationRow) : Bool :=
  match publication.mediaId, publication.mediaLocationId with
  | some mediaId, some locationId =>
    (s.media.find? mediaId).isSome && (s.locations.find? locationId).any fun location =>
      location.mediaId = mediaId && location.libraryId = publication.destinationId &&
        location.relativePath = publication.relativePath
  | _, _ => false

/- `_insert_media` and `_insert_location`. -/
def insertMedia (s : UploadStore) (media : LogicalMedia) : Option UploadStore :=
  (s.media.insert? media).map fun media => { s with media }

def insertLocation (s : UploadStore) (location : MediaLocation) : Option UploadStore :=
  if (s.media.find? location.mediaId).isSome && location.libraryId ∈ s.libraries &&
      !(s.locations.rows.any fun other =>
        other.libraryId = location.libraryId && other.relativePath = location.relativePath) then
    (s.locations.insert? location).map fun locations => { s with locations }
  else none

def insertMetadata (s : UploadStore) (metadata : Option MediaMetadata) : Option UploadStore :=
  match metadata with
  | none => some s
  | some metadata =>
    if metadata.classification.tagKeys.all (· ∈ s.canonicalTagKeys) then
      (s.metadata.insert? (metadataRow metadata)).map fun rows =>
        { s with metadata := rows, tags := s.tags ++ canonicalTags metadata }
    else none

def orFailed (t : Option UploadStore) : Except UploadPublicationRepositoryError UploadStore :=
  match t with
  | some t => .ok t
  | none => .error .failed

def commitCatalogedPublication (id : UploadSessionId) (media : LogicalMedia)
    (location : MediaLocation) (expectedUploadVersion expectedPublicationVersion updatedAtMs : Int)
    (metadata : Option MediaMetadata) (s : UploadStore) :
    Except UploadPublicationRepositoryError (UploadPublicationCandidate × UploadStore) := do
  require (0 ≤ expectedUploadVersion && 0 ≤ expectedPublicationVersion && 0 ≤ updatedAtMs)
    .concurrencyConflict
  require (location.mediaId = media.id) .catalogStateConflict
  require (metadata.all fun metadata => metadata.mediaId = media.id && !metadata.hasGenres)
    .catalogStateConflict
  let candidate ← s.requireCandidate id
  match candidate.publication with
  | none => .error .notFound
  | some publication => do
    require (publication.matchesUpload candidate.upload.toUploadSessionRow) .evidenceConflict
    require (publication.mediaId.isNone = publication.mediaLocationId.isNone) .catalogInconsistency
    if candidate.upload.state = .cataloged ∧ publication.mediaId.isSome ∧
        publication.mediaLocationId.isSome then do
      require (s.catalogLinksResolve publication.toUploadPublicationRow) .catalogInconsistency
      .ok (candidate, s)
    else do
      require (candidate.upload.state ≠ .cataloged && publication.mediaId.isNone &&
        publication.mediaLocationId.isNone) .catalogInconsistency
      require (candidate.upload.state = .published && publication.state = .verified &&
        publication.cleanupState = .complete) .catalogStateConflict
      require (location.libraryId = publication.destinationId &&
        location.relativePath = publication.relativePath &&
        location.observedSizeBytes = some publication.expectedSizeBytes) .catalogStateConflict
      require (candidate.upload.version = expectedUploadVersion &&
        publication.version = expectedPublicationVersion) .concurrencyConflict
      let t₁ ← orFailed (s.insertMedia media)
      let t₂ ← orFailed (t₁.insertLocation location)
      let t₃ ← orFailed (t₂.insertMetadata metadata)
      let t₄ ← orConflict (t₃.updatePublication id
        (fun row => row.state = .verified && row.cleanupState = .complete && row.mediaId.isNone &&
          row.mediaLocationId.isNone && row.version = expectedPublicationVersion)
        (fun row => { row with
          mediaId := some media.id
          mediaLocationId := some location.id
          updatedAtMs
          version := row.version + 1 })
        (fun _ => rfl))
      let t₅ ← orConflict (t₄.updateSession id
        (fun row => row.state = .published && row.version = expectedUploadVersion)
        (fun row => { row with
          state := .cataloged
          updatedAtMs
          failureCode := none
          version := row.version + 1 })
        (fun _ => rfl))
      let committed ← t₅.requireCandidate id
      .ok (committed, t₅)

/- One row of `_detach_upload_publications`. -/
def detached (mediaId : MediaId) (row : UploadPublicationRow) : UploadPublicationRow :=
  if row.mediaId = some mediaId then { row with mediaId := none, mediaLocationId := none } else row

@[simp] theorem detached_uploadId (mediaId : MediaId) (row : UploadPublicationRow) :
    (detached mediaId row).uploadId = row.uploadId := by
  unfold detached
  split <;> rfl

def detachUploadPublications (s : UploadStore) (mediaId : MediaId) : UploadStore :=
  { s with publications := s.publications.updateAll (detached mediaId) (detached_uploadId mediaId) }

/-- What a catalog removal does to these tables, once its own checks have passed. -/
def removeMedia (mediaId : MediaId) (s : UploadStore) : UploadStore :=
  let s := s.detachUploadPublications mediaId
  { s with
    tags := s.tags.filter fun tag => tag.mediaId ≠ mediaId
    metadata := s.metadata.deleteWhere fun row => row.mediaId = mediaId
    locations := s.locations.deleteWhere fun location => location.mediaId = mediaId
    media := s.media.deleteWhere fun media => media.id = mediaId }

end UploadStore
end FrameNest.Uploads
