import FrameNest.Uploads.Surroundings

/-! Cataloging of one published upload: its medium, its location and its metadata in one
transaction. -/
namespace FrameNest.Uploads
open Plain Concurrent

structure UploadCatalogResult where
  uploadId : UploadSessionId
  state : UploadSessionState
  mediaId : Option MediaId
  mediaLocationId : Option MediaLocationId
deriving DecidableEq

def catalogResult (candidate : UploadPublicationCandidate) : UploadCatalogResult :=
  let linked := candidate.publication.filter fun publication =>
    publication.mediaId.isSome && publication.mediaLocationId.isSome &&
      candidate.upload.state = .cataloged
  { uploadId := candidate.upload.id
    state := candidate.upload.state
    mediaId := linked.bind fun publication => publication.mediaId
    mediaLocationId := linked.bind fun publication => publication.mediaLocationId }

/- `normalize_creator_stable_id`, `_handle` and `_display_name`: refused, dropped or kept. -/
def normalizeCreatorText (normalize : String → String) (maximum : Nat) :
    Option String → Option (Option String)
  | none => some none
  | some value =>
    if value.toList.any isControl then none
    else
      let normalized := normalize (strip value)
      if normalized = "" then some none
      else if normalized.toList.length > maximum then none
      else some (some normalized)

/- A stripped handle has no space in front of its first `@`. -/
def dropAtSigns (trimmed : String) : String :=
  String.ofList (trimmed.toList.dropWhile fun c => c = '@' || isSpace c)

/-- `validate_creator_attribution_fields`. -/
def validateCreatorAttributionFields (unicode : Unicode)
    (classification : CatalogUploadClassification) : Option CatalogUploadClassification := do
  let stableId ← normalizeCreatorText id 128 classification.creatorStableId
  let handle ← normalizeCreatorText (fun s => unicode.lower (dropAtSigns s)) 64
    classification.creatorHandle
  let displayName ← normalizeCreatorText unicode.nfc 200 classification.creatorDisplayName
  let named := stableId.isSome || handle.isSome || displayName.isSome
  if named = classification.creatorAttributionKind.isSome then
    some { classification with
      creatorStableId := stableId, creatorHandle := handle, creatorDisplayName := displayName }
  else none

def maxMediaTags : Nat := 32

/-- The `MediaMetadata` of a classified upload, or the constructor's refusal. -/
def classifiedMetadata (unicode : Unicode) (mediaId : MediaId)
    (classification : CatalogUploadClassification) (now : Int) : Option MediaMetadata :=
  if classification.tagKeys.length ≤ maxMediaTags ∧ classification.tagKeys.Nodup ∧ 0 ≤ now then
    (validateCreatorAttributionFields unicode classification).map fun classification =>
      { mediaId, classification, hasGenres := false, createdAtMs := now, updatedAtMs := now }
  else none

variable {α : Type}

def failCatalog (x : UploadCatalogError) : UploadProgram α := .fail (.catalog x)

def ensureCatalog (b : Bool) (x : UploadCatalogError) : UploadProgram Unit := demand b (.catalog x)

def catalogCandidateOf (id : UploadSessionId) : UploadProgram (Option UploadPublicationCandidate) :=
  repository (.getCandidate id)

/- Both links of a publication, or neither. -/
def isLinked (publication : UploadPublicationRow) : Bool :=
  publication.mediaId.isSome && publication.mediaLocationId.isSome

/- A candidate that is catalogued and says where. -/
def isCataloged (candidate : UploadPublicationCandidate) : Bool :=
  candidate.upload.state = .cataloged &&
    candidate.publication.any fun publication => isLinked publication.toUploadPublicationRow

def classificationFor (id : UploadSessionId) :
    UploadProgram (Option CatalogUploadClassification) := Program.perform (UploadEffect.classify id)

namespace UploadServices
variable (S : UploadServices)

/- None without a classification, and an exception when the constructor refuses one. -/
def metadataFor (id : UploadSessionId) (mediaId : MediaId) (now : Int) :
    UploadProgram (Option MediaMetadata) := do
  let classification ← classificationFor id
  match classification with
  | none => .done none
  | some classification =>
    match classifiedMetadata S.unicode mediaId classification now with
    | some metadata => .done (some metadata)
    | none => .fail .other

def catalogedLocation (publication : UploadPublicationRow) (locationId : MediaLocationId)
    (mediaId : MediaId) (now : Int) : MediaLocation :=
  { id := locationId, mediaId
    libraryId := publication.destinationId
    relativePath := publication.relativePath
    availability := .available
    observedSizeBytes := some publication.expectedSizeBytes
    observedMtimeNs := none
    createdAtMs := now
    updatedAtMs := now }

/- The commit, and what another owner of the upload has committed when it conflicts. -/
def commitCataloged (id : UploadSessionId) (candidate : UploadPublicationCandidate)
    (publication : UploadPublication) (media : LogicalMedia) (location : MediaLocation)
    (now : Int) (metadata : Option MediaMetadata) : UploadProgram UploadCatalogResult := do
  let committed ← (repository (.commitCatalogedPublication id media location
      candidate.upload.version publication.version now metadata)).rescue fun
    | .repository (.publication .concurrencyConflict) => do
      let current ← catalogCandidateOf id
      match current.filter isCataloged with
      | some current => .done current
      | none => .fail (.repository (.publication .concurrencyConflict))
    | x => .fail x
  .done (catalogResult committed)

def catalogPublished (id : UploadSessionId) (candidate : UploadPublicationCandidate)
    (publication : UploadPublication) (kind : UploadValidatedMediaKind) :
    UploadProgram UploadCatalogResult := do
  let now ← readClock
  let mediaId ← newIdentity .media
  -- the constructors of the medium and its location refuse a clock before the epoch
  if now < 0 then .fail .other
  else do
    let media : LogicalMedia := ⟨mediaId, kind.toMediaKind, now, now⟩
    let locationId ← newIdentity .mediaLocation
    let metadata ← S.metadataFor id mediaId now
    commitCataloged id candidate publication media
      (catalogedLocation publication.toUploadPublicationRow locationId mediaId now) now metadata

def catalogCandidate (id : UploadSessionId) : UploadProgram UploadCatalogResult := do
  let found ← catalogCandidateOf id
  match found with
  | none => failCatalog .notFound
  | some candidate =>
    match candidate.publication with
    | none => failCatalog .notFound
    | some publication => do
      ensureCatalog (publication.mediaId.isNone = publication.mediaLocationId.isNone) .inconsistency
      if isCataloged candidate then .done (catalogResult candidate)
      else do
        ensureCatalog (candidate.upload.state ≠ .cataloged && publication.mediaId.isNone &&
          publication.mediaLocationId.isNone) .inconsistency
        ensureCatalog (candidate.upload.state = .published && publication.state = .verified &&
          publication.cleanupState = .complete) .state
        match candidate.upload.validatedMediaKind with
        | none => failCatalog .state
        | some kind => S.catalogPublished id candidate publication kind

/- The `except` clauses of `catalog_owned_blocking`. -/
def catalogErrorOf : UploadError → UploadError
  | .repository (.publication .catalogInconsistency) => .catalog .inconsistency
  | .repository (.publication .catalogStateConflict) => .catalog .state
  | .repository (.publication .notFound) => .catalog .notFound
  | .repository (.publication _) => .catalog .infrastructure
  | x => x

def catalogOwnedBlocking (id : UploadSessionId) : UploadProgram UploadCatalogResult :=
  (S.catalogCandidate id).rescue fun x => .fail (catalogErrorOf x)

end UploadServices
end FrameNest.Uploads
