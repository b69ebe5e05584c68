import FrameNest.Metadata.Catalog
import FrameNest.Text.Json

/-! `save_media_metadata`: one complete replacement, merged with what is stored. -/
namespace FrameNest.Metadata
open Relational

/-- A field of a request that may be left out. -/
inductive Omittable (α : Type) where
  | omitted
  | null
  | value (a : α)
deriving DecidableEq

namespace Omittable
variable {α : Type}

def toOption : Omittable α → Option α
  | value a => some a
  | omitted | null => none

/- `current if provided in (None, OMITTED) else provided`. -/
def orCurrent (current : Option α) : Omittable α → Option α
  | value a => some a
  | omitted | null => current

end Omittable

structure SaveRequest where
  displayTitle : Option MediaDisplayTitle
  description : Option MediaDescription
  tagKeys : List CanonicalTagKey
  nowMs : Int
  contentCategory : Omittable ContentCategory
  acquisitionSource : Option AcquisitionSource
  genreKeys : List MovieGenre
  creatorAttributionKind : Omittable CreatorAttributionKind
  creatorStableId : Omittable String
  creatorHandle : Omittable String
  creatorDisplayName : Omittable String

/- The provided creator fields, those left out as null. -/
def SaveRequest.creator (request : SaveRequest) : Creator :=
  ⟨request.creatorAttributionKind.toOption, request.creatorStableId.toOption,
    request.creatorHandle.toOption, request.creatorDisplayName.toOption⟩

inductive SaveStatus where
  | created | updated | unchanged
deriving DecidableEq

section Resolving

/- `_resolve_x_source_field`. -/
def resolveXSourceField {α : Type} [DecidableEq α] (field : String) (current : Option α) :
    Omittable α → Except Failure (Option α)
  | .omitted => .ok current
  | .null => if current.isNone then .ok none else .error (.sourceDerivedImmutable field)
  | .value a =>
    if current = some a then .ok current else .error (.sourceDerivedImmutable field)

def resolveXCreator (current : Creator) (request : SaveRequest) : Except Failure Creator := do
  let kind ← resolveXSourceField "creator attribution kind" current.kind
    request.creatorAttributionKind
  let stableId ← resolveXSourceField "creator stable id" current.stableId request.creatorStableId
  let handle ← resolveXSourceField "creator handle" current.handle request.creatorHandle
  let displayName ← resolveXSourceField "creator display name" current.displayName
    request.creatorDisplayName
  return ⟨kind, stableId, handle, displayName⟩

def resolveCreator (current : Creator) (request : SaveRequest) : Creator :=
  ⟨request.creatorAttributionKind.orCurrent current.kind,
    request.creatorStableId.orCurrent current.stableId,
    request.creatorHandle.orCurrent current.handle,
    request.creatorDisplayName.orCurrent current.displayName⟩

/-- What a save stores beside title, description and tags. -/
structure Resolved where
  acquisitionSource : AcquisitionSource
  contentCategory : ContentCategory
  creator : Creator

/- The source, category and creator of a save: of a persisted row the source never changes,
   and neither do the creator fields when it is an X row. -/
def resolve (current : MediaMetadataSnapshot) (request : SaveRequest) : Except Failure Resolved := do
  if current.persisted then do
    require (request.acquisitionSource.all fun source => source = current.acquisitionSource)
      .acquisitionSourceImmutable
    let category := (request.contentCategory.orCurrent (some current.contentCategory)).getD
      current.contentCategory
    if current.acquisitionSource = .xManualClaim then do
      let creator ← resolveXCreator current.creator request
      return ⟨current.acquisitionSource, category, creator⟩
    else return ⟨current.acquisitionSource, category, resolveCreator current.creator request⟩
  else return ⟨request.acquisitionSource.getD defaultAcquisitionSource,
    request.contentCategory.toOption.getD defaultContentCategory, request.creator⟩

end Resolving

section Receipts
variable (lib : Library)

/-- A value a receipt can be for. -/
inductive FieldValue where
  | text (s : Option String)
  | tags (keys : List String)
deriving DecidableEq

/- The canonical JSON of one receipt field. -/
def FieldValue.json : FieldValue → Json
  | .text none => .null
  | .text (some s) => .str s
  | .tags keys => .arr (keys.map .str)

/- `canonical_field_digest`. -/
def canonicalFieldDigest (value : FieldValue) : String := lib.sha256 (Json.dumps value.json)

/- The digest a receipt must carry to be current; a null text has none. -/
def currentDigest (displayTitle description : Option String) (tagKeys : List String) :
    ReviewField → Option String
  | .displayTitle => displayTitle.map fun s => canonicalFieldDigest lib (.text (some s))
  | .description => description.map fun s => canonicalFieldDigest lib (.text (some s))
  | .tags => some (canonicalFieldDigest lib (.tags tagKeys))

/- `_delete_stale_companion_receipts`. -/
def deleteStaleCompanionReceipts (displayTitle description : Option String) (tagKeys : List String)
    (m : Medium) : Medium :=
  { m with fieldSources := m.fieldSources.deleteWhere fun row =>
      currentDigest lib displayTitle description tagKeys row.fieldName ≠ some row.valueDigest }

/- `_delete_removed_companion_tag_sources`. -/
def deleteRemovedCompanionTagSources (tagKeys : List String) (m : Medium) : Medium :=
  { m with tagSources := m.tagSources.deleteWhere fun row => !tagKeys.contains row.tagKey }

end Receipts

section Save
variable (lib : Library) (outside : Outside)

/- The checks a save makes before its transaction. -/
def checkSave (request : SaveRequest) : Except Failure Unit := do
  require (request.tagKeys.length ≤ maxMediaTags && request.tagKeys.Nodup) .valueError
  let _ ← validateCreatorAttributionFields lib request.creator
  require (request.genreKeys.length ≤ maxMediaGenres && request.genreKeys.Nodup) .valueError

/- The early exit: what a save would store is what is stored. -/
def isUnchanged (current : MediaMetadataSnapshot) (request : SaveRequest) (resolved : Resolved)
    (genres : List MovieGenre) (derived : CollectionState) : Bool :=
  current.persisted && current.displayTitle = request.displayTitle &&
    current.description = request.description && current.tagKeys = request.tagKeys &&
    current.collectionKey = derived.collectionKey &&
    current.processedAtMs = derived.processedAtMs &&
    current.contentCategory = resolved.contentCategory &&
    current.acquisitionSource = resolved.acquisitionSource && current.genreKeys = genres &&
    current.creator = resolved.creator

def savedRow (request : SaveRequest) (resolved : Resolved) (derived : CollectionState)
    (createdAtMs : Int) : MetadataRow where
  displayTitle := request.displayTitle.map MediaDisplayTitle.value
  description := request.description.map MediaDescription.value
  contentCategory := resolved.contentCategory
  acquisitionSource := resolved.acquisitionSource
  creator := resolved.creator
  collectionKey := derived.collectionKey
  processedAtMs := derived.processedAtMs
  createdAtMs := createdAtMs
  updatedAtMs := request.nowMs

/- UPDATE of a row that is there, else INSERT. -/
def storeRow (persisted : Bool) (row : MetadataRow) (m : Medium) : Except Failure Medium :=
  if persisted then updateMetadata row m else insertMetadata row m

/- The statements of a save that changes something. -/
def writeSave (request : SaveRequest) (current : MediaMetadataSnapshot) (resolved : Resolved)
    (genres : List MovieGenre) (derived : CollectionState) (m : Medium) : Except Failure Medium := do
  let row := savedRow request resolved derived (current.createdAtMs.getD request.nowMs)
  let keys := request.tagKeys.map CanonicalTagKey.value
  let stored ← storeRow current.persisted row m
  let tagged ← insertAssignments outside keys 0 (deleteGenres (deleteAssignments stored))
  let filled ← insertGenres genres 0 tagged
  return deleteRemovedCompanionTagSources keys
    (deleteStaleCompanionReceipts lib row.displayTitle row.description keys filled)

/- The operation of a save, on a medium that exists. -/
def saveOperation (request : SaveRequest) (m : Medium) : Except Failure (SaveStatus × Medium) := do
  require (request.tagKeys.all fun key =>
    (outside.canonicalTags.map CanonicalTagView.key).contains key.value) .canonicalTagNotFound
  let current ← loadMetadataSnapshot lib m
  let resolved ← resolve current request
  let genres := normalizeGenresForCategory resolved.contentCategory request.genreKeys
  let derived ← deriveCollectionState current.collectionKey current.processedAtMs
    (request.tagKeys ≠ []) request.nowMs
  if isUnchanged current request resolved genres derived then return (.unchanged, m)
  let m' ← writeSave lib outside request current resolved genres derived m
  return (if current.persisted then .updated else .created, m')

/- `save_media_metadata`. -/
def saveMediaMetadata (mediaId : String) (request : SaveRequest) (w : Catalog) :
    Except Failure (SaveStatus × Catalog) := do
  checkSave lib request
  match Named.get? w mediaId with
  | none => .error .mediaNotFound
  | some m => do
    let saved ← saveOperation lib outside request m
    return (saved.1, Named.set w mediaId saved.2)

end Save
end FrameNest.Metadata
