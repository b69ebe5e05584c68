import FrameNest.Content.ByteRanges
import FrameNest.Metadata.Values
import FrameNest.Relational.Paging
import FrameNest.Text.Like
import FrameNest.X.Claims
import Mathlib.Data.List.Dedup
import Mathlib.Data.List.Perm.Subperm
import Mathlib.Data.Nat.Digits.Defs
import Mathlib.Data.Prod.Lex
import Mathlib.Order.WithBot

/-! The searchable media catalog: the rows it reads, the listing of `list_media` under a scope and
its filters, and what is displayed of every medium listed. -/
namespace FrameNest.Gallery
open Metadata Relational
open Uploads (MediaLocationAvailability)

section Rows

structure LogicalMedia where
  id : MediaId
  mediaKind : Uploads.MediaKind
  createdAtMs : Nat
  updatedAtMs : Nat
  /-- SQLite holds 64-bit integers. -/
  created_fits : createdAtMs < 2 ^ 63
deriving DecidableEq

structure MediaMetadata where
  mediaId : MediaId
  displayTitle : Option MediaDisplayTitle
  description : Option String
  contentCategory : ContentCategory
  acquisitionSource : AcquisitionSource
  creator : Creator
  collectionKey : Option MediaCollectionKey
  processedAtMs : Option Nat
deriving DecidableEq

structure CanonicalTag where
  key : String
  displayName : String
deriving DecidableEq

structure MediaCanonicalTag where
  mediaId : MediaId
  tagKey : String
  position : Nat
deriving DecidableEq

structure PhysicalMediaLocation where
  id : String
  mediaId : MediaId
  libraryId : String
  relativePath : String
  availability : MediaLocationAvailability
  observedSizeBytes : Option Int
  observedMtimeNs : Option Int
deriving DecidableEq

structure XAsset where
  id : String
  claimId : String
  state : X.XAssetState
  mediaId : Option MediaId
  completedAtMs : Option Nat
deriving DecidableEq

structure XPostClaim where
  id : String
  createdByLoginKey : Option String
  requestedContentCategory : Option ContentCategory
  title : Option String
  xPostId : String
deriving DecidableEq

inductive RecordVisibility where
  | private_ | family
deriving DecidableEq

structure KronikaRecord where
  id : String
  ownerLoginKey : String
  visibility : RecordVisibility
  mediaId : Option MediaId
  completedAtMs : Option Nat
  approvedProjectionJson : Option String
  /- `ck_kronika_records_approval` and `ck_kronika_records_family_requires_approval`. -/
  family_approved : visibility = .family →
    approvedProjectionJson.isSome = true ∧ completedAtMs.isSome = true
deriving DecidableEq

structure KronikaApprovedMedia where
  recordId : String
  mediaId : MediaId
  contentCategory : ContentCategory
  acquisitionSource : AcquisitionSource
  displayTitle : MediaDisplayTitle
  description : String
  creator : Creator
  coverArtifactDigest : Option String
deriving DecidableEq

structure KronikaApprovedTag where
  recordId : String
  tagKey : String
  displayName : String
  position : Nat
deriving DecidableEq

structure KronikaApprovedLocation where
  recordId : String
  locationId : String
  libraryId : String
  relativePath : String
  availability : MediaLocationAvailability
  observedSizeBytes : Option Int
  observedMtimeNs : Option Int
deriving DecidableEq

/-- The tables of the catalog, with the constraints that the listing rests on. -/
structure Catalog where
  media : Table LogicalMedia.id
  metadata : Table MediaMetadata.mediaId
  canonicalTags : Table CanonicalTag.key
  mediaTags : List MediaCanonicalTag
  publications : List MediaId
  locations : Table PhysicalMediaLocation.id
  xAssets : Table XAsset.id
  xPostClaims : Table XPostClaim.id
  records : Table KronikaRecord.id
  approved : Table KronikaApprovedMedia.recordId
  approvedTags : List KronikaApprovedTag
  approvedLocations : List KronikaApprovedLocation
  tags_described : ∀ tag ∈ mediaTags, tag.mediaId ∈ metadata.rows.map MediaMetadata.mediaId
  tags_canonical : ∀ tag ∈ mediaTags, tag.tagKey ∈ canonicalTags.rows.map CanonicalTag.key
  one_record : ∀ r ∈ records.rows, ∀ r' ∈ records.rows, r.mediaId.isSome = true →
    r.mediaId = r'.mediaId → r = r'
  /-- An approval writes its snapshot, under the record and its medium. -/
  approved_recorded : ∀ a ∈ approved.rows, ∃ r ∈ records.rows, r.id = a.recordId ∧
    r.mediaId = some a.mediaId
  approval_written : ∀ r ∈ records.rows, r.mediaId.isSome = true →
    r.approvedProjectionJson.isSome = true → ∃ a ∈ approved.rows, a.recordId = r.id

end Rows

section Queries

/-- `RecordAccessScope`. -/
inductive RecordAccessScope where
  | deny
  | member (ownerLoginKey : String)
  | administrator (ownerLoginKey : String)
  | legacyPublic
deriving DecidableEq

/-- What `_normalize_title_query` lets through. -/
structure TitleQuery where
  value : String
  nonempty : value ≠ ""
  printable : value.toList.any Plain.isControl = false

instance : DecidableEq TitleQuery
  | ⟨a, _, _⟩, ⟨b, _, _⟩ => decidable_of_iff (a = b) (by simp)

structure MediaCatalogQuery where
  q : Option TitleQuery
  tagKeys : List CanonicalTagKey
  limit : Nat
  offset : Nat
  collectionKey : Option MediaCollectionKey
  contentCategory : Option ContentCategory
  acquisitionSource : Option AcquisitionSource
  creatorAttributionKind : Option CreatorAttributionKind
  creatorStableId : Option String
  creatorHandle : Option String
  publishedOnly : Bool
  companionAudienceLoginKey : Option String
  companionKinds : List Uploads.MediaKind
  cursorCreatedAtMs : Option Nat
  cursorMediaId : Option MediaId
  accessScope : Option RecordAccessScope
  /- Both services refuse a limit below one. -/
  limit_pos : 0 < limit

namespace MediaCatalogQuery

def companion (q : MediaCatalogQuery) : Bool := q.companionAudienceLoginKey.isSome

/- `_member_login`. -/
def memberLogin (q : MediaCatalogQuery) : Option String :=
  match q.accessScope with
  | some (.member login) => some login
  | _ => none

/- `access_scope is None or not access_scope.allows_queries`. -/
def denied (q : MediaCatalogQuery) : Bool := q.accessScope = none || q.accessScope = some .deny

def distinct : List String → List CanonicalTagKey → List String
  | values, [] => values
  | values, key :: keys =>
    if key.value ∈ values then distinct values keys else distinct (values ++ [key.value]) keys

/- `_distinct_tag_values`. -/
def tagValues (q : MediaCatalogQuery) : List String := distinct [] q.tagKeys

/- `_like_pattern`. -/
def likePattern (value : String) : List Char := '%' :: Like.escaped '\\' value.toList ++ ['%']

end MediaCatalogQuery
end Queries

section Display

structure CatalogMediaTag where
  key : String
  displayName : String
  position : Nat
deriving DecidableEq

structure CatalogMediaLocation where
  locationId : String
  libraryId : String
  relativePath : String
  availability : MediaLocationAvailability
  observedSizeBytes : Option Int
  observedMtimeNs : Option Int
deriving DecidableEq

inductive ReadProjection where
  | current | approved
deriving DecidableEq

structure CatalogMediaItem where
  mediaId : MediaId
  mediaKind : Uploads.MediaKind
  createdAtMs : Nat
  updatedAtMs : Nat
  displayTitle : Option String
  collectionKey : Option MediaCollectionKey
  processedAtMs : Option Nat
  tags : List CatalogMediaTag
  locations : List CatalogMediaLocation
  contentCategory : ContentCategory
  acquisitionSource : AcquisitionSource
  description : Option String
  coverReady : Bool
  creator : Creator
  readProjection : ReadProjection
deriving DecidableEq

structure MediaCatalogPage where
  items : List CatalogMediaItem
  total : Nat
  nextCursor : Option String
deriving DecidableEq

/-- A row of the outer join of the media with their metadata. -/
structure Row where
  media : LogicalMedia
  metadata : Option MediaMetadata
deriving DecidableEq

def Row.id (row : Row) : MediaId := row.media.id

variable (cat : Catalog)

/- `_load_tags` of one medium: the inner join with the tags' own rows. -/
def Catalog.loadTags (id : MediaId) : List CatalogMediaTag :=
  listing (fun tag => toLex (tag.position, tag.key))
    ((cat.mediaTags.filter fun tag => tag.mediaId = id).filterMap fun tag =>
      (cat.canonicalTags.find? tag.tagKey).map fun own => ⟨own.key, own.displayName, tag.position⟩)

/- `_load_locations` of one medium. -/
def Catalog.loadLocations (id : MediaId) : List CatalogMediaLocation :=
  listing (fun l => toLex (l.libraryId, toLex (l.relativePath, l.locationId)))
    ((cat.locations.rows.filter fun l => l.mediaId = id).map fun l =>
      ⟨l.id, l.libraryId, l.relativePath, l.availability, l.observedSizeBytes, l.observedMtimeNs⟩)

/- The item built of a row. -/
def Catalog.currentItem (row : Row) : CatalogMediaItem where
  mediaId := row.media.id
  mediaKind := row.media.mediaKind
  createdAtMs := row.media.createdAtMs
  updatedAtMs := row.media.updatedAtMs
  displayTitle := (row.metadata.bind MediaMetadata.displayTitle).map MediaDisplayTitle.value
  collectionKey := row.metadata.bind MediaMetadata.collectionKey
  processedAtMs := row.metadata.bind MediaMetadata.processedAtMs
  tags := cat.loadTags row.media.id
  locations := cat.loadLocations row.media.id
  contentCategory := (row.metadata.map MediaMetadata.contentCategory).getD .general
  acquisitionSource := (row.metadata.map MediaMetadata.acquisitionSource).getD .unknown
  description := row.metadata.bind MediaMetadata.description
  coverReady := false
  creator := (row.metadata.map MediaMetadata.creator).getD .absent
  readProjection := .current

/- The record joined to a snapshot, of another owner and in the family. -/
def Catalog.sharedBy (login : String) (a : KronikaApprovedMedia) : Bool :=
  (cat.records.find? a.recordId).any fun r => r.ownerLoginKey ≠ login && r.visibility = .family

/- `_approved_overlay` of one medium. -/
def Catalog.approvedOverlay (login : Option String) (id : MediaId) : Option KronikaApprovedMedia :=
  match login with
  | none => none
  | some login => cat.approved.rows.find? fun a => a.mediaId = id && cat.sharedBy login a

def Catalog.approvedTagsOf (recordId : String) : List CatalogMediaTag :=
  listing (fun tag => toLex (tag.position, tag.key))
    ((cat.approvedTags.filter fun tag => tag.recordId = recordId).map fun tag =>
      ⟨tag.tagKey, tag.displayName, tag.position⟩)

def Catalog.approvedLocationsOf (recordId : String) : List CatalogMediaLocation :=
  (cat.approvedLocations.filter fun l => l.recordId = recordId).map fun l =>
    ⟨l.locationId, l.libraryId, l.relativePath, l.availability, l.observedSizeBytes,
      l.observedMtimeNs⟩

/- `_apply_approved_overlay`. -/
def Catalog.applyApprovedOverlay (item : CatalogMediaItem) :
    Option KronikaApprovedMedia → CatalogMediaItem
  | none => item
  | some a =>
    { item with
      displayTitle := some a.displayTitle.value
      description := some a.description
      contentCategory := a.contentCategory
      acquisitionSource := a.acquisitionSource
      creator := a.creator
      tags := cat.approvedTagsOf a.recordId
      locations := cat.approvedLocationsOf a.recordId
      collectionKey := none
      processedAtMs := none
      readProjection := .approved
      coverReady := a.coverArtifactDigest.isSome }

/-- What is displayed of a row. -/
def Catalog.displayed (login : Option String) (row : Row) : CatalogMediaItem :=
  cat.applyApprovedOverlay (cat.currentItem row) (cat.approvedOverlay login row.id)

end Display
section Predicates
variable (cat : Catalog)

/- `record_bound_to_media`. -/
def Catalog.bound (id : MediaId) : Bool := cat.records.rows.any fun r => r.mediaId = some id

def Catalog.published (id : MediaId) : Bool := id ∈ cat.publications

def Catalog.own (login : String) (id : MediaId) : Bool :=
  cat.records.rows.any fun r => r.mediaId = some id && r.ownerLoginKey = login

/- `legacy_public_media_predicate`. -/
def Catalog.legacyPublic (id : MediaId) : Bool := cat.published id && !cat.bound id

/- `member_current_media_predicate`. -/
def Catalog.memberCurrent (login : String) (id : MediaId) : Bool := cat.own login id || !cat.bound id

/- `member_approved_media_predicate`. -/
def Catalog.memberApproved (login : String) (id : MediaId) : Bool :=
  cat.records.rows.any fun r => r.mediaId = some id && r.ownerLoginKey ≠ login &&
    r.visibility = .family && r.approvedProjectionJson.isSome && r.completedAtMs.isSome

def Catalog.unboundPublishedOrOwned (login : String) (id : MediaId) : Bool :=
  cat.own login id || cat.memberApproved login id || cat.published id

/- `catalog_scope_predicate`. -/
def Catalog.scope (scope : Option RecordAccessScope) (id : MediaId) : Bool :=
  match scope with
  | none | some .deny => false
  | some (.administrator _) => true
  | some .legacyPublic => cat.legacyPublic id
  | some (.member login) => cat.memberCurrent login id || cat.memberApproved login id

/- `_companion_audience_predicate`. -/
def Catalog.companionAudience (login : String) (id : MediaId) : Bool :=
  cat.published id || cat.xAssets.rows.any fun asset =>
    asset.mediaId = some id && asset.state = .cataloged &&
      (cat.xPostClaims.find? asset.claimId).any fun claim => claim.createdByLoginKey = some login

/- `SUPPORTED_MEDIA_CONTENT`. -/
def supportedMediaContent : List (Uploads.MediaKind × String) :=
  [(.video, ".mp4"), (.animatedImage, ".gif"), (.image, ".jpg"), (.image, ".jpeg"), (.image, ".png")]

/- SQLite `substr(s, start)`; a negative start counts from the end. -/
def substr (s : List Char) (start : Int) : List Char :=
  if start < 0 then s.drop (s.length - start.natAbs) else s.drop (start.toNat - 1)

/- `_supported_companion_location_exists`. -/
def Catalog.supportedLocation (medium : LogicalMedia) : Bool :=
  cat.locations.rows.any fun l => l.mediaId = medium.id &&
    supportedMediaContent.any fun (kind, extension) =>
      medium.mediaKind = kind && l.availability = .available &&
        ((substr l.relativePath.toList
          (l.relativePath.toList.length - extension.toList.length + 1)).map Like.lower) =
            extension.toList

variable (q : MediaCatalogQuery)

/- The audience of the companion picker, as its requester or as a member. -/
def Catalog.audience (id : MediaId) : Bool :=
  match q.companionAudienceLoginKey, q.memberLogin with
  | none, _ => true
  | some login, none => cat.companionAudience login id
  | some _, some member => cat.own member id || (!cat.bound id && cat.companionAudience member id) ||
      cat.memberApproved member id

def Catalog.companionKind (medium : LogicalMedia) : Bool :=
  let kinds := if q.companionKinds = [] then [.image, .animatedImage, .video] else q.companionKinds
  !q.companion || (medium.mediaKind ∈ kinds && cat.supportedLocation medium)

/- What the member's gallery holds, and of it what is published. -/
def Catalog.gallery (id : MediaId) : Bool :=
  match q.memberLogin with
  | some member => q.companion || (cat.unboundPublishedOrOwned member id &&
      (!q.publishedOnly || cat.memberApproved member id || cat.published id))
  | none => q.companion || !q.publishedOnly || cat.published id

/- The collection of the query; a snapshot is in none. -/
def Catalog.collected (row : Row) : Bool :=
  q.collectionKey.all fun key =>
    q.memberLogin.all (fun member => cat.memberCurrent member row.id) &&
      row.metadata.any fun m => m.collectionKey = some key

/-- The listing that the filters choose from: everything the query says beside them. -/
def Catalog.inView (row : Row) : Bool :=
  cat.collected q row && cat.audience q row.id && cat.companionKind q row.media &&
    cat.scope q.accessScope row.id && cat.gallery q row.id

/- The row itself for one who sees the current media, and for a member the row where it is shown
and the snapshot where that is shown. A comparison with NULL is as good as a false one here, since
none of them stands under a NOT. -/
def Catalog.byProjection (id : MediaId) (live approved : Bool) : Bool :=
  match q.memberLogin with
  | none => live
  | some member => (cat.memberCurrent member id && live) || (cat.memberApproved member id && approved)

/- The snapshot of a medium, whosever it is. -/
def Catalog.approvedOf (id : MediaId) : Option KronikaApprovedMedia :=
  cat.approved.rows.find? fun a => a.mediaId = id

def Catalog.titleFilter (row : Row) : Bool :=
  q.q.all fun wanted =>
    let like := fun title : MediaDisplayTitle =>
      Like.accepts '\\' (MediaCatalogQuery.likePattern wanted.value) title.value.toList
    cat.byProjection q row.id (row.metadata.any fun m => m.displayTitle.any like)
      ((cat.approvedOf row.id).any fun a => like a.displayTitle)

def Catalog.categoryFilter (row : Row) : Bool :=
  q.contentCategory.all fun wanted =>
    cat.byProjection q row.id (row.metadata.any fun m => m.contentCategory = wanted)
      ((cat.approvedOf row.id).any fun a => a.contentCategory = wanted)

def Catalog.sourceFilter (row : Row) : Bool :=
  q.acquisitionSource.all fun wanted =>
    cat.byProjection q row.id (row.metadata.any fun m => m.acquisitionSource = wanted)
      ((cat.approvedOf row.id).any fun a => a.acquisitionSource = wanted)

/-- The creator asked for, by the stable identity where there is one and else by the handle. -/
def MediaCatalogQuery.creatorMatch (q : MediaCatalogQuery) (creator : Creator) : Bool :=
  match q.creatorAttributionKind, q.creatorStableId, q.creatorHandle with
  | some kind, some stableId, _ => creator.kind = some kind && creator.stableId = some stableId
  | some kind, none, some handle => creator.kind = some kind && creator.handle = some handle
  | _, _, _ => true

def MediaCatalogQuery.asksCreator (q : MediaCatalogQuery) : Bool :=
  q.creatorAttributionKind.isSome && (q.creatorStableId.isSome || q.creatorHandle.isSome)

def Catalog.creatorFilter (row : Row) : Bool :=
  !q.asksCreator ||
    cat.byProjection q row.id (row.metadata.any fun m => q.creatorMatch m.creator)
      ((cat.approvedOf row.id).any fun a => q.creatorMatch a.creator)

def Catalog.hasTag (id : MediaId) (key : String) : Bool :=
  cat.mediaTags.any fun tag => tag.mediaId = id && tag.tagKey = key

/- `_approved_tags_cover`, of one key. -/
def Catalog.approvedHasTag (id : MediaId) (key : String) : Bool :=
  cat.approved.rows.any fun a => a.mediaId = id &&
    cat.approvedTags.any fun tag => tag.recordId = a.recordId && tag.tagKey = key

/- The tags asked for by a member; one who sees the current media joins and counts them. -/
def Catalog.memberTags (row : Row) : Bool :=
  q.tagValues = [] || q.memberLogin.all fun member =>
    (cat.memberCurrent member row.id && q.tagValues.all (cat.hasTag row.id)) ||
      (cat.memberApproved member row.id && q.tagValues.all (cat.approvedHasTag row.id))

end Predicates

section Statements
variable (cat : Catalog) (q : MediaCatalogQuery)

/- `logical_media LEFT OUTER JOIN media_metadata`. -/
def Catalog.joined : List Row :=
  cat.media.rows.map fun medium => ⟨medium, cat.metadata.find? medium.id⟩

/- `JOIN media_canonical_tags .. WHERE tag_key IN values GROUP BY .. HAVING count(distinct tag_key) =
the number of values`. -/
def Catalog.tagged (values : List String) (rows : List Row) : List Row :=
  let found := (rows.flatMap fun row => (cat.mediaTags.filter fun tag => tag.mediaId = row.id).map
    fun tag => (row, tag)).filter fun pair => pair.2.tagKey ∈ values
  (found.map Prod.fst).dedup.filter fun row =>
    ((found.filter fun pair => pair.1 = row).map fun pair => pair.2.tagKey).dedup.length =
      values.length

/-- `_filtered_media_select`. -/
def Catalog.selected : List Row :=
  let rows := cat.joined.filter fun row =>
    cat.inView q row && cat.titleFilter q row && cat.categoryFilter q row && cat.sourceFilter q row &&
      cat.creatorFilter q row && cat.memberTags q row
  if q.tagValues ≠ [] && q.memberLogin.isNone then cat.tagged q.tagValues rows else rows

def creationKey (row : Row) : Natᵒᵈ ×ₗ String :=
  toLex (OrderDual.toDual row.media.createdAtMs, row.id.value)

/- NULL comes first. -/
def processedKey (row : Row) : WithBot Nat ×ₗ String :=
  toLex (row.metadata.bind MediaMetadata.processedAtMs, row.id.value)

/- `ORDER BY created_at_ms DESC, id`, or in a collection `ORDER BY processed_at_ms, id`. -/
def MediaCatalogQuery.ordered (q : MediaCatalogQuery) (rows : List Row) : List Row :=
  if q.companion || q.collectionKey.isNone then listing creationKey rows
  else listing processedKey rows

/- The rows behind the cursor of a companion. -/
def MediaCatalogQuery.behindCursor (q : MediaCatalogQuery) (row : Row) : Bool :=
  match q.companion, q.cursorCreatedAtMs, q.cursorMediaId with
  | true, some createdAtMs, some mediaId =>
    row.media.createdAtMs < createdAtMs ||
      (row.media.createdAtMs = createdAtMs && mediaId.value < row.id.value)
  | _, _, _ => true

def cursorText (createdAtMs : Nat) (mediaId : String) : String :=
  String.ofList (Nat.toDigits 10 createdAtMs ++ ':' :: mediaId.toList)

/-- `list_media`. -/
def Catalog.listMedia : MediaCatalogPage :=
  if q.denied then ⟨[], 0, none⟩
  else
    let filtered := cat.selected q
    let ordered := q.ordered (filtered.filter q.behindCursor)
    let fetched := if q.companion then ordered.take (q.limit + 1) else slice q.limit q.offset ordered
    let more := q.companion && decide (q.limit < fetched.length)
    let pageRows := if more then fetched.take q.limit else fetched
    { items := pageRows.map (cat.displayed q.memberLogin)
      total := filtered.length
      nextCursor := if more then pageRows.getLast?.map fun last =>
        cursorText last.media.createdAtMs last.id.value else none }

/- `_parse_companion_cursor` of a text: what stands before the first colon, and after it. -/
def parseCompanionCursor (value : String) : Except Unit (Nat × MediaId) :=
  let created := value.toList.takeWhile (· ≠ ':')
  match value.toList.dropWhile (· ≠ ':') with
  | [] => .error ()
  | _ :: rest =>
    match Content.parseNonNegativeInt created with
    | none => .error ()
    | some createdAtMs =>
      if h : isUuid4Text (String.ofList rest) = true then .ok (createdAtMs, ⟨String.ofList rest, h⟩)
      else .error ()

end Statements

section Meaning
variable (cat : Catalog) (q : MediaCatalogQuery)

namespace MediaCatalogQuery

/-- The query without its filters. -/
def unfiltered (q : MediaCatalogQuery) : MediaCatalogQuery :=
  { q with
    q := none
    tagKeys := []
    contentCategory := none
    acquisitionSource := none
    creatorAttributionKind := none
    creatorStableId := none
    creatorHandle := none }

def atOffset (q : MediaCatalogQuery) (offset : Nat) : MediaCatalogQuery := { q with offset := offset }

def behind (q : MediaCatalogQuery) (cursor : Option (Nat × MediaId)) : MediaCatalogQuery :=
  { q with cursorCreatedAtMs := cursor.map Prod.fst, cursorMediaId := cursor.map Prod.snd }

/-- What is displayed satisfies the filters. -/
def Shown (q : MediaCatalogQuery) (item : CatalogMediaItem) : Bool :=
  (q.q.all fun wanted => item.displayTitle.any fun title =>
      Like.Contains wanted.value.toList title.toList) &&
    (q.contentCategory.all fun wanted => item.contentCategory = wanted) &&
    (q.acquisitionSource.all fun wanted => item.acquisitionSource = wanted) &&
    q.creatorMatch item.creator &&
    q.tagKeys.all fun key => key.value ∈ item.tags.map CatalogMediaTag.key

end MediaCatalogQuery

/- The next page of a companion, by the text of the cursor it was given. -/
def Catalog.companionPage : Option String → Except Unit (List CatalogMediaItem × Option String)
  | none => .ok ((cat.listMedia (q.behind none)).items, (cat.listMedia (q.behind none)).nextCursor)
  | some text => (parseCompanionCursor text).map fun cursor =>
      ((cat.listMedia (q.behind (some cursor))).items,
        (cat.listMedia (q.behind (some cursor))).nextCursor)

def Catalog.pagesByOffset (n : Nat) : List CatalogMediaItem :=
  (List.range n).flatMap fun i => (cat.listMedia (q.atOffset (i * q.limit))).items

/-- Reading the listing page by page to its end gives these items: a companion follows the
cursors, everyone else counts offsets up to the total. -/
def Catalog.Lists (items : List CatalogMediaItem) : Prop :=
  if q.companion then Walk (cat.companionPage q) none items
  else ∀ n, (cat.listMedia q).total ≤ n * q.limit → cat.pagesByOffset q n = items

/-- The filters mean what is shown: the listing is that of the unfiltered one whose displayed
fields satisfy the filters, and the total of every page is its length. -/
def Catalog.Means : Prop :=
  ∃ all, cat.Lists q.unfiltered all ∧ (all.map CatalogMediaItem.mediaId).Nodup ∧
    cat.Lists q (all.filter q.Shown) ∧
    ∀ offset cursor, (cat.listMedia ((q.atOffset offset).behind cursor)).total =
      (all.filter q.Shown).length

/-- The default category or the default source is asked for and nothing else, and the view has a
medium without metadata, shown as its row has it: the defaults are displayed of it. -/
def Catalog.Overlooked : Prop :=
  q.q = none ∧ q.tagKeys = [] ∧ q.asksCreator = false ∧
    (∀ wanted ∈ q.contentCategory, wanted = .general) ∧
    (∀ wanted ∈ q.acquisitionSource, wanted = .unknown) ∧
    (q.contentCategory.isSome = true ∨ q.acquisitionSource.isSome = true) ∧
    ∃ row ∈ cat.joined, cat.inView q row = true ∧ row.metadata = none ∧
      cat.approvedOverlay q.memberLogin row.id = none

end Meaning
end FrameNest.Gallery

/-! Rows, tags and orders of the listing. -/
namespace FrameNest.Gallery
open Metadata Relational
variable {cat : Catalog} {q : MediaCatalogQuery} {row : Row}

section Tags

theorem mem_distinct {key : String} : ∀ {values : List String} {keys : List CanonicalTagKey},
    key ∈ MediaCatalogQuery.distinct values keys ↔
      key ∈ values ∨ key ∈ keys.map CanonicalTagKey.value
  | values, [] => by simp [MediaCatalogQuery.distinct]
  | values, first :: keys => by
    unfold MediaCatalogQuery.distinct
    split
    · rename_i hseen
      rw [mem_distinct, List.map_cons, List.mem_cons]
      constructor
      · rintro (h | h)
        · exact Or.inl h
        · exact Or.inr (Or.inr h)
      · rintro (h | rfl | h)
        · exact Or.inl h
        · exact Or.inl hseen
        · exact Or.inr h
    · rw [mem_distinct]
      simp [or_assoc]

theorem nodup_distinct : ∀ {values : List String} {keys : List CanonicalTagKey}, values.Nodup →
    (MediaCatalogQuery.distinct values keys).Nodup
  | values, [], h => h
  | values, first :: keys, h => by
    unfold MediaCatalogQuery.distinct
    split
    · exact nodup_distinct h
    · rename_i hnew
      apply nodup_distinct
      rw [List.nodup_append]
      refine ⟨h, by simp, fun a ha b hb => ?_⟩
      rw [List.mem_singleton] at hb
      rintro rfl
      exact hnew (hb ▸ ha)

theorem tagValues_all {p : String → Bool} :
    q.tagValues.all p = q.tagKeys.all fun key => p key.value := by
  rw [Bool.eq_iff_iff, List.all_eq_true, List.all_eq_true]
  simp [MediaCatalogQuery.tagValues, mem_distinct]

/-- Distinct values found among the wanted ones are as many only when they are all of them. -/
theorem length_eq_iff_covers {found wanted : List String} (hfound : found.Nodup)
    (hwanted : wanted.Nodup) (hsub : ∀ v ∈ found, v ∈ wanted) :
    found.length = wanted.length ↔ ∀ v ∈ wanted, v ∈ found := by
  have hsubperm : found.Subperm wanted := List.subperm_of_subset hfound hsub
  constructor
  · intro h v hv
    exact (hsubperm.perm_of_length_le h.ge).mem_iff.mpr hv
  · intro h
    exact (hsubperm.antisymm (List.subperm_of_subset hwanted h)).length_eq

theorem mem_found {values : List String} {rows : List Row} {row : Row} {tag : MediaCanonicalTag} :
    (row, tag) ∈ ((rows.flatMap fun row =>
        (cat.mediaTags.filter fun tag => tag.mediaId = row.id).map fun tag => (row, tag)).filter
          fun pair => pair.2.tagKey ∈ values) ↔
      row ∈ rows ∧ tag ∈ cat.mediaTags ∧ tag.mediaId = row.id ∧ tag.tagKey ∈ values := by
  simp [and_assoc]

/-- What the grouped join leaves are the rows that have every tag. -/
theorem mem_tagged {values : List String} (hvalues : values.Nodup) (hne : values ≠ [])
    {rows : List Row} {row : Row} :
    row ∈ cat.tagged values rows ↔ row ∈ rows ∧ ∀ v ∈ values, cat.hasTag row.id v = true := by
  unfold Catalog.tagged
  rw [List.mem_filter, List.mem_dedup]
  have hkeys : ∀ v, v ∈ ((((rows.flatMap fun row =>
      (cat.mediaTags.filter fun tag => tag.mediaId = row.id).map fun tag => (row, tag)).filter
        fun pair => pair.2.tagKey ∈ values).filter fun pair => pair.1 = row).map
          fun pair => pair.2.tagKey).dedup ↔
        row ∈ rows ∧ v ∈ values ∧ cat.hasTag row.id v = true := by
    intro v
    rw [List.mem_dedup, List.mem_map]
    constructor
    · rintro ⟨⟨other, tag⟩, hpair, rfl⟩
      obtain ⟨hjoined, hsame⟩ := List.mem_filter.mp hpair
      obtain rfl : other = row := by simpa using hsame
      obtain ⟨hrow, htag, hid, hin⟩ := mem_found.mp hjoined
      refine ⟨hrow, hin, ?_⟩
      simp only [Catalog.hasTag, List.any_eq_true]
      exact ⟨tag, htag, by simp [hid]⟩
    · rintro ⟨hrow, hin, htag⟩
      simp only [Catalog.hasTag, List.any_eq_true, Bool.and_eq_true, decide_eq_true_eq] at htag
      obtain ⟨tag, hmem, hid, rfl⟩ := htag
      exact ⟨(row, tag), List.mem_filter.mpr ⟨mem_found.mpr ⟨hrow, hmem, hid, hin⟩, by simp⟩, rfl⟩
  have hcount := length_eq_iff_covers (List.nodup_dedup _) hvalues fun v hv => ((hkeys v).mp hv).2.1
  simp only [decide_eq_true_eq]
  rw [hcount]
  constructor
  · rintro ⟨-, hall⟩
    obtain ⟨v, hv⟩ := List.exists_mem_of_ne_nil values hne
    exact ⟨((hkeys v).mp (hall v hv)).1, fun v hv => ((hkeys v).mp (hall v hv)).2.2⟩
  · rintro ⟨hrow, hall⟩
    have hfound : ∀ v ∈ values, v ∈ _ := fun v hv => (hkeys v).mpr ⟨hrow, hv, hall v hv⟩
    refine ⟨?_, hfound⟩
    obtain ⟨v, hv⟩ := List.exists_mem_of_ne_nil values hne
    obtain ⟨⟨other, tag⟩, hpair, -⟩ := List.mem_map.mp (List.mem_dedup.mp (hfound v hv))
    obtain ⟨hjoined, hsame⟩ := List.mem_filter.mp hpair
    obtain rfl : other = row := by simpa using hsame
    exact List.mem_map.mpr ⟨(other, tag), hjoined, rfl⟩

theorem nodup_tagged {values : List String} {rows : List Row} : (cat.tagged values rows).Nodup :=
  (List.nodup_dedup _).filter _

end Tags

section Choice

/-- The rows that the tag filter of the query lets through. -/
def Catalog.tagFilter (cat : Catalog) (q : MediaCatalogQuery) (row : Row) : Bool :=
  q.tagValues = [] || cat.byProjection q row.id (q.tagValues.all (cat.hasTag row.id))
    (q.tagValues.all (cat.approvedHasTag row.id))

def Catalog.filters (cat : Catalog) (q : MediaCatalogQuery) (row : Row) : Bool :=
  cat.titleFilter q row && cat.categoryFilter q row && cat.sourceFilter q row &&
    cat.creatorFilter q row && cat.tagFilter q row

theorem joined_ids : (cat.joined.map Row.id).Nodup := by
  have hids : cat.joined.map Row.id = cat.media.rows.map LogicalMedia.id := by
    simp [Catalog.joined, Row.id, Function.comp_def]
  rw [hids]
  exact cat.media.nodup

theorem joined_nodup : cat.joined.Nodup := joined_ids.of_map _

theorem joined_inj {a b : Row} (ha : a ∈ cat.joined) (hb : b ∈ cat.joined) (h : a.id = b.id) :
    a = b :=
  List.inj_on_of_nodup_map joined_ids ha hb h

/-- The selected rows are those in view that the filters let through. -/
theorem selected_perm : (cat.selected q).Perm
    (cat.joined.filter fun row => cat.inView q row && cat.filters q row) := by
  have hnodup : (cat.joined.filter fun row => cat.inView q row && cat.filters q row).Nodup :=
    joined_nodup.filter _
  unfold Catalog.selected
  split
  · rename_i hjoin
    simp only [ne_eq, decide_not, Bool.and_eq_true, Bool.not_eq_true', decide_eq_false_iff_not,
      Option.isNone_iff_eq_none] at hjoin
    rw [List.perm_ext_iff_of_nodup nodup_tagged hnodup]
    intro row
    have hvalues : q.tagValues.Nodup := nodup_distinct List.nodup_nil
    rw [mem_tagged hvalues hjoin.1, List.mem_filter, List.mem_filter]
    simp [Catalog.filters, Catalog.tagFilter, Catalog.memberTags, Catalog.byProjection, hjoin.1,
      hjoin.2, and_assoc]
  · rename_i hplain
    have hsame : ∀ row, cat.memberTags q row = cat.tagFilter q row := by
      intro row
      unfold Catalog.memberTags Catalog.tagFilter Catalog.byProjection
      cases hlogin : q.memberLogin with
      | none =>
        have hnone : q.tagValues = [] := by simpa [hlogin] using hplain
        simp [hnone]
      | some member => simp
    simp only [hsame, Catalog.filters, Bool.and_assoc]
    exact List.Perm.refl _

end Choice

section Projections

theorem bound_iff {id : MediaId} :
    cat.bound id = true ↔ ∃ r ∈ cat.records.rows, r.mediaId = some id := by
  simp [Catalog.bound]

theorem memberApproved_iff {login : String} {id : MediaId} :
    cat.memberApproved login id = true ↔ ∃ r ∈ cat.records.rows, r.mediaId = some id ∧
      r.ownerLoginKey ≠ login ∧ r.visibility = .family ∧ r.approvedProjectionJson.isSome = true ∧
      r.completedAtMs.isSome = true := by
  simp [Catalog.memberApproved, and_assoc]

/-- One medium has one record, so that it has one snapshot. -/
theorem approved_unique {a b : KronikaApprovedMedia} (ha : a ∈ cat.approved.rows)
    (hb : b ∈ cat.approved.rows) (h : a.mediaId = b.mediaId) : a = b := by
  obtain ⟨r, hr, hrid, hrmedia⟩ := cat.approved_recorded a ha
  obtain ⟨s, hs, hsid, hsmedia⟩ := cat.approved_recorded b hb
  have hsame : r = s := cat.one_record r hr s hs (by simp [hrmedia]) (by rw [hrmedia, hsmedia, h])
  exact Table.eq_of_key ha hb (by rw [← hrid, ← hsid, hsame])

theorem approvedOf_eq {a : KronikaApprovedMedia} {id : MediaId} (ha : a ∈ cat.approved.rows)
    (hid : a.mediaId = id) : cat.approvedOf id = some a := by
  obtain ⟨b, hb⟩ : ∃ b, cat.approvedOf id = some b := by
    rw [← Option.isSome_iff_exists, Catalog.approvedOf, List.find?_isSome]
    exact ⟨a, ha, by simp [hid]⟩
  have hmem := List.mem_of_find?_eq_some hb
  have hmedia : b.mediaId = id := by simpa using List.find?_some hb
  rw [hb, approved_unique hmem ha (by rw [hmedia, hid])]

/-- A member sees a shared medium, and no other, through its snapshot. -/
theorem overlay_approved {login : String} {id : MediaId} (h : cat.memberApproved login id = true) :
    ∃ a ∈ cat.approved.rows, a.mediaId = id ∧ cat.approvedOf id = some a ∧
      cat.approvedOverlay (some login) id = some a := by
  obtain ⟨r, hr, hmedia, howner, hfamily, hjson, -⟩ := memberApproved_iff.mp h
  obtain ⟨a, ha, hrecord⟩ := cat.approval_written r hr (by simp [hmedia]) hjson
  obtain ⟨s, hs, hsid, hsmedia⟩ := cat.approved_recorded a ha
  have hsame : s = r := Table.eq_of_key hs hr (by rw [hsid, hrecord])
  subst hsame
  have hid : a.mediaId = id := by simpa [hsmedia] using hmedia
  have hfound : cat.records.find? a.recordId = some s := hsid ▸ Table.mem_find? hs
  have hshared : cat.sharedBy login a = true := by
    simp [Catalog.sharedBy, hfound, howner, hfamily]
  refine ⟨a, ha, hid, approvedOf_eq ha hid, ?_⟩
  obtain ⟨b, hb⟩ : ∃ b, cat.approvedOverlay (some login) id = some b := by
    rw [← Option.isSome_iff_exists, Catalog.approvedOverlay, List.find?_isSome]
    exact ⟨a, ha, by simp [hid, hshared]⟩
  have hmem := List.mem_of_find?_eq_some hb
  have hboth : b.mediaId = id := by
    have hp := List.find?_some hb
    simp only [Bool.and_eq_true, decide_eq_true_eq] at hp
    exact hp.1
  rw [hb, approved_unique hmem ha (by rw [hboth, hid])]

/-- What a member sees as its own or as nobody's has no snapshot over it. -/
theorem overlay_current {login : String} {id : MediaId} (h : cat.memberCurrent login id = true) :
    cat.memberApproved login id = false ∧ cat.approvedOverlay (some login) id = none := by
  have howned : ∀ r ∈ cat.records.rows, r.mediaId = some id → r.ownerLoginKey = login := by
    intro r hr hmedia
    simp only [Catalog.memberCurrent, Bool.or_eq_true, Bool.not_eq_true'] at h
    obtain hown | hunbound := h
    · simp only [Catalog.own, List.any_eq_true, Bool.and_eq_true, decide_eq_true_eq] at hown
      obtain ⟨s, hs, hsmedia, hlogin⟩ := hown
      rw [cat.one_record r hr s hs (by simp [hmedia]) (by rw [hmedia, hsmedia])]
      exact hlogin
    · have hbound : cat.bound id = true := bound_iff.mpr ⟨r, hr, hmedia⟩
      rw [hunbound] at hbound
      cases hbound
  constructor
  · rw [Bool.eq_false_iff]
    intro happroved
    obtain ⟨r, hr, hmedia, howner, -⟩ := memberApproved_iff.mp happroved
    exact howner (howned r hr hmedia)
  · rw [Catalog.approvedOverlay, List.find?_eq_none]
    intro a ha
    simp only [Bool.and_eq_true, decide_eq_true_eq, not_and]
    rintro rfl hshared
    obtain ⟨r, hr, hrid, hmedia⟩ := cat.approved_recorded a ha
    have hfound : cat.records.find? a.recordId = some r := hrid ▸ Table.mem_find? hr
    simp [Catalog.sharedBy, hfound, howned r hr hmedia] at hshared

/-- A row in view is displayed as it is and chosen as it is, or it is displayed and chosen as its
snapshot. -/
theorem projection_cases (h : cat.inView q row = true) :
    (cat.approvedOverlay q.memberLogin row.id = none ∧
        ∀ live approved, cat.byProjection q row.id live approved = live) ∨
      ∃ a, a ∈ cat.approved.rows ∧ a.mediaId = row.id ∧ cat.approvedOf row.id = some a ∧
        cat.approvedOverlay q.memberLogin row.id = some a ∧
        ∀ live approved, cat.byProjection q row.id live approved = approved := by
  cases hlogin : q.memberLogin with
  | none => exact Or.inl ⟨rfl, fun live approved => by simp [Catalog.byProjection, hlogin]⟩
  | some member =>
    have hscope : cat.memberCurrent member row.id = true ∨ cat.memberApproved member row.id = true := by
      have hin : cat.scope q.accessScope row.id = true := by
        simp only [Catalog.inView, Bool.and_eq_true] at h
        exact h.1.2
      have haccess : q.accessScope = some (.member member) := by
        unfold MediaCatalogQuery.memberLogin at hlogin
        split at hlogin
        · rename_i scope
          rw [scope, Option.some.inj hlogin]
        · cases hlogin
      simpa [haccess, Catalog.scope] using hin
    by_cases hcurrent : cat.memberCurrent member row.id = true
    · obtain ⟨happroved, hoverlay⟩ := overlay_current hcurrent
      exact Or.inl ⟨hoverlay, fun live approved => by
        simp [Catalog.byProjection, hlogin, hcurrent, happroved]⟩
    · have happroved := hscope.resolve_left hcurrent
      obtain ⟨a, ha, hid, hof, hoverlay⟩ := overlay_approved happroved
      exact Or.inr ⟨a, ha, hid, hof, hoverlay, fun live approved => by
        simp [Catalog.byProjection, hlogin, hcurrent, happroved]⟩

end Projections

section Filters

theorem like_iff {wanted title : String} :
    Like.accepts '\\' (MediaCatalogQuery.likePattern wanted) title.toList =
      decide (Like.Contains wanted.toList title.toList) := by
  rw [Bool.eq_iff_iff, decide_eq_true_eq]
  exact Like.accepts_between (by decide) (by decide) _ _

theorem mem_listing_map {ρ κ α : Type} [LinearOrder κ] {key : ρ → κ} {rows : List ρ} {f : ρ → α}
    {a : α} : a ∈ (listing key rows).map f ↔ a ∈ rows.map f := by
  simp only [List.mem_map, mem_listing]

/-- A medium has the tags that are displayed of its row. -/
theorem hasTag_eq (id : MediaId) (key : String) :
    cat.hasTag id key = decide (key ∈ (cat.loadTags id).map CatalogMediaTag.key) := by
  rw [Bool.eq_iff_iff, decide_eq_true_eq, Catalog.loadTags, mem_listing_map]
  simp only [Catalog.hasTag, List.any_eq_true, Bool.and_eq_true, decide_eq_true_eq, List.mem_map,
    List.mem_filterMap, List.mem_filter]
  constructor
  · rintro ⟨tag, htag, hid, rfl⟩
    obtain ⟨own, hown⟩ : ∃ own, cat.canonicalTags.find? tag.tagKey = some own := by
      rw [← Option.ne_none_iff_exists']
      intro hnone
      exact (Table.find?_none_iff.mp hnone) (cat.tags_canonical tag htag)
    have hkey : own.key = tag.tagKey := Table.find?_key hown
    exact ⟨⟨own.key, own.displayName, tag.position⟩, ⟨tag, ⟨htag, hid⟩, by simp [hown]⟩, hkey⟩
  · rintro ⟨item, ⟨tag, ⟨htag, hid⟩, hitem⟩, rfl⟩
    obtain ⟨own, hown, rfl⟩ := Option.map_eq_some_iff.mp hitem
    exact ⟨tag, htag, hid, (Table.find?_key hown).symm⟩

/-- A snapshot has the tags that are displayed of it. -/
theorem approvedHasTag_eq {a : KronikaApprovedMedia} (ha : a ∈ cat.approved.rows) (key : String) :
    cat.approvedHasTag a.mediaId key =
      decide (key ∈ (cat.approvedTagsOf a.recordId).map CatalogMediaTag.key) := by
  rw [Bool.eq_iff_iff, decide_eq_true_eq, Catalog.approvedTagsOf, mem_listing_map]
  simp only [Catalog.approvedHasTag, List.any_eq_true, Bool.and_eq_true, decide_eq_true_eq,
    List.mem_map, List.mem_filter]
  constructor
  · rintro ⟨b, hb, hid, tag, htag, hrecord, rfl⟩
    obtain rfl := approved_unique hb ha hid
    exact ⟨_, ⟨tag, ⟨htag, hrecord⟩, rfl⟩, rfl⟩
  · rintro ⟨_, ⟨tag, ⟨htag, hrecord⟩, rfl⟩, rfl⟩
    exact ⟨a, ha, rfl, tag, htag, hrecord, rfl⟩

theorem creatorMatch_absent (h : q.asksCreator = true) : q.creatorMatch .absent = false := by
  unfold MediaCatalogQuery.asksCreator at h
  unfold MediaCatalogQuery.creatorMatch
  cases hkind : q.creatorAttributionKind <;> cases hstable : q.creatorStableId <;>
    cases hhandle : q.creatorHandle <;> simp_all [Creator.absent]

theorem creatorMatch_unasked (h : q.asksCreator = false) (creator : Creator) :
    q.creatorMatch creator = true := by
  unfold MediaCatalogQuery.asksCreator at h
  unfold MediaCatalogQuery.creatorMatch
  cases hkind : q.creatorAttributionKind <;> cases hstable : q.creatorStableId <;>
    cases hhandle : q.creatorHandle <;> simp_all

theorem tagValues_nil : q.tagValues = [] ↔ q.tagKeys = [] := by
  rw [List.eq_nil_iff_forall_not_mem, List.eq_nil_iff_forall_not_mem]
  simp [MediaCatalogQuery.tagValues, mem_distinct]

/-- What a row without the field answers to a filter that does not ask for the default. -/
theorem unasked_all {α : Type} [DecidableEq α] {o : Option α} {default : α}
    (h : o ≠ some default) : o.isNone = o.all fun wanted => decide (default = wanted) := by
  cases o with
  | none => rfl
  | some wanted =>
    have hne : default ≠ wanted := fun heq => h (congrArg some heq.symm)
    simp [hne]

/-- The defaults are asked for of a row without metadata. -/
def Defaulted (q : MediaCatalogQuery) (row : Row) : Prop :=
  row.metadata = none ∧ (q.contentCategory = some .general ∨ q.acquisitionSource = some .unknown)

/-- A row shown as it is: the filters let it through when what is displayed satisfies them, unless
they ask for the defaults that stand in for its metadata. -/
theorem filters_current (hproj : ∀ live approved, cat.byProjection q row.id live approved = live)
    (h : ¬Defaulted q row) : cat.filters q row = q.Shown (cat.currentItem row) := by
  have htitle : cat.titleFilter q row = q.q.all fun wanted =>
      (cat.currentItem row).displayTitle.any fun title =>
        Like.Contains wanted.value.toList title.toList := by
    unfold Catalog.titleFilter Catalog.currentItem
    simp only [hproj, like_iff]
    cases row.metadata with
    | none => simp
    | some m => cases hm : m.displayTitle <;> simp [hm]
  have hcategory : cat.categoryFilter q row =
      q.contentCategory.all fun wanted => (cat.currentItem row).contentCategory = wanted := by
    unfold Catalog.categoryFilter Catalog.currentItem
    simp only [hproj]
    cases hmetadata : row.metadata with
    | some m => simp
    | none => simpa using unasked_all fun heq => h ⟨hmetadata, Or.inl heq⟩
  have hsource : cat.sourceFilter q row =
      q.acquisitionSource.all fun wanted => (cat.currentItem row).acquisitionSource = wanted := by
    unfold Catalog.sourceFilter Catalog.currentItem
    simp only [hproj]
    cases hmetadata : row.metadata with
    | some m => simp
    | none => simpa using unasked_all fun heq => h ⟨hmetadata, Or.inr heq⟩
  have hcreator : cat.creatorFilter q row = q.creatorMatch (cat.currentItem row).creator := by
    unfold Catalog.creatorFilter Catalog.currentItem
    simp only [hproj]
    cases hasks : q.asksCreator with
    | false => simp [creatorMatch_unasked hasks]
    | true => cases hmetadata : row.metadata <;> simp [creatorMatch_absent hasks]
  have htags : cat.tagFilter q row = q.tagKeys.all fun key =>
      key.value ∈ (cat.currentItem row).tags.map CatalogMediaTag.key := by
    unfold Catalog.tagFilter
    simp only [hproj, tagValues_all, tagValues_nil, hasTag_eq]
    by_cases hnone : q.tagKeys = []
    · simp [hnone]
    · simp [hnone, Catalog.currentItem, Row.id]
  unfold Catalog.filters MediaCatalogQuery.Shown
  rw [htitle, hcategory, hsource, hcreator, htags]

/-- A row shown as its snapshot: the filters let it through when the snapshot satisfies them. -/
theorem filters_approved {a : KronikaApprovedMedia} (ha : a ∈ cat.approved.rows)
    (hid : a.mediaId = row.id) (hof : cat.approvedOf row.id = some a)
    (hproj : ∀ live approved, cat.byProjection q row.id live approved = approved) :
    cat.filters q row = q.Shown (cat.applyApprovedOverlay (cat.currentItem row) (some a)) := by
  have htitle : cat.titleFilter q row = q.q.all fun wanted =>
      Like.Contains wanted.value.toList a.displayTitle.value.toList := by
    unfold Catalog.titleFilter
    simp only [hproj, like_iff, hof, Option.any_some]
  have hcategory : cat.categoryFilter q row =
      q.contentCategory.all fun wanted => a.contentCategory = wanted := by
    unfold Catalog.categoryFilter
    simp only [hproj, hof, Option.any_some]
  have hsource : cat.sourceFilter q row =
      q.acquisitionSource.all fun wanted => a.acquisitionSource = wanted := by
    unfold Catalog.sourceFilter
    simp only [hproj, hof, Option.any_some]
  have hcreator : cat.creatorFilter q row = q.creatorMatch a.creator := by
    unfold Catalog.creatorFilter
    simp only [hproj, hof, Option.any_some]
    cases hasks : q.asksCreator with
    | false => simp [creatorMatch_unasked hasks]
    | true => rfl
  have htags : cat.tagFilter q row = q.tagKeys.all fun key =>
      key.value ∈ (cat.approvedTagsOf a.recordId).map CatalogMediaTag.key := by
    unfold Catalog.tagFilter
    have happroved : ∀ key, cat.approvedHasTag row.id key =
        decide (key ∈ (cat.approvedTagsOf a.recordId).map CatalogMediaTag.key) :=
      fun key => hid ▸ approvedHasTag_eq ha key
    simp only [hproj, tagValues_all, tagValues_nil, happroved]
    by_cases hnone : q.tagKeys = []
    · simp [hnone]
    · simp [hnone]
  unfold Catalog.filters MediaCatalogQuery.Shown Catalog.applyApprovedOverlay
  rw [htitle, hcategory, hsource, hcreator, htags]
  rfl

end Filters
section Order

theorem id_injective {a b : MediaId} (h : a.value = b.value) : a = b := by
  cases a
  cases b
  simpa using h

/-- Rows of different media have different places in either order. -/
theorem creationKey_nodup {rows : List Row} (h : (rows.map Row.id).Nodup) :
    (rows.map creationKey).Nodup := by
  have hrows : rows.Nodup := h.of_map _
  apply hrows.map_on
  intro a ha b hb heq
  have hid : a.id.value = b.id.value := congrArg (fun k => (ofLex k).2) heq
  exact List.inj_on_of_nodup_map h ha hb (id_injective hid)

theorem processedKey_nodup {rows : List Row} (h : (rows.map Row.id).Nodup) :
    (rows.map processedKey).Nodup := by
  have hrows : rows.Nodup := h.of_map _
  apply hrows.map_on
  intro a ha b hb heq
  have hid : a.id.value = b.id.value := congrArg (fun k => (ofLex k).2) heq
  exact List.inj_on_of_nodup_map h ha hb (id_injective hid)

theorem ordered_perm (rows : List Row) : (q.ordered rows).Perm rows := by
  unfold MediaCatalogQuery.ordered
  split <;> exact List.perm_insertionSort _ _

theorem ordered_unique {rows rows' : List Row} (h : (rows.map Row.id).Nodup)
    (hperm : rows.Perm rows') : q.ordered rows = q.ordered rows' := by
  have h' : (rows'.map Row.id).Nodup := (hperm.map Row.id).nodup_iff.mp h
  have hboth : (q.ordered rows).Perm (q.ordered rows') :=
    (ordered_perm rows).trans (hperm.trans (ordered_perm rows').symm)
  unfold MediaCatalogQuery.ordered at hboth ⊢
  split
  · rename_i hcreation
    rw [if_pos hcreation, if_pos hcreation] at hboth
    exact ascending_unique (listing_ascending (creationKey_nodup h))
      (listing_ascending (creationKey_nodup h')) hboth
  · rename_i hprocessed
    rw [if_neg hprocessed, if_neg hprocessed] at hboth
    exact ascending_unique (listing_ascending (processedKey_nodup h))
      (listing_ascending (processedKey_nodup h')) hboth

theorem ordered_filter {rows : List Row} (h : (rows.map Row.id).Nodup) (p : Row → Bool) :
    q.ordered (rows.filter p) = (q.ordered rows).filter p := by
  unfold MediaCatalogQuery.ordered
  split
  · exact listing_filter (creationKey_nodup h) p
  · exact listing_filter (processedKey_nodup h) p

theorem selected_ids : ((cat.selected q).map Row.id).Nodup := by
  rw [(selected_perm.map Row.id).nodup_iff]
  exact (List.filter_sublist.map Row.id).nodup joined_ids

/-- Every row selected, in order. -/
def Catalog.rows (cat : Catalog) (q : MediaCatalogQuery) : List Row := q.ordered (cat.selected q)

theorem rows_eq : cat.rows q =
    (q.ordered cat.joined).filter fun row => cat.inView q row && cat.filters q row := by
  rw [Catalog.rows, ordered_unique selected_ids selected_perm, ordered_filter joined_ids]

theorem length_rows : (cat.rows q).length = (cat.selected q).length := (ordered_perm _).length_eq

end Order

section Paging

def cursorKey (cursor : Nat × MediaId) : Natᵒᵈ ×ₗ String :=
  toLex (OrderDual.toDual cursor.1, cursor.2.value)

def keyText (k : Natᵒᵈ ×ₗ String) : String := cursorText (OrderDual.ofDual (ofLex k).1) (ofLex k).2

theorem keyText_creationKey (row : Row) :
    keyText (creationKey row) = cursorText row.media.createdAtMs row.id.value := rfl

theorem short_of_fits {n : Nat} (h : n < 2 ^ 63) : Content.Short n := by
  have hlength : (Nat.toDigits 10 n).length ≤ 19 :=
    Nat.toDigits_length 10 n 19 (by omega) (by omega)
  have hmax : PyJson.maxStrDigits = 4300 := rfl
  unfold Content.Short
  omega

theorem takeWhile_stop {c : Char} {front : List Char} (h : c ∉ front) (back : List Char) :
    (front ++ c :: back).takeWhile (· ≠ c) = front ∧
      (front ++ c :: back).dropWhile (· ≠ c) = c :: back := by
  induction front with
  | nil => simp
  | cons d front ih =>
    rw [List.mem_cons, not_or] at h
    have hne : d ≠ c := fun heq => h.1 heq.symm
    obtain ⟨htake, hdrop⟩ := ih h.2
    constructor
    · rw [List.cons_append, List.takeWhile_cons_of_pos (by simpa using hne), htake]
    · rw [List.cons_append, List.dropWhile_cons_of_pos (by simpa using hne), hdrop]

/-- The cursor that a page names is read back. -/
theorem parse_cursorText {createdAtMs : Nat} (h : createdAtMs < 2 ^ 63) (id : MediaId) :
    parseCompanionCursor (cursorText createdAtMs id.value) = .ok (createdAtMs, id) := by
  have hcolon : ':' ∉ Nat.toDigits 10 createdAtMs := Content.not_mem_digits (by decide)
  have htext : (cursorText createdAtMs id.value).toList =
      Nat.toDigits 10 createdAtMs ++ ':' :: id.value.toList := by
    rw [cursorText, String.toList_ofList]
  obtain ⟨htake, hdrop⟩ := takeWhile_stop hcolon id.value.toList
  unfold parseCompanionCursor
  simp only [htext, htake, hdrop, Content.parseNonNegativeInt_digits, if_pos (short_of_fits h),
    String.ofList_toList, dif_pos id.canonical]

/-- The rows behind a cursor are those whose place is after its. -/
theorem behind_before (hcompanion : q.companion = true) (cursor : Option (Nat × MediaId)) (row : Row) :
    (q.behind cursor).behindCursor row = before (cursor.map cursorKey) (creationKey row) := by
  have hstill : (q.behind cursor).companion = true := hcompanion
  unfold MediaCatalogQuery.behindCursor
  rw [hstill]
  cases cursor with
  | none => rfl
  | some c =>
    rw [Bool.eq_iff_iff]
    simp only [MediaCatalogQuery.behind, Option.map_some, before_some, Bool.or_eq_true,
      Bool.and_eq_true, decide_eq_true_eq, cursorKey, creationKey, Prod.Lex.toLex_lt_toLex,
      OrderDual.toDual_lt_toDual, OrderDual.toDual_inj]
    constructor
    · rintro (h | ⟨h, h'⟩)
      · exact Or.inl h
      · exact Or.inr ⟨h.symm, h'⟩
    · rintro (h | ⟨h, h'⟩)
      · exact Or.inl h
      · exact Or.inr ⟨h.symm, h'⟩

/-- A page of a companion is a page of the selected rows by their place. -/
theorem listMedia_companion (cat : Catalog) (hdenied : q.denied = false) (hcompanion : q.companion = true)
    (cursor : Option (Nat × MediaId)) :
    (cat.listMedia (q.behind cursor)).items =
        (keysetPage creationKey q.limit (cursor.map cursorKey) (cat.selected q)).1.map
          (cat.displayed q.memberLogin) ∧
      (cat.listMedia (q.behind cursor)).nextCursor =
        (keysetPage creationKey q.limit (cursor.map cursorKey) (cat.selected q)).2.map keyText := by
  have hstill : (q.behind cursor).companion = true := hcompanion
  have hallowed : (q.behind cursor).denied = false := hdenied
  have hlimit : (q.behind cursor).limit = q.limit := rfl
  have hlogin : (q.behind cursor).memberLogin = q.memberLogin := rfl
  have hselected : cat.selected (q.behind cursor) = cat.selected q := rfl
  have hordered : (q.behind cursor).ordered
      ((cat.selected q).filter (q.behind cursor).behindCursor) =
        listing creationKey ((cat.selected q).filter fun row =>
          true && before (cursor.map cursorKey) (creationKey row)) := by
    simp only [MediaCatalogQuery.ordered, hstill, Bool.true_or, if_true, Bool.true_and]
    congr 1
    exact List.filter_congr fun row _ => behind_before hcompanion cursor row
  unfold Catalog.listMedia keysetPage page
  rw [hallowed]
  simp only [Bool.false_eq_true, if_false, hselected, hordered, hstill, if_true, hlimit, hlogin,
    Bool.true_and, decide_eq_true_eq]
  unfold listing
  split
  · refine ⟨rfl, ?_⟩
    cases (List.take q.limit _).getLast? <;> rfl
  · exact ⟨rfl, rfl⟩

/-- Following its cursors a companion reads every row selected. -/
theorem companion_walk (hdenied : q.denied = false) (hcompanion : q.companion = true) :
    Walk (cat.companionPage q) none ((cat.rows q).map (cat.displayed q.memberLogin)) := by
  have hkeys : ((cat.selected q).map creationKey).Nodup := creationKey_nodup selected_ids
  have hwalk : Walk (cat.companionPage q) (Option.map keyText none)
      ((ahead creationKey none (cat.selected q)).map (cat.displayed q.memberLogin)) := by
    apply keyset_walk hkeys q.limit_pos
    · intro cursor hcursor
      cases cursor with
      | none =>
        obtain ⟨hitems, hnext⟩ := listMedia_companion cat hdenied hcompanion none
        simp only [Option.map_none, Catalog.companionPage, hitems, hnext]
      | some k =>
        obtain ⟨row, -, rfl⟩ := List.mem_map.mp (hcursor k rfl)
        obtain ⟨hitems, hnext⟩ := listMedia_companion cat hdenied hcompanion
          (some (row.media.createdAtMs, row.id))
        simp only [Option.map_some, Catalog.companionPage, keyText_creationKey,
          parse_cursorText row.media.created_fits, Except.map, hitems, hnext]
        rfl
    · simp
  have hrows : cat.rows q = listing creationKey (cat.selected q) := by
    simp [Catalog.rows, MediaCatalogQuery.ordered, hcompanion]
  rwa [ahead_none, ← hrows] at hwalk

/-- Everyone else reads it in slices. -/
theorem listMedia_slice (hdenied : q.denied = false) (hcompanion : q.companion = false)
    (offset : Nat) : (cat.listMedia (q.atOffset offset)).items =
      (slice q.limit offset (cat.rows q)).map (cat.displayed q.memberLogin) := by
  have hstill : (q.atOffset offset).companion = false := hcompanion
  have hallowed : (q.atOffset offset).denied = false := hdenied
  have hselected : cat.selected (q.atOffset offset) = cat.selected q := rfl
  have hall : (cat.selected q).filter (q.atOffset offset).behindCursor = cat.selected q := by
    rw [List.filter_eq_self]
    intro row _
    simp [MediaCatalogQuery.behindCursor, hstill]
  unfold Catalog.listMedia
  rw [hallowed]
  simp only [Bool.false_eq_true, if_false, hselected, hall, hstill, Bool.false_and]
  rfl

theorem pagesByOffset_eq (hdenied : q.denied = false) (hcompanion : q.companion = false) (n : Nat) :
    cat.pagesByOffset q n = ((cat.rows q).take (n * q.limit)).map (cat.displayed q.memberLogin) := by
  unfold Catalog.pagesByOffset
  simp only [listMedia_slice hdenied hcompanion]
  rw [← slices_take, List.map_flatMap]

theorem total_eq (hdenied : q.denied = false) (offset : Nat) (cursor : Option (Nat × MediaId)) :
    (cat.listMedia ((q.atOffset offset).behind cursor)).total = (cat.rows q).length := by
  have hallowed : ((q.atOffset offset).behind cursor).denied = false := hdenied
  unfold Catalog.listMedia
  rw [hallowed, length_rows]
  rfl

/-- What reading the listing gives. -/
def Catalog.listed (cat : Catalog) (q : MediaCatalogQuery) : List CatalogMediaItem :=
  if q.denied then [] else (cat.rows q).map (cat.displayed q.memberLogin)

theorem total_listed (offset : Nat) (cursor : Option (Nat × MediaId)) :
    (cat.listMedia ((q.atOffset offset).behind cursor)).total = (cat.listed q).length := by
  cases hdenied : q.denied with
  | false => simp [total_eq hdenied, Catalog.listed, hdenied]
  | true =>
    have hrefused : ((q.atOffset offset).behind cursor).denied = true := hdenied
    simp [Catalog.listMedia, hrefused, Catalog.listed, hdenied]

theorem lists_listed (cat : Catalog) (q : MediaCatalogQuery) : cat.Lists q (cat.listed q) := by
  unfold Catalog.Lists
  cases hdenied : q.denied with
  | true =>
    have hlisted : cat.listed q = [] := by simp [Catalog.listed, hdenied]
    rw [hlisted]
    split
    · apply Walk.last
      have hrefused : (q.behind none).denied = true := hdenied
      simp [Catalog.companionPage, Catalog.listMedia, hrefused]
    · intro n _
      have hrefused : ∀ offset, (q.atOffset offset).denied = true := fun _ => hdenied
      simp [Catalog.pagesByOffset, Catalog.listMedia, hrefused]
  | false =>
    have hlisted : cat.listed q = (cat.rows q).map (cat.displayed q.memberLogin) := by
      simp [Catalog.listed, hdenied]
    rw [hlisted]
    split
    · rename_i hcompanion
      exact companion_walk hdenied hcompanion
    · rename_i hcompanion
      rw [Bool.not_eq_true] at hcompanion
      intro n hn
      have htotal : (cat.listMedia q).total = (cat.rows q).length := by
        unfold Catalog.listMedia
        rw [hdenied, length_rows]
        rfl
      rw [pagesByOffset_eq hdenied hcompanion, List.take_of_length_le (by omega)]

/-- Reading the listing has one outcome. -/
theorem lists_iff {items : List CatalogMediaItem} : cat.Lists q items ↔ items = cat.listed q := by
  constructor
  · intro h
    have hown := lists_listed cat q
    unfold Catalog.Lists at h hown
    split at h
    · rename_i hcompanion
      rw [if_pos hcompanion] at hown
      exact h.unique hown
    · rename_i hcompanion
      rw [if_neg hcompanion] at hown
      have henough : (cat.listMedia q).total ≤ (cat.listMedia q).total * q.limit :=
        Nat.le_mul_of_pos_right _ q.limit_pos
      rw [← h _ henough, hown _ henough]
  · rintro rfl
    exact lists_listed cat q

end Paging
section Agreement

theorem inView_unfiltered : cat.inView q.unfiltered row = cat.inView q row := rfl

theorem filters_unfiltered : cat.filters q.unfiltered row = true := by
  simp [Catalog.filters, Catalog.titleFilter, Catalog.categoryFilter, Catalog.sourceFilter,
    Catalog.creatorFilter, Catalog.tagFilter, MediaCatalogQuery.unfiltered,
    MediaCatalogQuery.asksCreator, MediaCatalogQuery.tagValues, MediaCatalogQuery.distinct]

theorem rows_unfiltered :
    cat.rows q.unfiltered = (q.ordered cat.joined).filter fun row => cat.inView q row := by
  rw [rows_eq]
  simp only [inView_unfiltered, filters_unfiltered, Bool.and_true]
  rfl

theorem rows_filtered : cat.rows q = (cat.rows q.unfiltered).filter (cat.filters q) := by
  rw [rows_unfiltered, rows_eq, List.filter_filter]
  simp only [Bool.and_comm]

theorem mem_rows_unfiltered :
    row ∈ cat.rows q.unfiltered ↔ row ∈ cat.joined ∧ cat.inView q row = true := by
  rw [rows_unfiltered, List.mem_filter, (ordered_perm _).mem_iff]

theorem displayed_id (cat : Catalog) (login : Option String) (row : Row) :
    (cat.displayed login row).mediaId = row.id := by
  unfold Catalog.displayed
  cases cat.approvedOverlay login row.id <;> rfl

/-- A scope that denies shows nothing. -/
theorem denied_view (h : cat.inView q row = true) : q.denied = false := by
  have hscope : cat.scope q.accessScope row.id = true := by
    simp only [Catalog.inView, Bool.and_eq_true] at h
    exact h.1.2
  unfold MediaCatalogQuery.denied
  cases haccess : q.accessScope with
  | none => simp [haccess, Catalog.scope] at hscope
  | some scope => cases scope <;> simp_all [Catalog.scope]

/-- The filters compare what is stored, and there is nothing stored. -/
theorem defaulted_filters (hproj : ∀ live approved, cat.byProjection q row.id live approved = live)
    (h : Defaulted q row) : cat.filters q row = false := by
  obtain ⟨hmetadata, hcategory | hsource⟩ := h
  · have hfails : cat.categoryFilter q row = false := by
      simp [Catalog.categoryFilter, hcategory, hproj, hmetadata]
    simp [Catalog.filters, hfails]
  · have hfails : cat.sourceFilter q row = false := by
      simp [Catalog.sourceFilter, hsource, hproj, hmetadata]
    simp [Catalog.filters, hfails]

theorem loadTags_undescribed (hrow : row ∈ cat.joined) (h : row.metadata = none) :
    cat.loadTags row.id = [] := by
  have hnone : cat.metadata.find? row.id = none := by
    obtain ⟨medium, -, rfl⟩ := List.mem_map.mp hrow
    exact h
  have huntagged : (cat.mediaTags.filter fun tag => tag.mediaId = row.id) = [] := by
    rw [List.filter_eq_nil_iff]
    intro tag htag
    rw [decide_eq_true_eq]
    intro hid
    exact Table.find?_none_iff.mp hnone (hid ▸ cat.tags_described tag htag)
  rw [Catalog.loadTags, huntagged]
  rfl

/-- A row without metadata satisfies what asks at most for the defaults. -/
theorem shown_undescribed (hrow : row ∈ cat.joined) (h : row.metadata = none) :
    q.Shown (cat.currentItem row) = true ↔ q.q = none ∧ q.tagKeys = [] ∧ q.asksCreator = false ∧
      (∀ wanted ∈ q.contentCategory, wanted = .general) ∧
      ∀ wanted ∈ q.acquisitionSource, wanted = .unknown := by
  have htags : (cat.currentItem row).tags = [] := loadTags_undescribed hrow h
  have hcreator : q.creatorMatch (cat.currentItem row).creator = true ↔ q.asksCreator = false := by
    have habsent : (cat.currentItem row).creator = .absent := by simp [Catalog.currentItem, h]
    rw [habsent]
    cases hasks : q.asksCreator with
    | false => simp [creatorMatch_unasked hasks]
    | true => simp [creatorMatch_absent hasks]
  have htitle : (cat.currentItem row).displayTitle = none := by simp [Catalog.currentItem, h]
  have hcategory : (cat.currentItem row).contentCategory = .general := by
    simp [Catalog.currentItem, h]
  have hsource : (cat.currentItem row).acquisitionSource = .unknown := by
    simp [Catalog.currentItem, h]
  unfold MediaCatalogQuery.Shown
  simp only [Bool.and_eq_true, htitle, hcategory, hsource, htags, hcreator, Option.any_none,
    Option.all_eq_true, List.all_eq_true, List.map_nil, List.not_mem_nil, decide_false,
    decide_eq_true_eq, Bool.false_eq_true, imp_false]
  constructor
  · rintro ⟨⟨⟨⟨hq, hcat⟩, hsrc⟩, hcre⟩, hkeys⟩
    exact ⟨Option.eq_none_iff_forall_not_mem.mpr hq, List.eq_nil_iff_forall_not_mem.mpr hkeys, hcre,
      fun w hw => (hcat w hw).symm, fun w hw => (hsrc w hw).symm⟩
  · rintro ⟨hq, hkeys, hcre, hcat, hsrc⟩
    exact ⟨⟨⟨⟨Option.eq_none_iff_forall_not_mem.mp hq, fun w hw => (hcat w hw).symm⟩,
      fun w hw => (hsrc w hw).symm⟩, hcre⟩, List.eq_nil_iff_forall_not_mem.mp hkeys⟩

/-- Unless the defaults of a medium are overlooked, a row in view is chosen as it is displayed. -/
theorem filters_displayed (hrow : row ∈ cat.joined) (hview : cat.inView q row = true)
    (h : ¬cat.Overlooked q) :
    cat.filters q row = q.Shown (cat.displayed q.memberLogin row) := by
  obtain ⟨hoverlay, hproj⟩ | ⟨a, ha, hid, hof, hoverlay, hproj⟩ := projection_cases hview
  · have hdisplayed : cat.displayed q.memberLogin row = cat.currentItem row := by
      rw [Catalog.displayed, hoverlay]
      rfl
    rw [hdisplayed]
    by_cases hdefaulted : Defaulted q row
    · rw [defaulted_filters hproj hdefaulted]
      symm
      rw [Bool.eq_false_iff]
      intro hshown
      obtain ⟨hq, hkeys, hcreator, hcategory, hsource⟩ :=
        (shown_undescribed hrow hdefaulted.1).mp hshown
      have hasked : q.contentCategory.isSome = true ∨ q.acquisitionSource.isSome = true := by
        obtain hsome | hsome := hdefaulted.2
        · exact Or.inl (by simp [hsome])
        · exact Or.inr (by simp [hsome])
      exact h ⟨hq, hkeys, hcreator, hcategory, hsource, hasked, row, hrow, hview, hdefaulted.1,
        hoverlay⟩
    · exact filters_current hproj hdefaulted
  · rw [Catalog.displayed, hoverlay]
    exact filters_approved ha hid hof hproj

/-- The filtered listing is the unfiltered one, filtered by what is displayed. -/
theorem listed_filtered (h : ¬cat.Overlooked q) :
    cat.listed q = (cat.listed q.unfiltered).filter q.Shown := by
  have hdenied : q.unfiltered.denied = q.denied := rfl
  have hlogin : q.unfiltered.memberLogin = q.memberLogin := rfl
  unfold Catalog.listed
  rw [hdenied, hlogin]
  split
  · rfl
  · rw [List.filter_map, rows_filtered]
    congr 1
    apply List.filter_congr
    intro row hrow
    obtain ⟨hjoined, hview⟩ := mem_rows_unfiltered.mp hrow
    exact filters_displayed hjoined hview h

/-- A medium whose defaults are asked for is displayed and not listed. -/
theorem overlooked_missing (h : cat.Overlooked q) :
    cat.listed q ≠ (cat.listed q.unfiltered).filter q.Shown := by
  obtain ⟨hq, hkeys, hcreator, hcategory, hsource, hasked, row, hrow, hview, hmetadata, hoverlay⟩ := h
  have hdefaulted : Defaulted q row := by
    refine ⟨hmetadata, ?_⟩
    obtain hsome | hsome := hasked
    · obtain ⟨wanted, hwanted⟩ := Option.isSome_iff_exists.mp hsome
      exact Or.inl (by rw [hwanted, hcategory wanted hwanted])
    · obtain ⟨wanted, hwanted⟩ := Option.isSome_iff_exists.mp hsome
      exact Or.inr (by rw [hwanted, hsource wanted hwanted])
  have hdisplayed : cat.displayed q.memberLogin row = cat.currentItem row := by
    rw [Catalog.displayed, hoverlay]
    rfl
  have hdenied := denied_view hview
  intro heq
  have hmem : cat.displayed q.memberLogin row ∈ cat.listed q := by
    rw [heq, List.mem_filter]
    constructor
    · have hstill : q.unfiltered.denied = false := hdenied
      rw [Catalog.listed, hstill]
      exact List.mem_map_of_mem (mem_rows_unfiltered.mpr ⟨hrow, hview⟩)
    · rw [hdisplayed]
      exact (shown_undescribed hrow hmetadata).mpr ⟨hq, hkeys, hcreator, hcategory, hsource⟩
  rw [Catalog.listed, hdenied] at hmem
  obtain ⟨other, hother, hsame⟩ := List.mem_map.mp hmem
  rw [rows_filtered, List.mem_filter, mem_rows_unfiltered] at hother
  have hids : other.id = row.id := by
    rw [← displayed_id cat q.memberLogin other, hsame, displayed_id cat]
  obtain rfl := joined_inj hother.1.1 hrow hids
  obtain ⟨-, hproj⟩ | ⟨a, -, -, -, hover, -⟩ := projection_cases hview
  · have hfails := defaulted_filters hproj hdefaulted
    rw [hother.2] at hfails
    cases hfails
  · rw [hoverlay] at hover
    cases hover

theorem listed_ids : ((cat.listed q).map CatalogMediaItem.mediaId).Nodup := by
  unfold Catalog.listed
  split
  · exact List.nodup_nil
  · rw [List.map_map]
    have hids : (CatalogMediaItem.mediaId ∘ cat.displayed q.memberLogin) = Row.id :=
      funext fun row => displayed_id cat q.memberLogin row
    rw [hids, Catalog.rows, ((ordered_perm (q := q) (cat.selected q)).map Row.id).nodup_iff]
    exact selected_ids

theorem means_iff : cat.Means q ↔ cat.listed q = (cat.listed q.unfiltered).filter q.Shown := by
  constructor
  · rintro ⟨all, hall, -, hlists, -⟩
    rw [lists_iff] at hall hlists
    rw [← hlists, hall]
  · intro heq
    refine ⟨cat.listed q.unfiltered, lists_listed cat _, listed_ids, ?_, fun offset cursor => ?_⟩
    · rw [lists_iff, heq]
    · rw [total_listed, heq]

/-- The filters of the catalog mean what is displayed, under every scope, exactly when no medium in
view has its defaults asked for without having metadata. -/
theorem filters_mean_what_is_shown (cat : Catalog) (q : MediaCatalogQuery) :
    cat.Means q ↔ ¬cat.Overlooked q := by
  rw [means_iff]
  constructor
  · intro heq hoverlooked
    exact overlooked_missing hoverlooked heq
  · exact listed_filtered

end Agreement

section Undescribed

def undescribedId : MediaId := ⟨"00000000-0000-4000-8000-000000000000", by decide +kernel⟩

theorem seven_fits : 7 < 2 ^ 63 := by decide

/-- A catalog of one published medium without metadata. -/
def undescribedCatalog : Catalog where
  media := ⟨[⟨undescribedId, .image, 7, 7, by decide⟩], by decide⟩
  metadata := .empty
  canonicalTags := .empty
  mediaTags := []
  publications := [undescribedId]
  locations := .empty
  xAssets := .empty
  xPostClaims := .empty
  records := .empty
  approved := .empty
  approvedTags := []
  approvedLocations := []
  tags_described := by simp
  tags_canonical := by simp
  one_record := by simp [Table.empty]
  approved_recorded := by simp [Table.empty]
  approval_written := by simp [Table.empty]

/-- An administrator asks for what is displayed as general. -/
def generalQuery : MediaCatalogQuery where
  q := none
  tagKeys := []
  limit := 24
  offset := 0
  collectionKey := none
  contentCategory := some .general
  acquisitionSource := none
  creatorAttributionKind := none
  creatorStableId := none
  creatorHandle := none
  publishedOnly := true
  companionAudienceLoginKey := none
  companionKinds := []
  cursorCreatedAtMs := none
  cursorMediaId := none
  accessScope := some (.administrator "a@example.org")
  limit_pos := by decide

/-- The medium is displayed as general, and asking for that category does not list it. -/
theorem general_filter_misses_default : ¬undescribedCatalog.Means generalQuery := by
  rw [means_iff]
  have hlisted : undescribedCatalog.listed generalQuery = [] := by decide +kernel
  have hshown : (undescribedCatalog.listed generalQuery.unfiltered).filter generalQuery.Shown ≠ [] := by
    decide +kernel
  rw [hlisted]
  exact fun h => hshown h.symm

end Undescribed
end FrameNest.Gallery
