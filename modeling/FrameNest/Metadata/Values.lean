import FrameNest.Relational.Transaction
import FrameNest.Text.Plain
import FrameNest.Text.Parsed

/-! Media metadata as the domain builds it: values that carry their own checks, creator
attribution in its normal form, and the collection state derived from tags. -/
namespace FrameNest.Metadata
open Plain Relational

inductive ContentCategory where
  | general | meme | movie | youtube
deriving DecidableEq

inductive AcquisitionSource where
  | unknown | manualUpload | libraryScan | youtubeManualClaim | xManualClaim
deriving DecidableEq

inductive CreatorAttributionKind where
  | youtubeChannel | xAuthor
deriving DecidableEq

inductive MovieGenre where
  | drama | comedy | sciFi | thriller | horror | action | adventure | documentary | animation
  | family | romance | crime | fantasy | mystery
deriving DecidableEq

inductive MediaCollectionKey where
  | processed
deriving DecidableEq

/-- What leaves a repository method as an exception. -/
inductive Failure where
  | valueError
  | invalidMetadata
  | mediaNotFound
  | canonicalTagNotFound
  | acquisitionSourceImmutable
  | sourceDerivedImmutable (field : String)
  | movieExcluded
  | runNotFound
  | runNotEligible
  | storedResult
  | staleMapping
  | tagLimitConflict
  | uploadRefused
  | repositoryFailure
deriving DecidableEq

/-- Unicode tables, JSON decoding and SHA-256 of a UTF-8 text, from the standard library. -/
structure Library where
  lower : String → String
  nfc : String → String
  casefold : String → String
  loads : String → Parsed.Loaded
  sha256 : List Char → String

def defaultContentCategory : ContentCategory := .general
def defaultAcquisitionSource : AcquisitionSource := .unknown
def maxMediaTags : Nat := 32
def maxMediaGenres : Nat := 8

section Values

def isDisplayTitle (s : String) : Bool :=
  s ≠ "" && strip s = s && s.toList.length ≤ 240 && !s.toList.any isControl

structure MediaDisplayTitle where
  value : String
  valid : isDisplayTitle value = true

instance : DecidableEq MediaDisplayTitle
  | ⟨a, _⟩, ⟨b, _⟩ => decidable_of_iff (a = b) (by simp)

/- Line feeds are the only control characters of a description. -/
def isDescription (s : String) : Bool :=
  s ≠ "" && strip s = s && s.toList.length ≤ 10000 &&
    !s.toList.any fun c => isControl c && c ≠ '\n'

structure MediaDescription where
  value : String
  valid : isDescription value = true

instance : DecidableEq MediaDescription
  | ⟨a, _⟩, ⟨b, _⟩ => decidable_of_iff (a = b) (by simp)

/- `^[a-z][a-z0-9]*(?:-[a-z0-9]+)*$`, of at most 64 characters. -/
def isTagKey (s : String) : Bool :=
  let parts := s.toList.splitOn '-'
  s.toList.length ≤ 64 && s.toList.head?.any (fun c => 'a' ≤ c && c ≤ 'z') &&
    parts.all fun part => part ≠ [] &&
      part.all fun c => ('a' ≤ c && c ≤ 'z') || ('0' ≤ c && c ≤ '9')

structure CanonicalTagKey where
  value : String
  valid : isTagKey value = true

instance : DecidableEq CanonicalTagKey
  | ⟨a, _⟩, ⟨b, _⟩ => decidable_of_iff (a = b) (by simp)

theorem CanonicalTagKey.value_injective : Function.Injective CanonicalTagKey.value := by
  rintro ⟨a, ha⟩ ⟨b, hb⟩ h
  simpa using h

/- A constructor call on a stored text. -/
def MediaDisplayTitle.parse (s : String) : Except Failure MediaDisplayTitle :=
  if h : isDisplayTitle s = true then .ok ⟨s, h⟩ else .error .invalidMetadata

def MediaDescription.parse (s : String) : Except Failure MediaDescription :=
  if h : isDescription s = true then .ok ⟨s, h⟩ else .error .invalidMetadata

def CanonicalTagKey.parse (s : String) : Except Failure CanonicalTagKey :=
  if h : isTagKey s = true then .ok ⟨s, h⟩ else .error .invalidMetadata

/- A nullable column read through a constructor. -/
def parseNullable {α : Type} (parse : String → Except Failure α) :
    Option String → Except Failure (Option α)
  | none => .ok none
  | some s => (parse s).map some

end Values

section Creator
variable (lib : Library)

/-- The four creator attribution fields. -/
structure Creator where
  kind : Option CreatorAttributionKind
  stableId : Option String
  handle : Option String
  displayName : Option String
deriving DecidableEq

namespace Creator

def absent : Creator := ⟨none, none, none, none⟩

end Creator

/- A text in its normal form: blank is null, and what is left is bounded. -/
def normalizeCreator (form : String → String) (limit : Nat) :
    Option String → Except Failure (Option String)
  | none => .ok none
  | some s => do
    require (!s.toList.any isControl) .invalidMetadata
    if form s = "" then return none
    require ((form s).toList.length ≤ limit) .invalidMetadata
    return some (form s)

/- `while trimmed.startswith("@"): trimmed = trimmed[1:].lstrip()` drops the run of at signs
   and white space that a stripped text begins with. -/
def withoutAts (s : String) : String :=
  String.ofList ((strip s).toList.dropWhile fun c => c = '@' || isSpace c)

def normalizeCreatorDisplayName : Option String → Except Failure (Option String) :=
  normalizeCreator (fun s => lib.nfc (strip s)) 200

def normalizeCreatorStableId : Option String → Except Failure (Option String) :=
  normalizeCreator strip 128

def normalizeCreatorHandle : Option String → Except Failure (Option String) :=
  normalizeCreator (fun s => lib.lower (withoutAts s)) 64

def validateCreatorAttributionFields (creator : Creator) : Except Failure Creator := do
  let stableId ← normalizeCreatorStableId creator.stableId
  let handle ← normalizeCreatorHandle lib creator.handle
  let displayName ← normalizeCreatorDisplayName lib creator.displayName
  let blank := stableId.isNone && handle.isNone && displayName.isNone
  require (creator.kind.isNone = blank) .invalidMetadata
  return ⟨creator.kind, stableId, handle, displayName⟩

/-- A creator as its own validation returns it. -/
def Creator.Normal (creator : Creator) : Prop :=
  validateCreatorAttributionFields lib creator = .ok creator

instance (creator : Creator) : Decidable (creator.Normal lib) :=
  match h : validateCreatorAttributionFields lib creator with
  | .ok found => decidable_of_iff (found = creator) (by simp [Creator.Normal, h])
  | .error x => isFalse (by simp [Creator.Normal, h])

end Creator

section Collection

/-- `CollectionState`, whose constructor pairs its two fields. -/
structure CollectionState where
  collectionKey : Option MediaCollectionKey
  processedAtMs : Option Int
  paired : collectionKey.isSome = processedAtMs.isSome
  nonnegative : ∀ ms ∈ processedAtMs, 0 ≤ ms

def CollectionState.make (collectionKey : Option MediaCollectionKey) (processedAtMs : Option Int) :
    Except Failure CollectionState :=
  if h : collectionKey.isSome = processedAtMs.isSome ∧ ∀ ms ∈ processedAtMs, 0 ≤ ms then
    .ok ⟨collectionKey, processedAtMs, h.1, h.2⟩
  else .error .invalidMetadata

/- `derive_collection_state`. -/
def deriveCollectionState (currentCollectionKey : Option MediaCollectionKey)
    (currentProcessedAtMs : Option Int) (hasTags : Bool) (nowMs : Int) :
    Except Failure CollectionState :=
  if currentCollectionKey.isSome && hasTags then
    CollectionState.make currentCollectionKey currentProcessedAtMs
  else if currentCollectionKey.isNone && hasTags then
    CollectionState.make (some .processed) (some nowMs)
  else CollectionState.make none none

def normalizeGenresForCategory (contentCategory : ContentCategory) (genreKeys : List MovieGenre) :
    List MovieGenre :=
  if contentCategory = .movie then genreKeys else []

end Collection

/-- `MediaMetadata`: its constructor checks the lists and the times and puts the creator
attribution into its normal form. -/
structure MediaMetadata (lib : Library) where
  displayTitle : Option MediaDisplayTitle
  description : Option MediaDescription
  tagKeys : List CanonicalTagKey
  createdAtMs : Int
  updatedAtMs : Int
  contentCategory : ContentCategory
  acquisitionSource : AcquisitionSource
  genreKeys : List MovieGenre
  creator : Creator
  few_tags : tagKeys.length ≤ maxMediaTags
  nodup_tags : tagKeys.Nodup
  few_genres : genreKeys.length ≤ maxMediaGenres
  nodup_genres : genreKeys.Nodup
  genres_of_movie : genreKeys ≠ [] → contentCategory = .movie
  normal : creator.Normal lib
  ordered : 0 ≤ createdAtMs ∧ createdAtMs ≤ updatedAtMs

end FrameNest.Metadata
