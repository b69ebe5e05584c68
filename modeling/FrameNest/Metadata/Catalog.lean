import FrameNest.Metadata.Values
import FrameNest.Relational.Named
import Mathlib.Data.List.Sort

/-! The catalog rows of logical media: the metadata row, tags, genres and the receipts of
applied analysis results, with the constraints of their tables. -/
namespace FrameNest.Metadata
open Plain Relational

structure MetadataRow where
  displayTitle : Option String
  description : Option String
  contentCategory : ContentCategory
  acquisitionSource : AcquisitionSource
  creator : Creator
  collectionKey : Option MediaCollectionKey
  processedAtMs : Option Int
  createdAtMs : Int
  updatedAtMs : Int
deriving DecidableEq

structure TagAssignment where
  tagKey : String
  position : Nat
deriving DecidableEq

structure GenreAssignment where
  genreKey : MovieGenre
  position : Nat
deriving DecidableEq

inductive ReviewField where
  | displayTitle | description | tags
deriving DecidableEq

structure FieldSourceRow where
  fieldName : ReviewField
  analysisRunId : String
  appliedByLoginKey : String
  appliedAtMs : Int
  valueDigest : String
deriving DecidableEq

structure TagSourceRow where
  tagKey : String
  analysisRunId : String
  appliedByLoginKey : String
  appliedAtMs : Int
deriving DecidableEq

/-- All rows of one logical medium. -/
structure Medium where
  metadata : Option MetadataRow
  tags : Table TagAssignment.tagKey
  genres : Table GenreAssignment.genreKey
  fieldSources : Table FieldSourceRow.fieldName
  tagSources : Table TagSourceRow.tagKey

def Medium.new : Medium := ⟨none, .empty, .empty, .empty, .empty⟩

/-- The logical media of a catalog, by identity. -/
abbrev Catalog := Named Medium

structure CanonicalTagView where
  key : String
  displayName : String
deriving DecidableEq

/-- A row of `media_analysis_runs`; `successfulGeneric` is what the predicates of an analyzed
generic run, its result schema among them, say of the row alone. -/
structure AnalysisRun where
  id : String
  mediaId : String
  successfulGeneric : Bool
  resultJson : String
  completedAtMs : Int
  providerId : String
  modelId : String
deriving DecidableEq

/-- The tables a metadata method reads and does not write. -/
structure Outside where
  canonicalTags : List CanonicalTagView
  runs : List AnalysisRun

section Constraints

def lengthWithin (low high : Nat) (s : String) : Bool :=
  low ≤ sqlLength s.toList && sqlLength s.toList ≤ high

/- `creator_handle = lower(creator_handle) AND substr(creator_handle, 1, 1) != '@'`; `lower`
   folds the ASCII letters only. -/
def isHandleColumn (s : String) : Bool :=
  lengthWithin 1 64 s && !s.toList.any (fun c => 'A' ≤ c && c ≤ 'Z') && s.toList.head? ≠ some '@'

/- `ck_media_metadata_creator_attribution`. -/
def Creator.check (creator : Creator) : Bool :=
  match creator.kind with
  | none => creator.stableId.isNone && creator.handle.isNone && creator.displayName.isNone
  | some _ =>
    (creator.stableId.isSome || creator.handle.isSome || creator.displayName.isSome) &&
      creator.stableId.all (lengthWithin 1 128) && creator.handle.all isHandleColumn &&
      creator.displayName.all (lengthWithin 1 200)

/- The CHECK constraints of `media_metadata`. -/
def MetadataRow.check (row : MetadataRow) : Bool :=
  row.creator.check && row.collectionKey.isSome = row.processedAtMs.isSome &&
    row.processedAtMs.all (fun ms => 0 ≤ ms) && row.displayTitle.all (lengthWithin 1 240) &&
    row.description.all (lengthWithin 1 10000) && 0 ≤ row.createdAtMs &&
    row.createdAtMs ≤ row.updatedAtMs

def isReceipt (analysisRunId appliedByLoginKey : String) (appliedAtMs : Int) : Bool :=
  analysisRunId.toList.length = 36 && isLoginKeyColumn appliedByLoginKey && 0 ≤ appliedAtMs

end Constraints

section Statements

/- INSERT INTO media_metadata. -/
def insertMetadata (row : MetadataRow) (m : Medium) : Except Failure Medium := do
  require (m.metadata.isNone && row.check) .repositoryFailure
  return { m with metadata := some row }

/- UPDATE media_metadata of a row that is there. -/
def updateMetadata (row : MetadataRow) (m : Medium) : Except Failure Medium := do
  require row.check .repositoryFailure
  return { m with metadata := some row }

/- DELETE FROM media_canonical_tags, or media_genres, WHERE media_id = .. -/
def deleteAssignments (m : Medium) : Medium := { m with tags := .empty }

def deleteGenres (m : Medium) : Medium := { m with genres := .empty }

def insertAssignment (outside : Outside) (row : TagAssignment) (m : Medium) :
    Except Failure Medium := do
  require (m.metadata.isSome && row.position < 32 &&
    m.tags.rows.all (fun other => other.position ≠ row.position) &&
    lengthWithin 1 64 row.tagKey &&
    (outside.canonicalTags.map CanonicalTagView.key).contains row.tagKey) .repositoryFailure
  match m.tags.insert? row with
  | some tags => return { m with tags := tags }
  | none => .error .repositoryFailure

/- `_insert_assignments`: the keys in order, from a first position on. -/
def insertAssignments (outside : Outside) : List String → Nat → Medium → Except Failure Medium
  | [], _, m => .ok m
  | key :: keys, position, m => do
    let m' ← insertAssignment outside ⟨key, position⟩ m
    insertAssignments outside keys (position + 1) m'

def insertGenre (row : GenreAssignment) (m : Medium) : Except Failure Medium := do
  require (m.metadata.isSome && row.position < 8 &&
    m.genres.rows.all fun other => other.position ≠ row.position) .repositoryFailure
  match m.genres.insert? row with
  | some genres => return { m with genres := genres }
  | none => .error .repositoryFailure

def insertGenres : List MovieGenre → Nat → Medium → Except Failure Medium
  | [], _, m => .ok m
  | genre :: genres, position, m => do
    let m' ← insertGenre ⟨genre, position⟩ m
    insertGenres genres (position + 1) m'

end Statements

section Loading

/- `ORDER BY position` of the assignments of one medium. -/
def Medium.tagKeys (m : Medium) : List String :=
  (m.tags.rows.insertionSort fun a b => a.position ≤ b.position).map TagAssignment.tagKey

def Medium.genreKeys (m : Medium) : List MovieGenre :=
  (m.genres.rows.insertionSort fun a b => a.position ≤ b.position).map GenreAssignment.genreKey

structure MediaMetadataSnapshot where
  persisted : Bool
  displayTitle : Option MediaDisplayTitle
  description : Option MediaDescription
  tagKeys : List CanonicalTagKey
  collectionKey : Option MediaCollectionKey
  processedAtMs : Option Int
  createdAtMs : Option Int
  updatedAtMs : Option Int
  contentCategory : ContentCategory
  acquisitionSource : AcquisitionSource
  genreKeys : List MovieGenre
  creator : Creator

/- `except (.., ValueError)` around the constructors of a snapshot. -/
def asRepositoryFailure {α : Type} : Except Failure α → Except Failure α
  | .ok a => .ok a
  | .error _ => .error .repositoryFailure

/- `_load_metadata_snapshot`. -/
def loadMetadataSnapshot (lib : Library) (m : Medium) : Except Failure MediaMetadataSnapshot :=
  match m.metadata with
  | none => .ok ⟨false, none, none, [], none, none, none, none, defaultContentCategory,
      defaultAcquisitionSource, [], .absent⟩
  | some row => asRepositoryFailure do
    let creator ← validateCreatorAttributionFields lib row.creator
    let displayTitle ← parseNullable MediaDisplayTitle.parse row.displayTitle
    let description ← parseNullable MediaDescription.parse row.description
    let tagKeys ← m.tagKeys.mapM CanonicalTagKey.parse
    return ⟨true, displayTitle, description, tagKeys, row.collectionKey, row.processedAtMs,
      some row.createdAtMs, some row.updatedAtMs, row.contentCategory, row.acquisitionSource,
      m.genreKeys, creator⟩

end Loading
end FrameNest.Metadata
