import FrameNest.Metadata.Reviewing

/-! The calls that write metadata, one transaction each, and the catalog a sequence of them
leaves. A history lists its newest event first. -/
namespace FrameNest.Metadata
open Relational
variable (lib : Library)

section Committing
variable {lib} (outside : Outside)

/- The row `commit_cataloged_publication` inserts. -/
def committedRow (metadata : MediaMetadata lib) (collection : CollectionState) : MetadataRow where
  displayTitle := metadata.displayTitle.map MediaDisplayTitle.value
  description := metadata.description.map MediaDescription.value
  contentCategory := metadata.contentCategory
  acquisitionSource := metadata.acquisitionSource
  creator := metadata.creator
  collectionKey := collection.collectionKey
  processedAtMs := collection.processedAtMs
  createdAtMs := metadata.createdAtMs
  updatedAtMs := metadata.updatedAtMs

def commitOperation (metadata : MediaMetadata lib) (m : Medium) : Except Failure Medium := do
  let collection ← deriveCollectionState none none (metadata.tagKeys ≠ []) metadata.updatedAtMs
  let stored ← insertMetadata (committedRow metadata collection) m
  insertAssignments outside (metadata.tagKeys.map CanonicalTagKey.value) 0 stored

/- `commit_cataloged_publication`, as far as it writes metadata; `accepted` is what the rows of
   the upload and of its publication, and of the new location, say to it. -/
def commitCatalogedPublication (mediaId : String) (accepted : Bool)
    (metadata : Option (MediaMetadata lib)) (w : Catalog) : Except Failure Catalog := do
  require (metadata.all fun found => found.genreKeys = []) .uploadRefused
  require accepted .uploadRefused
  match Named.put? w mediaId Medium.new, metadata with
  | none, _ => .error .repositoryFailure
  | some w', none => return w'
  | some w', some found => do
    let m ← commitOperation outside found Medium.new
    return Named.set w' mediaId m

end Committing

inductive Call where
  | register (mediaId : String)
  | save (mediaId : String) (request : SaveRequest)
  | apply (mediaId : String) (request : ReviewRequest)
  | commit (mediaId : String) (accepted : Bool) (metadata : Option (MediaMetadata lib))

/-- A call, and the tables it finds beside the ones it writes. -/
structure Event where
  outside : Outside
  call : Call lib

variable {lib}

namespace Call

def mediaId : Call lib → String
  | register mediaId | save mediaId _ | apply mediaId _ | commit mediaId _ _ => mediaId

/- The clock value of a call. -/
def nowMs : Call lib → Option Int
  | register _ | commit _ _ none => none
  | save _ request => some request.nowMs
  | apply _ request => some request.nowMs
  | commit _ _ (some metadata) => some metadata.updatedAtMs

end Call

/- What a call does when it does not raise; a logical medium is registered without metadata. -/
def Event.operation (event : Event lib) (w : Catalog) : Except Failure (Unit × Catalog) :=
  match event.call with
  | .register mediaId =>
    match Named.put? w mediaId Medium.new with
    | some w' => .ok ((), w')
    | none => .error .repositoryFailure
  | .save mediaId request =>
    (saveMediaMetadata lib event.outside mediaId request w).map fun saved => ((), saved.2)
  | .apply mediaId request =>
    (applyReview lib event.outside mediaId request w).map fun applied => ((), applied.2)
  | .commit mediaId accepted metadata =>
    (commitCatalogedPublication event.outside mediaId accepted metadata w).map fun w' => ((), w')

def Event.step (event : Event lib) (w : Catalog) : Catalog := (transaction w event.operation).2

/- The catalog after a history, from an empty one. -/
def after : List (Event lib) → Catalog
  | [] => .empty
  | event :: past => event.step (after past)

/- The medium after a history; one that is not registered has no rows. -/
def mediumAfter (history : List (Event lib)) (mediaId : String) : Medium :=
  (Named.get? (after history) mediaId).getD .new

end FrameNest.Metadata
