import FrameNest.Concurrent.RelyGuarantee
import FrameNest.Removal.Removing

/-! The pictures derived from a medium: cover artifacts, their thumbnails and gallery previews, the
calls that write them, and the clean-up after the medium's removal from the catalog. -/
namespace FrameNest.Removal
open Concurrent

section Tables

inductive CoverSourceKind where
  | gif | video | image
deriving DecidableEq

/-- `MediaCoverDraft`, without its constants and the time of acceptance: what `same_payload`
compares. -/
structure MediaCoverDraft where
  mediaId : MediaId
  sourceLocationId : MediaLocationId
  sourceKind : CoverSourceKind
  sourceTimestampMs : Int
  sourceSizeBytes : Int
  sourceMtimeNs : Option Int
  sourceDurationMs : Option Int
  sourceObservationDigest : String
  artifactDigest : String
  artifactWidth : Int
  artifactHeight : Int
  artifactByteSize : Int
deriving DecidableEq

/-- A row of `media_covers`. -/
structure AcceptedCover where
  draft : MediaCoverDraft
  revision : Int
deriving DecidableEq

/-- What the clean-up reads of a receipt. -/
structure CleanupReceipt where
  mediaId : MediaId
  coverArtifactDigest : Option String
  previewLocationIds : Option (List MediaLocationId)
  coverCleanupState : CleanupState
  previewCleanupState : CleanupState
deriving DecidableEq

/-- What one step of the clean-up deletes: a medium's directory of covers, one thumbnail, or a
location's directory of previews. -/
inductive CleanupTarget where
  | covers (mediaId : MediaId)
  | thumbnail (mediaId : MediaId) (digest : String)
  | previews (locationId : MediaLocationId)
deriving DecidableEq

/-- The tables and the three roots. A location row is there as long as its medium's is, so that
the table keeps those of removed media; `swept` records what the clean-up has deleted so far. -/
structure PictureStore where
  media : List MediaId
  locations : List (MediaLocationId × MediaId)
  covers : MediaId → Option AcceptedCover
  receipts : MediaId → Option CleanupReceipt
  artifacts : List (MediaId × String)
  thumbnails : List (MediaId × String)
  previews : List (MediaLocationId × String)
  swept : List CleanupTarget

def PictureStore.empty : PictureStore where
  media := []
  locations := []
  covers _ := none
  receipts _ := none
  artifacts := []
  thumbnails := []
  previews := []
  swept := []

end Tables

section Effects

inductive PictureFailure where
  | notFound | conflict | unavailable | failed
deriving DecidableEq

/-- The answers of the outside to one effect: whether it raises, what is left where a deletion
raises midway, the draft of an accepted frame, and the digest in a preview's key when one has to
be generated. -/
structure Outside where
  raises : Bool
  remaining : List String
  draft : MediaCoverDraft
  previewDigest : Option String

inductive PictureEffect where
  | register (mediaId : MediaId) (locationIds : List MediaLocationId)
  | addLocation (mediaId : MediaId) (locationId : MediaLocationId)
  | prepareCover (mediaId : MediaId) (locationId : MediaLocationId)
  | publishArtifact (mediaId : MediaId) (digest : String)
  | setCover (draft : MediaCoverDraft) (expectedRevision : Int)
  | getCover (mediaId : MediaId)
  | containsThumbnail (mediaId : MediaId) (digest : String)
  | readArtifact (mediaId : MediaId) (digest : String)
  | publishThumbnail (mediaId : MediaId) (digest : String)
  | preparePreview (mediaId : MediaId) (locationId : MediaLocationId)
  | publishPreview (locationId : MediaLocationId) (digest : String)
  | removeCatalogMedia (mediaId : MediaId)
  | getReceipt (mediaId : MediaId)
  | sweep (target : CleanupTarget)
  | updateCleanupStates (mediaId : MediaId) (cover preview : CleanupState)

def PictureEffect.Answer : PictureEffect → Type
  | prepareCover _ _ => MediaCoverDraft
  | setCover _ _ => AcceptedCover
  | getCover _ => Option AcceptedCover
  | containsThumbnail _ _ => Bool
  | preparePreview _ _ => Option String
  | removeCatalogMedia _ => CleanupReceipt
  | getReceipt _ => CleanupReceipt
  | updateCleanupStates _ _ _ => CleanupReceipt
  | _ => Unit

namespace PictureStore
variable (s : PictureStore)

def hasLocation (mediaId : MediaId) (locationId : MediaLocationId) : Bool :=
  mediaId ∈ s.media && (locationId, mediaId) ∈ s.locations

/- Identities are drawn anew. -/
def newLocation (locationId : MediaLocationId) : Bool := locationId ∉ s.locations.map Prod.fst

/- `SqliteMediaCoverRepository.set_cover`. -/
def setCover (draft : MediaCoverDraft) (expectedRevision : Int) :
    Except PictureFailure (AcceptedCover × PictureStore) :=
  if draft.mediaId ∉ s.media then .error .notFound
  else
    match s.covers draft.mediaId with
    | none =>
      if expectedRevision ≠ 0 then .error .conflict
      else .ok (⟨draft, 1⟩,
        { s with covers := Function.update s.covers draft.mediaId (some ⟨draft, 1⟩) })
    | some current =>
      if expectedRevision ≠ current.revision then .error .conflict
      else if draft = current.draft then .ok (current, s)
      else
        let replaced : AcceptedCover := ⟨draft, current.revision + 1⟩
        .ok (replaced, { s with covers := Function.update s.covers draft.mediaId (some replaced) })

/- The clean-up part of `_build_receipt`. -/
def receiptOf (mediaId : MediaId) : CleanupReceipt :=
  let locationIds := (s.locations.filter fun l => l.2 = mediaId).map Prod.fst
  { mediaId := mediaId
    coverArtifactDigest := (s.covers mediaId).map fun row => row.draft.artifactDigest
    previewLocationIds := if locationIds = [] then none else some locationIds
    coverCleanupState := if (s.covers mediaId).isNone then .none else .pending
    previewCleanupState := if locationIds = [] then .none else .pending }

/- The transaction of `remove_catalog_media`. -/
def removeCatalogMedia (mediaId : MediaId) : PictureStore :=
  { s with
    media := s.media.filter fun other => other ≠ mediaId
    covers := Function.update s.covers mediaId none
    receipts := Function.update s.receipts mediaId (some (s.receiptOf mediaId)) }

/- `shutil.rmtree` of a directory, or `unlink`; where it raises, some names may remain. -/
def delete (target : CleanupTarget) (remaining : List String) : PictureStore :=
  match target with
  | .covers mediaId =>
    { s with artifacts := s.artifacts.filter fun f => f.1 ≠ mediaId || f.2 ∈ remaining }
  | .thumbnail mediaId digest =>
    { s with thumbnails := s.thumbnails.filter fun f => f ≠ (mediaId, digest) || f.2 ∈ remaining }
  | .previews locationId =>
    { s with previews := s.previews.filter fun f => f.1 ≠ locationId || f.2 ∈ remaining }

def sweep (target : CleanupTarget) : PictureStore :=
  { s.delete target [] with swept := target :: s.swept }

end PictureStore

def pictureExec (i : Outside) :
    (e : PictureEffect) → PictureStore → Except PictureFailure e.Answer × PictureStore
  | .register mediaId locationIds, s =>
    if mediaId ∉ s.media && (s.receipts mediaId).isNone && locationIds.all s.newLocation then
      (.ok (), { s with
        media := mediaId :: s.media
        locations := locationIds.map (fun l => (l, mediaId)) ++ s.locations })
    else (.error .failed, s)
  | .addLocation mediaId locationId, s =>
    if mediaId ∈ s.media && s.newLocation locationId then
      (.ok (), { s with locations := (locationId, mediaId) :: s.locations })
    else (.error .failed, s)
  | .prepareCover mediaId locationId, s =>
    if !s.hasLocation mediaId locationId then (.error .notFound, s)
    else if i.raises then (.error .unavailable, s)
    else (.ok { i.draft with mediaId := mediaId, sourceLocationId := locationId }, s)
  | .publishArtifact mediaId digest, s =>
    if i.raises then (.error .failed, s)
    else (.ok (), { s with artifacts := (mediaId, digest) :: s.artifacts })
  | .setCover draft expectedRevision, s =>
    match s.setCover draft expectedRevision with
    | .error x => (.error x, s)
    | .ok (row, t) => (.ok row, t)
  | .getCover mediaId, s => (.ok (s.covers mediaId), s)
  | .containsThumbnail mediaId digest, s =>
    (.ok ((mediaId, digest) ∈ s.thumbnails && !i.raises : Bool), s)
  | .readArtifact mediaId digest, s =>
    if (mediaId, digest) ∈ s.artifacts && !i.raises then (.ok (), s) else (.error .failed, s)
  | .publishThumbnail mediaId digest, s =>
    if i.raises then (.error .failed, s)
    else (.ok (), { s with thumbnails := (mediaId, digest) :: s.thumbnails })
  | .preparePreview mediaId locationId, s =>
    if !s.hasLocation mediaId locationId then (.error .notFound, s)
    else if i.raises then (.error .unavailable, s)
    else (.ok i.previewDigest, s)
  | .publishPreview locationId digest, s =>
    if i.raises then (.error .failed, s)
    else (.ok (), { s with previews := (locationId, digest) :: s.previews })
  | .removeCatalogMedia mediaId, s =>
    if mediaId ∉ s.media then (.error .notFound, s)
    else if i.raises then (.error .failed, s)
    else (.ok (s.receiptOf mediaId), s.removeCatalogMedia mediaId)
  | .getReceipt mediaId, s =>
    match s.receipts mediaId with
    | none => (.error .notFound, s)
    | some receipt => (.ok receipt, s)
  | .sweep target, s =>
    if i.raises then (.error .failed, s.delete target i.remaining) else (.ok (), s.sweep target)
  | .updateCleanupStates mediaId cover preview, s =>
    match s.receipts mediaId with
    | none => (.error .notFound, s)
    | some receipt =>
      let updated := { receipt with coverCleanupState := cover, previewCleanupState := preview }
      (.ok updated, { s with receipts := Function.update s.receipts mediaId (some updated) })

end Effects

section Programs

abbrev PictureProgram (α : Type) := Program PictureEffect PictureEffect.Answer PictureFailure α

abbrev issue (e : PictureEffect) : PictureProgram e.Answer := Program.perform e

inductive ThumbnailState where
  | none | ready | missing
deriving DecidableEq

/- `_generate_thumbnail`. -/
def generateThumbnail (mediaId : MediaId) (digest : String) : PictureProgram ThumbnailState := do
  let present ← issue (.containsThumbnail mediaId digest)
  match (show Bool from present) with
  | true => return .ready
  | false =>
    Program.rescue (do
      issue (.readArtifact mediaId digest)
      issue (.publishThumbnail mediaId digest)
      return .ready) fun _ => return .missing

/-- `CoverService.accept`; `prepareCover` stands for all it does before it publishes. -/
def accept (mediaId : MediaId) (locationId : MediaLocationId) (expectedRevision : Int) :
    PictureProgram ThumbnailState := do
  let draft ← issue (.prepareCover mediaId locationId)
  issue (.publishArtifact mediaId (MediaCoverDraft.artifactDigest draft))
  let _ ← issue (.setCover draft expectedRevision)
  generateThumbnail mediaId (MediaCoverDraft.artifactDigest draft)

/-- `CoverService.regenerate_thumbnail`. -/
def regenerateThumbnail (mediaId : MediaId) : PictureProgram ThumbnailState := do
  let cover ← issue (.getCover mediaId)
  match (show Option AcceptedCover from cover) with
  | none => return .none
  | some row => generateThumbnail mediaId row.draft.artifactDigest

/-- `GalleryPreviewService.generate_one`. -/
def generatePreview (mediaId : MediaId) (locationId : MediaLocationId) : PictureProgram Unit := do
  let digest ← issue (.preparePreview mediaId locationId)
  match (show Option String from digest) with
  | none => return ()
  | some digest => issue (.publishPreview locationId digest)

/- `cleanup_cover`. -/
def cleanupCover (mediaId : MediaId) : Option String → PictureProgram CleanupState
  | none => return .none
  | some digest =>
    Program.rescue (do
      issue (.sweep (.covers mediaId))
      issue (.sweep (.thumbnail mediaId digest))
      return .complete) fun _ => return .failed

def sweepPreviews : List MediaLocationId → PictureProgram Unit
  | [] => return ()
  | locationId :: rest => do
    issue (.sweep (.previews locationId))
    sweepPreviews rest

/- `cleanup_previews`. -/
def cleanupPreviews : Option (List MediaLocationId) → PictureProgram CleanupState
  | none => return .none
  | some locationIds =>
    Program.rescue (do
      sweepPreviews locationIds
      return .complete) fun _ => return .failed

def CleanupState.isOpen : CleanupState → Bool
  | .pending | .failed => true
  | .none | .complete => false

/- What is done stays, what is open is tried. -/
def coverState (receipt : CleanupReceipt) : PictureProgram CleanupState :=
  if receipt.coverCleanupState.isOpen then cleanupCover receipt.mediaId receipt.coverArtifactDigest
  else return receipt.coverCleanupState

def previewState (receipt : CleanupReceipt) : PictureProgram CleanupState :=
  if receipt.previewCleanupState.isOpen then cleanupPreviews receipt.previewLocationIds
  else return receipt.previewCleanupState

/- `_run_cleanup`. -/
def cleanUp (receipt : CleanupReceipt) : PictureProgram CleanupReceipt := do
  let cover ← coverState receipt
  let preview ← previewState receipt
  if cover = receipt.coverCleanupState ∧ preview = receipt.previewCleanupState then return receipt
  else issue (.updateCleanupStates receipt.mediaId cover preview)

inductive PictureCall where
  | register (mediaId : MediaId) (locationIds : List MediaLocationId)
  | addLocation (mediaId : MediaId) (locationId : MediaLocationId)
  | accept (mediaId : MediaId) (locationId : MediaLocationId) (expectedRevision : Int)
  | regenerateThumbnail (mediaId : MediaId)
  | generatePreview (mediaId : MediaId) (locationId : MediaLocationId)
  | execute (mediaId : MediaId)
  | retryCleanup (mediaId : MediaId)

def PictureCall.program : PictureCall → PictureProgram Unit
  | .register mediaId locationIds => issue (.register mediaId locationIds)
  | .addLocation mediaId locationId => issue (.addLocation mediaId locationId)
  | .accept mediaId locationId expectedRevision => do
    let _ ← Removal.accept mediaId locationId expectedRevision
  | .regenerateThumbnail mediaId => do
    let _ ← Removal.regenerateThumbnail mediaId
  | .generatePreview mediaId locationId => Removal.generatePreview mediaId locationId
  | .execute mediaId => do
    let receipt ← issue (.removeCatalogMedia mediaId)
    let _ ← cleanUp receipt
  | .retryCleanup mediaId => do
    let receipt ← issue (.getReceipt mediaId)
    let _ ← cleanUp receipt

/-- Any number of these calls beside each other. -/
def pictureSystem : System PictureCall Outside PictureEffect PictureEffect.Answer PictureFailure
    PictureStore Unit Unit where
  exec := pictureExec
  note _ _ _ _ := ()
  permits _ _ _ _ := True
  may _ _ := True
  program := PictureCall.program
  memory _ := ()
  mayStart _ _ := true
  mayCrash := false

end Programs
section Invariant

namespace PictureStore
variable (s : PictureStore)

/-- The clean-up of the medium's covers is ahead, or the medium is still in the catalog. -/
def CoversAhead (mediaId : MediaId) : Prop :=
  mediaId ∈ s.media ∨ (s.receipts mediaId).any (fun r =>
    r.coverArtifactDigest.isSome && CleanupTarget.covers mediaId ∉ s.swept) = true

def ThumbnailAhead (mediaId : MediaId) (digest : String) : Prop :=
  mediaId ∈ s.media ∨ (s.receipts mediaId).any (fun r =>
    r.coverArtifactDigest = some digest && CleanupTarget.thumbnail mediaId digest ∉ s.swept) = true

/-- What the row of a medium's cover tells the clean-up to delete is all that is there. -/
def CoverTold (mediaId : MediaId) : Prop :=
  match s.covers mediaId with
  | none => (∀ f ∈ s.artifacts, f.1 ≠ mediaId) ∧ ∀ f ∈ s.thumbnails, f.1 ≠ mediaId
  | some row => ∀ f ∈ s.thumbnails, f.1 = mediaId → f.2 = row.draft.artifactDigest

/-- No file is written that the clean-up has passed, and no medium is removed with pictures that
the clean-up will not be told of. -/
def Careful (i : Outside) (e : PictureEffect) : Prop :=
  match e with
  | .publishArtifact mediaId _ => i.raises = false → s.CoversAhead mediaId
  | .publishThumbnail mediaId digest => i.raises = false → s.ThumbnailAhead mediaId digest
  | .publishPreview locationId _ => i.raises = false → CleanupTarget.previews locationId ∉ s.swept
  | .removeCatalogMedia mediaId => i.raises = false → s.CoverTold mediaId
  | _ => True

def CoverGone (mediaId : MediaId) (digest : Option String) : Prop :=
  ∀ d ∈ digest, .covers mediaId ∈ s.swept ∧ .thumbnail mediaId d ∈ s.swept

def PreviewsGone (locationIds : Option (List MediaLocationId)) : Prop :=
  ∀ l ∈ locationIds.getD [], .previews l ∈ s.swept

/-- A receipt lists what there is, and reports as done what has been deleted. -/
structure Honest (mediaId : MediaId) (receipt : CleanupReceipt) : Prop where
  media : receipt.mediaId = mediaId
  listed : ∀ l, (l, mediaId) ∈ s.locations → l ∈ receipt.previewLocationIds.getD []
  cover : receipt.coverCleanupState.isOpen = false →
    s.CoverGone mediaId receipt.coverArtifactDigest
  previews : receipt.previewCleanupState.isOpen = false →
    s.PreviewsGone receipt.previewLocationIds

structure Kept : Prop where
  fresh : ∀ m ∈ s.media, s.receipts m = none
  honest : ∀ m r, s.receipts m = some r → s.Honest m r
  artifacts : ∀ f ∈ s.artifacts, s.CoversAhead f.1
  thumbnails : ∀ f ∈ s.thumbnails, s.ThumbnailAhead f.1 f.2
  previews : ∀ f ∈ s.previews, CleanupTarget.previews f.1 ∉ s.swept ∧ ∃ m, (f.1, m) ∈ s.locations
  owner : ∀ l m m', (l, m) ∈ s.locations → (l, m') ∈ s.locations → m = m'
  sweptCovers : ∀ m, .covers m ∈ s.swept → s.receipts m ≠ none
  sweptThumbnails : ∀ m d, .thumbnail m d ∈ s.swept → s.receipts m ≠ none

/-- What every call leaves to the others. -/
structure Later (t : PictureStore) : Prop where
  swept : ∀ target ∈ s.swept, target ∈ t.swept
  locations : ∀ l ∈ s.locations, l ∈ t.locations
  receipts : ∀ m r, s.receipts m = some r → ∃ r', t.receipts m = some r' ∧
    r'.coverArtifactDigest = r.coverArtifactDigest ∧ r'.previewLocationIds = r.previewLocationIds

end PictureStore

instance (s : PictureStore) (m : MediaId) : Decidable (s.CoversAhead m) :=
  inferInstanceAs (Decidable (_ ∨ _))

instance (s : PictureStore) (m : MediaId) (d : String) : Decidable (s.ThumbnailAhead m d) :=
  inferInstanceAs (Decidable (_ ∨ _))

instance (s : PictureStore) (m : MediaId) : Decidable (s.CoverTold m) :=
  match h : s.covers m with
  | none => decidable_of_iff ((∀ f ∈ s.artifacts, f.1 ≠ m) ∧ ∀ f ∈ s.thumbnails, f.1 ≠ m)
      (by simp only [PictureStore.CoverTold, h])
  | some row => decidable_of_iff (∀ f ∈ s.thumbnails, f.1 = m → f.2 = row.draft.artifactDigest)
      (by simp only [PictureStore.CoverTold, h])

instance (s : PictureStore) (i : Outside) (e : PictureEffect) : Decidable (s.Careful i e) :=
  match e with
  | .publishArtifact mediaId _ => inferInstanceAs (Decidable (_ → s.CoversAhead mediaId))
  | .publishThumbnail mediaId digest =>
    inferInstanceAs (Decidable (_ → s.ThumbnailAhead mediaId digest))
  | .publishPreview locationId _ =>
    inferInstanceAs (Decidable (i.raises = false → CleanupTarget.previews locationId ∉ s.swept))
  | .removeCatalogMedia mediaId => inferInstanceAs (Decidable (_ → s.CoverTold mediaId))
  | .register _ _ | .addLocation _ _ | .prepareCover _ _ | .setCover _ _ | .getCover _
  | .containsThumbnail _ _ | .readArtifact _ _ | .preparePreview _ _ | .getReceipt _ | .sweep _
  | .updateCleanupStates _ _ _ => isTrue trivial

end Invariant

section Effects
variable {s t u : PictureStore} {m : MediaId}

namespace PictureStore

theorem coversAhead_iff : s.CoversAhead m ↔ m ∈ s.media ∨
    ∃ r, s.receipts m = some r ∧ r.coverArtifactDigest ≠ none ∧ .covers m ∉ s.swept := by
  simp [CoversAhead, Option.any_eq_true, Option.isSome_iff_ne_none]

theorem thumbnailAhead_iff {d : String} : s.ThumbnailAhead m d ↔ m ∈ s.media ∨
    ∃ r, s.receipts m = some r ∧ r.coverArtifactDigest = some d ∧ .thumbnail m d ∉ s.swept := by
  simp [ThumbnailAhead, Option.any_eq_true]

theorem Later.refl (s : PictureStore) : s.Later s :=
  ⟨fun _ h => h, fun _ h => h, fun _ r h => ⟨r, h, rfl, rfl⟩⟩

theorem Later.trans (h : s.Later t) (h' : t.Later u) : s.Later u where
  swept target hs := h'.swept target (h.swept target hs)
  locations l hl := h'.locations l (h.locations l hl)
  receipts m r hr := by
    obtain ⟨r', hr', hdigest, hids⟩ := h.receipts m r hr
    obtain ⟨r'', hr'', hdigest', hids'⟩ := h'.receipts m r' hr'
    exact ⟨r'', hr'', hdigest'.trans hdigest, hids'.trans hids⟩

theorem Later.coverGone (h : s.Later t) {digest : Option String} (hs : s.CoverGone m digest) :
    t.CoverGone m digest :=
  fun d hd => ⟨h.swept _ (hs d hd).1, h.swept _ (hs d hd).2⟩

theorem Later.previewsGone (h : s.Later t) {ids : Option (List MediaLocationId)}
    (hs : s.PreviewsGone ids) : t.PreviewsGone ids :=
  fun l hl => h.swept _ (hs l hl)

/-- An honest receipt stays one while its medium's locations do and the clean-up goes on. -/
theorem Honest.still {r : CleanupReceipt} (h : s.Honest m r)
    (hlocations : ∀ l, (l, m) ∈ t.locations → (l, m) ∈ s.locations)
    (hswept : ∀ target ∈ s.swept, target ∈ t.swept) : t.Honest m r where
  media := h.media
  listed l hl := h.listed l (hlocations l hl)
  cover hclosed d hd :=
    ⟨hswept _ (h.cover hclosed d hd).1, hswept _ (h.cover hclosed d hd).2⟩
  previews hclosed l hl := hswept _ (h.previews hclosed l hl)

theorem empty_kept : PictureStore.empty.Kept := by
  constructor <;> simp [PictureStore.empty]

/-- New locations, of a medium that is in the catalog then. -/
theorem Kept.located (h : s.Kept) {media : List MediaId} (ids : List MediaLocationId)
    (hmore : ∀ m' ∈ s.media, m' ∈ media) (hfresh : ∀ m' ∈ media, s.receipts m' = none)
    (hm : m ∈ media) (hnew : ∀ l ∈ ids, s.newLocation l = true) :
    { s with media, locations := ids.map (fun l => (l, m)) ++ s.locations }.Kept where
  fresh := hfresh
  honest m' r hr := by
    apply (h.honest m' r hr).still
    · intro l hl
      obtain hl | hl := List.mem_append.mp hl
      · obtain ⟨l', -, hpair⟩ := List.mem_map.mp hl
        have hsame : m = m' := congrArg Prod.snd hpair
        have hnone : s.receipts m' = none := hsame ▸ hfresh m hm
        rw [hnone] at hr
        cases hr
      · exact hl
    · exact fun _ h => h
  artifacts f hf := (h.artifacts f hf).imp_left (hmore _)
  thumbnails f hf := (h.thumbnails f hf).imp_left (hmore _)
  previews f hf := by
    obtain ⟨hswept, m', hm'⟩ := h.previews f hf
    exact ⟨hswept, m', List.mem_append_right _ hm'⟩
  owner l m₁ m₂ h₁ h₂ := by
    have hknown : ∀ m', (l, m') ∈ s.locations → l ∉ ids := by
      intro m' hl hids
      have hfree := of_decide_eq_true (hnew l hids)
      exact hfree (List.mem_map_of_mem (f := Prod.fst) hl)
    have hown : ∀ m', (l, m') ∈ ids.map (fun l => (l, m)) → m' = m ∧ l ∈ ids := by
      intro m' hl
      obtain ⟨l', hl', hpair⟩ := List.mem_map.mp hl
      obtain ⟨rfl, rfl⟩ := Prod.mk.inj hpair
      exact ⟨rfl, hl'⟩
    obtain h₁ | h₁ := List.mem_append.mp h₁
    · obtain ⟨rfl, hids⟩ := hown m₁ h₁
      obtain h₂ | h₂ := List.mem_append.mp h₂
      · exact (hown m₂ h₂).1.symm
      · exact absurd hids (hknown m₂ h₂)
    · obtain h₂ | h₂ := List.mem_append.mp h₂
      · exact absurd (hown m₂ h₂).2 (hknown m₁ h₁)
      · exact h.owner l m₁ m₂ h₁ h₂
  sweptCovers := h.sweptCovers
  sweptThumbnails := h.sweptThumbnails

/-- A file that the clean-up will come to. -/
theorem Kept.addArtifact (h : s.Kept) {digest : String} (hahead : s.CoversAhead m) :
    { s with artifacts := (m, digest) :: s.artifacts }.Kept :=
  { h with
    honest := fun m r hr => (h.honest m r hr).still (fun _ hl => hl) fun _ ht => ht
    artifacts := by
      intro f hf
      obtain rfl | hf := List.mem_cons.mp hf
      · exact hahead
      · exact h.artifacts f hf }

theorem Kept.addThumbnail (h : s.Kept) {digest : String} (hahead : s.ThumbnailAhead m digest) :
    { s with thumbnails := (m, digest) :: s.thumbnails }.Kept :=
  { h with
    honest := fun m r hr => (h.honest m r hr).still (fun _ hl => hl) fun _ ht => ht
    thumbnails := by
      intro f hf
      obtain rfl | hf := List.mem_cons.mp hf
      · exact hahead
      · exact h.thumbnails f hf }

theorem Kept.addPreview (h : s.Kept) {l : MediaLocationId} {digest : String}
    (hahead : CleanupTarget.previews l ∉ s.swept) (hl : (l, m) ∈ s.locations) :
    { s with previews := (l, digest) :: s.previews }.Kept :=
  { h with
    honest := fun m r hr => (h.honest m r hr).still (fun _ hl => hl) fun _ ht => ht
    previews := by
      intro f hf
      obtain rfl | hf := List.mem_cons.mp hf
      · exact ⟨hahead, m, hl⟩
      · exact h.previews f hf }

theorem receiptOf_ids : (s.receiptOf m).previewLocationIds.getD [] =
    (s.locations.filter fun l => l.2 = m).map Prod.fst := by
  unfold receiptOf
  by_cases hids : (s.locations.filter fun l => l.2 = m).map Prod.fst = []
  · simp only [hids, if_true]
    rfl
  · simp only [if_neg hids]
    rfl

/-- The receipt of a removal is honest. -/
theorem receiptOf_honest (s : PictureStore) (m : MediaId) : s.Honest m (s.receiptOf m) where
  media := rfl
  listed l hl := by
    rw [receiptOf_ids, List.mem_map]
    exact ⟨(l, m), List.mem_filter.mpr ⟨hl, by simp⟩, rfl⟩
  cover hclosed d hd := by
    cases hcover : s.covers m with
    | none => simp [receiptOf, hcover] at hd
    | some row => simp [receiptOf, hcover, CleanupState.isOpen] at hclosed
  previews hclosed := by
    unfold PreviewsGone
    rw [receiptOf_ids]
    by_cases hids : (s.locations.filter fun l => l.2 = m).map Prod.fst = []
    · rw [hids]
      simp
    · simp only [receiptOf, if_neg hids, CleanupState.isOpen] at hclosed
      cases hclosed

theorem receipts_removed (s : PictureStore) (m : MediaId) :
    (s.removeCatalogMedia m).receipts m = some (s.receiptOf m) := Function.update_self ..

theorem receipts_others {m' : MediaId} (h : m' ≠ m) :
    (s.removeCatalogMedia m).receipts m' = s.receipts m' := Function.update_of_ne h ..

/-- A removal that the cover's row tells of all there is. -/
theorem Kept.removed (h : s.Kept) (hm : m ∈ s.media) (htold : s.CoverTold m) :
    (s.removeCatalogMedia m).Kept where
  fresh m' hm' := by
    obtain ⟨hold, hne⟩ := List.mem_filter.mp hm'
    rw [receipts_others (of_decide_eq_true hne)]
    exact h.fresh m' hold
  honest m' r hr := by
    by_cases hsame : m' = m
    · subst hsame
      rw [receipts_removed] at hr
      obtain rfl := Option.some.inj hr
      exact (receiptOf_honest s m').still (fun _ hl => hl) fun _ ht => ht
    · rw [receipts_others hsame] at hr
      exact (h.honest m' r hr).still (fun _ hl => hl) fun _ ht => ht
  artifacts f hf := by
    rw [coversAhead_iff]
    by_cases hsame : f.1 = m
    · have hnone := h.fresh m hm
      refine Or.inr ⟨s.receiptOf f.1, by rw [hsame]; exact receipts_removed s m, ?_, ?_⟩
      · cases hcover : s.covers m with
        | none =>
          rw [CoverTold, hcover] at htold
          exact absurd hsame (htold.1 f hf)
        | some row => simp [receiptOf, hsame, hcover]
      · intro hswept
        rw [hsame] at hswept
        exact h.sweptCovers m hswept hnone
    · obtain hin | ⟨r, hr, hrest⟩ := coversAhead_iff.mp (h.artifacts f hf)
      · exact Or.inl (List.mem_filter.mpr ⟨hin, decide_eq_true hsame⟩)
      · exact Or.inr ⟨r, by rw [receipts_others hsame]; exact hr, hrest⟩
  thumbnails f hf := by
    rw [thumbnailAhead_iff]
    by_cases hsame : f.1 = m
    · have hnone := h.fresh m hm
      refine Or.inr ⟨s.receiptOf f.1, by rw [hsame]; exact receipts_removed s m, ?_, ?_⟩
      · cases hcover : s.covers m with
        | none =>
          rw [CoverTold, hcover] at htold
          exact absurd hsame (htold.2 f hf)
        | some row =>
          rw [CoverTold, hcover] at htold
          simp [receiptOf, hsame, hcover, htold f hf hsame]
      · intro hswept
        rw [hsame] at hswept
        exact h.sweptThumbnails m f.2 hswept hnone
    · obtain hin | ⟨r, hr, hrest⟩ := thumbnailAhead_iff.mp (h.thumbnails f hf)
      · exact Or.inl (List.mem_filter.mpr ⟨hin, decide_eq_true hsame⟩)
      · exact Or.inr ⟨r, by rw [receipts_others hsame]; exact hr, hrest⟩
  previews := h.previews
  owner := h.owner
  sweptCovers m' hm' := by
    by_cases hsame : m' = m
    · rw [hsame, receipts_removed]
      simp
    · rw [receipts_others hsame]
      exact h.sweptCovers m' hm'
  sweptThumbnails m' d hm' := by
    by_cases hsame : m' = m
    · rw [hsame, receipts_removed]
      simp
    · rw [receipts_others hsame]
      exact h.sweptThumbnails m' d hm'

/-- Files may go. -/
theorem Kept.fewer (h : s.Kept) {a b : List (MediaId × String)} {c : List (MediaLocationId × String)}
    (ha : ∀ f ∈ a, f ∈ s.artifacts) (hb : ∀ f ∈ b, f ∈ s.thumbnails) (hc : ∀ f ∈ c, f ∈ s.previews) :
    { s with artifacts := a, thumbnails := b, previews := c }.Kept :=
  { h with
    honest := fun m r hr => (h.honest m r hr).still (fun _ hl => hl) fun _ ht => ht
    artifacts := fun f hf => h.artifacts f (ha f hf)
    thumbnails := fun f hf => h.thumbnails f (hb f hf)
    previews := fun f hf => h.previews f (hc f hf) }

theorem Kept.deleted (h : s.Kept) (target : CleanupTarget) (remaining : List String) :
    (s.delete target remaining).Kept := by
  cases target with
  | covers m =>
    exact h.fewer (fun _ hf => List.mem_of_mem_filter hf) (fun _ hf => hf) fun _ hf => hf
  | thumbnail m d =>
    exact h.fewer (fun _ hf => hf) (fun _ hf => List.mem_of_mem_filter hf) fun _ hf => hf
  | previews l =>
    exact h.fewer (fun _ hf => hf) (fun _ hf => hf) fun _ hf => List.mem_of_mem_filter hf

@[simp] theorem delete_tables (s : PictureStore) (target : CleanupTarget) (remaining : List String) :
    (s.delete target remaining).media = s.media ∧
      (s.delete target remaining).locations = s.locations ∧
      (s.delete target remaining).receipts = s.receipts ∧
      (s.delete target remaining).swept = s.swept := by
  cases target <;> exact ⟨rfl, rfl, rfl, rfl⟩

/-- A target that belongs to a removed medium. -/
def Removed (s : PictureStore) : CleanupTarget → Prop
  | .covers m | .thumbnail m _ => s.receipts m ≠ none
  | .previews _ => True

theorem Kept.swept (h : s.Kept) {target : CleanupTarget} (hremoved : s.Removed target) :
    (s.sweep target).Kept := by
  have hless : (s.delete target []).Kept := h.deleted target []
  obtain ⟨hmedia, hlocations, hreceipts, hswept⟩ := delete_tables s target []
  have hgrown : ∀ other ∈ (s.delete target []).swept, other ∈ (s.sweep target).swept := by
    intro other hother
    rw [hswept] at hother
    exact List.mem_cons_of_mem _ hother
  have hstill : ∀ other, other ≠ target → other ∉ (s.delete target []).swept →
      other ∉ (s.sweep target).swept := by
    intro other hne hother hin
    obtain rfl | hin := List.mem_cons.mp hin
    · exact hne rfl
    · rw [hswept] at hother
      exact hother hin
  constructor
  · exact hless.fresh
  · intro m r hr
    exact (hless.honest m r hr).still (fun _ hl => hl) hgrown
  · intro f hf
    rw [coversAhead_iff]
    obtain hin | ⟨r, hr, hdigest, hfree⟩ := coversAhead_iff.mp (hless.artifacts f hf)
    · exact Or.inl hin
    · refine Or.inr ⟨r, hr, hdigest, hstill _ ?_ hfree⟩
      rintro rfl
      have hgone := (List.mem_filter.mp hf).2
      simp at hgone
  · intro f hf
    rw [thumbnailAhead_iff]
    obtain hin | ⟨r, hr, hdigest, hfree⟩ := thumbnailAhead_iff.mp (hless.thumbnails f hf)
    · exact Or.inl hin
    · refine Or.inr ⟨r, hr, hdigest, hstill _ ?_ hfree⟩
      rintro rfl
      have hgone := (List.mem_filter.mp hf).2
      simp at hgone
  · intro f hf
    obtain ⟨hfree, hknown⟩ := hless.previews f hf
    refine ⟨hstill _ ?_ hfree, hknown⟩
    rintro rfl
    have hgone := (List.mem_filter.mp hf).2
    simp at hgone
  · exact hless.owner
  · intro m hm
    have hreceipt : (s.sweep target).receipts m = s.receipts m := congrFun hreceipts m
    rw [hreceipt]
    obtain rfl | hm := List.mem_cons.mp hm
    · exact hremoved
    · exact h.sweptCovers m hm
  · intro m d hm
    have hreceipt : (s.sweep target).receipts m = s.receipts m := congrFun hreceipts m
    rw [hreceipt]
    obtain rfl | hm := List.mem_cons.mp hm
    · exact hremoved
    · exact h.sweptThumbnails m d hm

/-- A receipt may be written anew, as long as it is honest. -/
theorem Kept.updated (h : s.Kept) {r r' : CleanupReceipt} (hr : s.receipts m = some r)
    (hdigest : r'.coverArtifactDigest = r.coverArtifactDigest) (hhonest : s.Honest m r') :
    { s with receipts := Function.update s.receipts m (some r') }.Kept := by
  have hself : Function.update s.receipts m (some r') m = some r' := Function.update_self ..
  have hother : ∀ m', m' ≠ m → Function.update s.receipts m (some r') m' = s.receipts m' :=
    fun m' hne => Function.update_of_ne hne ..
  have hsome : ∀ m', s.receipts m' ≠ none → Function.update s.receipts m (some r') m' ≠ none := by
    intro m' hne
    by_cases hsame : m' = m
    · rw [hsame, hself]
      simp
    · rwa [hother m' hsame]
  -- a receipt with some digest is still there, with that digest
  have hfound : ∀ m' old, s.receipts m' = some old →
      ∃ new, Function.update s.receipts m (some r') m' = some new ∧
        new.coverArtifactDigest = old.coverArtifactDigest := by
    intro m' old hold
    by_cases hsame : m' = m
    · rw [hsame, hr] at hold
      rw [hsame, ← Option.some.inj hold]
      exact ⟨r', hself, hdigest⟩
    · exact ⟨old, (hother m' hsame).trans hold, rfl⟩
  constructor
  · intro m' hm'
    have hne : m' ≠ m := by
      rintro rfl
      rw [h.fresh m' hm'] at hr
      cases hr
    exact (hother m' hne).trans (h.fresh m' hm')
  · intro m' new hnew
    by_cases hsame : m' = m
    · subst hsame
      obtain rfl := Option.some.inj (hself.symm.trans hnew)
      exact hhonest.still (fun _ hl => hl) fun _ ht => ht
    · have hold : s.receipts m' = some new := (hother m' hsame).symm.trans hnew
      exact (h.honest m' new hold).still (fun _ hl => hl) fun _ ht => ht
  · intro f hf
    rw [coversAhead_iff]
    obtain hin | ⟨old, hold, hsome, hfree⟩ := coversAhead_iff.mp (h.artifacts f hf)
    · exact Or.inl hin
    · obtain ⟨new, hnew, hsame⟩ := hfound f.1 old hold
      exact Or.inr ⟨new, hnew, by rwa [hsame], hfree⟩
  · intro f hf
    rw [thumbnailAhead_iff]
    obtain hin | ⟨old, hold, hsome, hfree⟩ := thumbnailAhead_iff.mp (h.thumbnails f hf)
    · exact Or.inl hin
    · obtain ⟨new, hnew, hsame⟩ := hfound f.1 old hold
      exact Or.inr ⟨new, hnew, by rwa [hsame], hfree⟩
  · exact h.previews
  · exact h.owner
  · intro m' hm'
    exact hsome m' (h.sweptCovers m' hm')
  · intro m' d hm'
    exact hsome m' (h.sweptThumbnails m' d hm')

/-- What a call knows before one of its effects: the location of a preview, that it cleans up after
a removed medium, and that it reports as done what is deleted. -/
def Proper (s : PictureStore) : PictureEffect → Prop
  | .publishPreview l _ => ∃ m, (l, m) ∈ s.locations
  | .sweep target => s.Removed target
  | .updateCleanupStates m cover preview => ∃ r, s.receipts m = some r ∧
      (cover.isOpen = false → s.CoverGone m r.coverArtifactDigest) ∧
      (preview.isOpen = false → s.PreviewsGone r.previewLocationIds)
  | _ => True

theorem Later.removed (h : s.Later t) {target : CleanupTarget} (hs : s.Removed target) :
    t.Removed target := by
  have hreceipts : ∀ m, s.receipts m ≠ none → t.receipts m ≠ none := by
    intro m hm
    obtain ⟨r, hr⟩ := Option.ne_none_iff_exists'.mp hm
    obtain ⟨r', hr', -⟩ := h.receipts m r hr
    rw [hr']
    simp
  cases target with
  | covers m => exact hreceipts m hs
  | thumbnail m d => exact hreceipts m hs
  | previews l => trivial

theorem Later.proper (h : s.Later t) {e : PictureEffect} (hs : s.Proper e) : t.Proper e := by
  cases e with
  | publishPreview l d =>
    obtain ⟨m, hm⟩ := hs
    exact ⟨m, h.locations _ hm⟩
  | sweep target => exact h.removed hs
  | updateCleanupStates m cover preview =>
    obtain ⟨r, hr, hcover, hpreview⟩ := hs
    obtain ⟨r', hr', hdigest, hids⟩ := h.receipts m r hr
    refine ⟨r', hr', fun hclosed => ?_, fun hclosed => ?_⟩
    · rw [hdigest]
      exact h.coverGone (hcover hclosed)
    · rw [hids]
      exact h.previewsGone (hpreview hclosed)
  | _ => trivial

/-- A state that differs in its files and covers alone. -/
theorem later_of_same (hlocations : t.locations = s.locations) (hreceipts : t.receipts = s.receipts)
    (hswept : t.swept = s.swept) : s.Later t where
  swept target h := hswept ▸ h
  locations l h := hlocations ▸ h
  receipts m r h := ⟨r, by rw [hreceipts]; exact h, rfl, rfl⟩

/-- One effect, by a call that knows what it does and with the care that the removal asks for. -/
theorem exec_keeps {i : Outside} {e : PictureEffect} (h : s.Kept) (hproper : s.Proper e)
    (hcareful : s.Careful i e) : (pictureExec i e s).2.Kept ∧ s.Later (pictureExec i e s).2 := by
  have hsame : s.Kept ∧ s.Later s := ⟨h, Later.refl s⟩
  cases e with
  | register m ids =>
    simp only [pictureExec]
    split
    · rename_i hnew
      simp only [Bool.and_eq_true, List.all_eq_true, Option.isNone_iff_eq_none] at hnew
      refine ⟨h.located ids (fun _ hm => List.mem_cons_of_mem _ hm) ?_ List.mem_cons_self hnew.2, ?_⟩
      · intro m' hm'
        obtain rfl | hold := List.mem_cons.mp hm'
        · exact hnew.1.2
        · exact h.fresh m' hold
      · exact ⟨fun _ ht => ht, fun _ hl => List.mem_append_right _ hl, fun _ r hr => ⟨r, hr, rfl, rfl⟩⟩
    · exact hsame
  | addLocation m l =>
    simp only [pictureExec]
    split
    · rename_i hnew
      simp only [Bool.and_eq_true, decide_eq_true_eq] at hnew
      refine ⟨h.located [l] (fun _ hm => hm) h.fresh hnew.1 (by simpa using hnew.2), ?_⟩
      exact ⟨fun _ ht => ht, fun _ hl => List.mem_cons_of_mem _ hl, fun _ r hr => ⟨r, hr, rfl, rfl⟩⟩
    · exact hsame
  | prepareCover m l =>
    simp only [pictureExec]
    split
    · exact hsame
    · split <;> exact hsame
  | publishArtifact m d =>
    simp only [pictureExec]
    split
    · exact hsame
    · rename_i hraises
      exact ⟨h.addArtifact (hcareful (by simpa using hraises)), later_of_same rfl rfl rfl⟩
  | setCover draft expectedRevision =>
    have hcovers : ∀ row t, s.setCover draft expectedRevision = .ok (row, t) →
        ∃ covers, t = { s with covers } := by
      intro row t hset
      unfold setCover at hset
      split at hset
      · cases hset
      · split at hset
        · split at hset
          · cases hset
          · cases hset
            exact ⟨_, rfl⟩
        · split at hset
          · cases hset
          · split at hset
            · cases hset
              exact ⟨s.covers, rfl⟩
            · cases hset
              exact ⟨_, rfl⟩
    simp only [pictureExec]
    cases hset : s.setCover draft expectedRevision with
    | error x => exact hsame
    | ok found =>
      obtain ⟨covers, hstate⟩ := hcovers found.1 found.2 hset
      simp only [hstate]
      refine ⟨{ h with honest := fun m r hr => ?_ }, later_of_same rfl rfl rfl⟩
      exact (h.honest m r hr).still (fun _ hl => hl) fun _ ht => ht
  | getCover m => exact hsame
  | containsThumbnail m d => exact hsame
  | readArtifact m d =>
    simp only [pictureExec]
    split <;> exact hsame
  | publishThumbnail m d =>
    simp only [pictureExec]
    split
    · exact hsame
    · rename_i hraises
      exact ⟨h.addThumbnail (hcareful (by simpa using hraises)), later_of_same rfl rfl rfl⟩
  | preparePreview m l =>
    simp only [pictureExec]
    split
    · exact hsame
    · split <;> exact hsame
  | publishPreview l d =>
    simp only [pictureExec]
    split
    · exact hsame
    · rename_i hraises
      obtain ⟨m, hm⟩ := hproper
      exact ⟨h.addPreview (hcareful (by simpa using hraises)) hm, later_of_same rfl rfl rfl⟩
  | removeCatalogMedia m =>
    simp only [pictureExec]
    split
    · exact hsame
    · rename_i hmedia
      split
      · exact hsame
      · rename_i hraises
        have hm : m ∈ s.media := not_not.mp hmedia
        refine ⟨h.removed hm (hcareful (by simpa using hraises)), fun _ ht => ht, fun _ hl => hl, ?_⟩
        intro m' r hr
        have hne : m' ≠ m := by
          rintro rfl
          rw [h.fresh m' hm] at hr
          cases hr
        exact ⟨r, (receipts_others hne).trans hr, rfl, rfl⟩
  | getReceipt m =>
    simp only [pictureExec]
    split <;> exact hsame
  | sweep target =>
    obtain ⟨-, hlocations, hreceipts, hswept⟩ := delete_tables s target i.remaining
    obtain ⟨-, hlocations', hreceipts', -⟩ := delete_tables s target []
    simp only [pictureExec]
    split
    · exact ⟨h.deleted target i.remaining, later_of_same hlocations hreceipts hswept⟩
    · refine ⟨h.swept hproper, fun _ ht => List.mem_cons_of_mem _ ht, fun _ hl => ?_, fun _ r hr => ?_⟩
      · exact hlocations' ▸ hl
      · exact ⟨r, (congrFun hreceipts' _).trans hr, rfl, rfl⟩
  | updateCleanupStates m cover preview =>
    obtain ⟨r, hr, hcover, hpreview⟩ := hproper
    have hhonest := h.honest m r hr
    simp only [pictureExec, hr]
    refine ⟨h.updated hr rfl ⟨hhonest.media, hhonest.listed, hcover, hpreview⟩, fun _ ht => ht,
      fun _ hl => hl, fun m' r' hr' => ?_⟩
    by_cases hsame : m' = m
    · subst hsame
      rw [hr] at hr'
      obtain rfl := Option.some.inj hr'
      exact ⟨_, Function.update_self .., rfl, rfl⟩
    · exact ⟨r', (Function.update_of_ne hsame ..).trans hr', rfl, rfl⟩

end PictureStore
end Effects

section Cooperation
open PictureStore
variable {s t : PictureStore} {m : MediaId} {α : Type}

def pictureRoles : Roles PictureStore Unit where
  inv := Kept
  rely _ := Later
  guar _ := Later

/-- The calls, with every step of them a careful one. -/
def carefulSystem : System PictureCall Outside PictureEffect PictureEffect.Answer PictureFailure
    PictureStore Unit Unit := pictureSystem.restrict fun _ i e s => s.Careful i e

abbrev Tidy (Q : Except PictureFailure α → PictureStore → Prop) (p : PictureProgram α)
    (s : PictureStore) : Prop :=
  Secures carefulSystem.toProtocol pictureRoles () Q p s

/-- What the others do does not take away what stays true of later states. -/
theorem stable_of_later {J : PictureStore → Prop} (hJ : ∀ s t, s.Later t → J s → J t) :
    pictureRoles.Stable () J := ⟨hJ, fun s t _ => hJ s t⟩

/-- One effect that the call may make, and what follows its answer. -/
theorem tidy_issue {Q : Except PictureFailure α → PictureStore → Prop} {e : PictureEffect}
    {f : e.Answer → PictureProgram α} (hproper : s.Proper e)
    (hok : ∀ i a t u, pictureExec i e t = (.ok a, u) → u.Kept → s.Later u → Tidy Q (f a) u)
    (herror : ∀ x u, s.Later u → Q (.error x) u) : Tidy Q (issue e >>= f) s := by
  apply Secures.perform_bind
  intro t hrely hinv i hp
  obtain ⟨hkept, hlater⟩ := exec_keeps hinv (hrely.proper hproper) hp.2
  have hall : s.Later (pictureExec i e t).2 := hrely.trans hlater
  refine ⟨hkept, hlater, fun a ha => ?_, fun x _ => herror x _ hall⟩
  exact hok i a t _ (Prod.ext ha rfl) hkept hall

def AnyOutcome (_ : Except PictureFailure α) (_ : PictureStore) : Prop := True

/-- The same where nothing is asked of the outcome. -/
theorem tidy_any {e : PictureEffect} {f : e.Answer → PictureProgram α} (hproper : s.Proper e)
    (hnext : ∀ i a t u, pictureExec i e t = (.ok a, u) → u.Kept → Tidy AnyOutcome (f a) u) :
    Tidy AnyOutcome (issue e >>= f) s :=
  tidy_issue hproper (fun i a t u h hkept _ => hnext i a t u h hkept) fun _ _ _ => trivial

theorem tidy_end {e : PictureEffect} (hproper : s.Proper e) : Tidy AnyOutcome (issue e) s := by
  apply Secures.perform
  intro t hrely hinv i hp
  obtain ⟨hkept, hlater⟩ := exec_keeps hinv (hrely.proper hproper) hp.2
  exact ⟨hkept, hlater, trivial⟩

theorem generateThumbnail_tidy (m : MediaId) (d : String) :
    Tidy AnyOutcome (generateThumbnail m d) s := by
  apply tidy_any
  · trivial
  · intro _ present _ _ _ _
    cases (show Bool from present) with
    | true => trivial
    | false =>
      apply Secures.rescue
      apply tidy_issue
      · trivial
      · intro _ _ _ _ _ _ _
        apply tidy_issue
        · trivial
        · intro _ _ _ _ _ _ _
          trivial
        · intro _ _ _
          trivial
      · intro _ _ _
        trivial

theorem accept_tidy (m : MediaId) (l : MediaLocationId) (expectedRevision : Int) :
    Tidy AnyOutcome (accept m l expectedRevision) s := by
  apply tidy_any
  · trivial
  · intro _ draft _ _ _ _
    apply tidy_any
    · trivial
    · intro _ _ _ _ _ _
      apply tidy_any
      · trivial
      · intro _ _ _ _ _ _
        exact generateThumbnail_tidy _ _

theorem regenerateThumbnail_tidy (m : MediaId) : Tidy AnyOutcome (regenerateThumbnail m) s := by
  apply tidy_any
  · trivial
  · intro _ cover _ _ _ _
    cases (show Option AcceptedCover from cover) with
    | none => trivial
    | some row => exact generateThumbnail_tidy _ _

/-- A preview that is prepared has its location. -/
theorem preparePreview_ok {i : Outside} {l : MediaLocationId} {digest : Option String}
    (h : pictureExec i (.preparePreview m l) s = (.ok digest, t)) : (l, m) ∈ t.locations := by
  simp only [pictureExec] at h
  by_cases hknown : s.hasLocation m l = true
  · have hstate : s = t := by
      simp only [hknown, Bool.not_true, Bool.false_eq_true, if_false] at h
      split at h
      · cases h
      · exact congrArg Prod.snd h
    rw [← hstate]
    exact of_decide_eq_true (Bool.and_eq_true_iff.mp hknown).2
  · simp [hknown] at h

theorem generatePreview_tidy (m : MediaId) (l : MediaLocationId) :
    Tidy AnyOutcome (generatePreview m l) s := by
  apply tidy_any
  · trivial
  · intro i digest t u hok _
    have hlocation : (l, m) ∈ u.locations := preparePreview_ok hok
    cases (show Option String from digest) with
    | none => trivial
    | some digest => exact tidy_end ⟨m, hlocation⟩

/-- What a call holds of a receipt: it is stored with the same covers and locations, and what it
reports as done is deleted. -/
structure Held (r : CleanupReceipt) (s : PictureStore) : Prop where
  stored : ∃ r', s.receipts r.mediaId = some r' ∧ r'.coverArtifactDigest = r.coverArtifactDigest ∧
    r'.previewLocationIds = r.previewLocationIds
  cover : r.coverCleanupState.isOpen = false → s.CoverGone r.mediaId r.coverArtifactDigest
  previews : r.previewCleanupState.isOpen = false → s.PreviewsGone r.previewLocationIds

theorem Held.later {r : CleanupReceipt} (h : Held r s) (hlater : s.Later t) : Held r t where
  stored := by
    obtain ⟨r', hr', hdigest, hids⟩ := h.stored
    obtain ⟨r'', hr'', hdigest', hids'⟩ := hlater.receipts _ r' hr'
    exact ⟨r'', hr'', hdigest'.trans hdigest, hids'.trans hids⟩
  cover hclosed := hlater.coverGone (h.cover hclosed)
  previews hclosed := hlater.previewsGone (h.previews hclosed)

theorem held_stored (h : s.Kept) {r : CleanupReceipt} (hr : s.receipts m = some r) : Held r s := by
  have hhonest := h.honest m r hr
  have hmedia : r.mediaId = m := hhonest.media
  subst hmedia
  exact ⟨⟨r, hr, rfl, rfl⟩, hhonest.cover, hhonest.previews⟩

theorem Held.removed {r : CleanupReceipt} (h : Held r s) (target : CleanupTarget)
    (htarget : target = .covers r.mediaId ∨ ∃ d, target = .thumbnail r.mediaId d) :
    s.Removed target := by
  obtain ⟨r', hr', -⟩ := h.stored
  have hne : s.receipts r.mediaId ≠ none := by
    rw [hr']
    simp
  obtain rfl | ⟨d, rfl⟩ := htarget
  · exact hne
  · exact hne

/-- A deletion that does not raise is one that the clean-up has made. -/
theorem sweep_ok {i : Outside} {target : CleanupTarget} {a : Unit}
    (h : pictureExec i (.sweep target) s = (.ok a, t)) : target ∈ t.swept := by
  simp only [pictureExec] at h
  split at h
  · cases h
  · have hstate : s.sweep target = t := congrArg Prod.snd h
    rw [← hstate]
    exact List.mem_cons_self

/-- What a part of the clean-up answers is true. -/
def Truthful (gone : PictureStore → Prop) (r : Except PictureFailure CleanupState)
    (t : PictureStore) : Prop :=
  ∀ state, r = .ok state → state.isOpen = false → gone t

theorem truthful_failed {gone : PictureStore → Prop} : Truthful gone (.ok .failed) s := by
  intro state hstate hclosed
  obtain rfl := Except.ok.inj hstate
  cases hclosed

theorem truthful_done {gone : PictureStore → Prop} {state : CleanupState} (h : gone s) :
    Truthful gone (.ok state) s := fun _ _ _ => h

theorem cleanupCover_tidy {r : CleanupReceipt} (h : Held r s) :
    Tidy (Truthful fun t => t.CoverGone r.mediaId r.coverArtifactDigest)
      (cleanupCover r.mediaId r.coverArtifactDigest) s := by
  cases hdigest : r.coverArtifactDigest with
  | none =>
    apply truthful_done
    intro d hd
    cases hd
  | some digest =>
    apply Secures.rescue
    apply tidy_issue
    · exact h.removed _ (Or.inl rfl)
    · intro i a t u hcovers _ hlater
      have hcovers : .covers r.mediaId ∈ u.swept := sweep_ok hcovers
      apply tidy_issue
      · exact (h.later hlater).removed _ (Or.inr ⟨digest, rfl⟩)
      · intro i' a' t' u' hthumbnail _ hlater'
        have hgone : u'.CoverGone r.mediaId (some digest) := by
          intro d hd
          obtain rfl : digest = d := Option.some.inj hd
          exact ⟨hlater'.swept _ hcovers, sweep_ok hthumbnail⟩
        exact fun _ _ _ => hgone
      · intro _ _ _
        exact truthful_failed
    · intro _ _ _
      exact truthful_failed

/-- The sweep of the previews, to its end. -/
theorem sweepPreviews_tidy (ids : List MediaLocationId) : ∀ s, Tidy
    (fun r t => r = .ok () → ∀ l ∈ ids, .previews l ∈ t.swept) (sweepPreviews ids) s := by
  induction ids with
  | nil =>
    intro s _ l hl
    cases hl
  | cons first rest ih =>
    intro s
    apply tidy_issue
    · trivial
    · intro i a t u hok _ _
      have hfirst : .previews first ∈ u.swept := sweep_ok hok
      have hstable := stable_of_later (J := fun t => .previews first ∈ t.swept)
        fun s t hlater hs => hlater.swept _ hs
      apply Secures.mono _ (Secures.frame hstable hfirst (ih u))
      rintro r t ⟨hrest, hkept⟩ hr l hl
      obtain rfl | hl := List.mem_cons.mp hl
      · exact hkept
      · exact hrest hr l hl
    · intro x u _ hx
      cases hx

theorem cleanupPreviews_tidy (ids : Option (List MediaLocationId)) :
    Tidy (Truthful fun t => t.PreviewsGone ids) (cleanupPreviews ids) s := by
  cases ids with
  | none =>
    apply truthful_done
    intro l hl
    cases hl
  | some ids =>
    apply Secures.rescue
    apply Secures.bind
    apply Secures.mono _ (sweepPreviews_tidy ids s)
    intro r t hr
    cases r with
    | ok a =>
      have hgone : t.PreviewsGone (some ids) := hr rfl
      exact fun _ _ _ => hgone
    | error x => exact truthful_failed

theorem coverState_tidy {r : CleanupReceipt} (h : Held r s) :
    Tidy (Truthful fun t => t.CoverGone r.mediaId r.coverArtifactDigest) (coverState r) s := by
  apply Secures.ite
  · intro _
    exact cleanupCover_tidy h
  · intro hclosed state hstate _
    exact h.cover (by simpa using hclosed)

theorem previewState_tidy {r : CleanupReceipt} (h : Held r s) :
    Tidy (Truthful fun t => t.PreviewsGone r.previewLocationIds) (previewState r) s := by
  apply Secures.ite
  · intro _
    exact cleanupPreviews_tidy r.previewLocationIds
  · intro hclosed state hstate _
    exact h.previews (by simpa using hclosed)

/-- The clean-up writes down what it has done, and no more. -/
theorem cleanUp_tidy {r : CleanupReceipt} (h : Held r s) : Tidy AnyOutcome (cleanUp r) s := by
  have hheld : pictureRoles.Stable () (Held r) :=
    stable_of_later fun _ _ hlater hs => hs.later hlater
  apply Secures.bind_frame hheld h (coverState_tidy h)
  · intro cover t hcover ht
    have hgone : pictureRoles.Stable () fun t => Held r t ∧
        (cover.isOpen = false → t.CoverGone r.mediaId r.coverArtifactDigest) :=
      stable_of_later fun _ _ hlater hs => ⟨hs.1.later hlater, fun hc => hlater.coverGone (hs.2 hc)⟩
    apply Secures.bind_frame hgone ⟨ht, hcover cover rfl⟩ (previewState_tidy ht)
    · intro preview u hpreview hu
      apply Secures.ite
      · intro _
        trivial
      · intro _
        obtain ⟨r', hr', hdigest, hids⟩ := hu.1.stored
        apply tidy_end
        refine ⟨r', hr', fun hc => ?_, fun hp => ?_⟩
        · rw [hdigest]
          exact hu.2 hc
        · rw [hids]
          exact hpreview preview rfl hp
    · intro _ _ _ _
      trivial
  · intro _ _ _ _
    trivial

theorem call_tidy (c : PictureCall) : Tidy AnyOutcome c.program s := by
  cases c with
  | register m ids => exact tidy_end trivial
  | addLocation m l => exact tidy_end trivial
  | accept m l expectedRevision =>
    exact Secures.bind (Secures.mono (fun r t _ => by cases r <;> trivial)
      (accept_tidy m l expectedRevision))
  | regenerateThumbnail m =>
    exact Secures.bind (Secures.mono (fun r t _ => by cases r <;> trivial)
      (regenerateThumbnail_tidy m))
  | generatePreview m l => exact generatePreview_tidy m l
  | execute m =>
    apply tidy_any
    · trivial
    · intro i r t u hok hkept
      have hr : u.receipts m = some r := by
        simp only [pictureExec] at hok
        split at hok
        · cases hok
        · split at hok
          · cases hok
          · obtain ⟨hreceipt, rfl⟩ := Prod.mk.inj hok
            rw [← Except.ok.inj hreceipt]
            exact receipts_removed t m
      exact Secures.bind (Secures.mono (fun r t _ => by cases r <;> trivial)
        (cleanUp_tidy (held_stored hkept hr)))
  | retryCleanup m =>
    apply tidy_any
    · trivial
    · intro i r t u hok hkept
      have hr : u.receipts m = some r := by
        simp only [pictureExec] at hok
        split at hok
        · cases hok
        · rename_i receipt hreceipt
          obtain ⟨hanswer, rfl⟩ := Prod.mk.inj hok
          rw [← Except.ok.inj hanswer]
          exact hreceipt
      exact Secures.bind (Secures.mono (fun r t _ => by cases r <;> trivial)
        (cleanUp_tidy (held_stored hkept hr)))

theorem pictureCooperation : Cooperation carefulSystem pictureRoles (fun _ => AnyOutcome)
    fun _ _ => True where
  rely_refl _ s := Later.refl s
  rely_trans _ _ _ _ h h' := h.trans h'
  within _ _ _ _ _ _ _ h := h
  symm _ _ h := h
  role _ _ _ _ := rfl
  newcomer _ _ _ _ _ := trivial
  secures c _ _ := call_tidy c

end Cooperation

section Removal
open PictureStore

abbrev PictureWorld :=
  World PictureEffect PictureEffect.Answer PictureFailure PictureStore Unit Unit

/-- Where the clean-up after a medium's removal has reported itself complete and every call has
returned, no cover, thumbnail or preview of the medium is there. -/
def NothingLeft (w : PictureWorld) : Prop :=
  ∀ m r, w.state.receipts m = some r →
    derivedArtifactsOutcome r.coverCleanupState r.previewCleanupState = .complete →
    (∀ t ∈ w.threads, t.program.settled = true) →
    (∀ f ∈ w.state.artifacts, f.1 ≠ m) ∧ (∀ f ∈ w.state.thumbnails, f.1 ≠ m) ∧
      ∀ f ∈ w.state.previews, (f.1, m) ∉ w.state.locations

theorem complete_closed {cover preview : CleanupState}
    (h : derivedArtifactsOutcome cover preview = .complete) :
    cover.isOpen = false ∧ preview.isOpen = false := by
  cases cover <;> cases preview <;> first | exact ⟨rfl, rfl⟩ | exact absurd h (by decide)

theorem kept_leaves_nothing {s : PictureStore} (h : s.Kept) {m : MediaId} {r : CleanupReceipt}
    (hr : s.receipts m = some r) (hcover : r.coverCleanupState.isOpen = false)
    (hpreview : r.previewCleanupState.isOpen = false) :
    (∀ f ∈ s.artifacts, f.1 ≠ m) ∧ (∀ f ∈ s.thumbnails, f.1 ≠ m) ∧
      ∀ f ∈ s.previews, (f.1, m) ∉ s.locations := by
  have hhonest := h.honest m r hr
  have hremoved : m ∉ s.media := by
    intro hm
    rw [h.fresh m hm] at hr
    cases hr
  refine ⟨?_, ?_, ?_⟩
  · rintro f hf rfl
    obtain hin | ⟨r', hr', hdigest, hfree⟩ := coversAhead_iff.mp (h.artifacts f hf)
    · exact hremoved hin
    · rw [hr] at hr'
      obtain rfl := Option.some.inj hr'
      obtain ⟨d, hd⟩ := Option.ne_none_iff_exists'.mp hdigest
      exact hfree (hhonest.cover hcover d hd).1
  · rintro f hf rfl
    obtain hin | ⟨r', hr', hdigest, hfree⟩ := thumbnailAhead_iff.mp (h.thumbnails f hf)
    · exact hremoved hin
    · rw [hr] at hr'
      obtain rfl := Option.some.inj hr'
      exact hfree (hhonest.cover hcover f.2 hdigest).2
  · intro f hf hown
    have hlisted := hhonest.listed f.1 hown
    exact (h.previews f hf).1 (hhonest.previews hpreview f.1 hlisted)

/-- In every run of careful steps the removal of a medium leaves no picture of it behind. -/
theorem careful_removal_leaves_nothing {w : PictureWorld}
    (h : Reachable carefulSystem PictureStore.empty w) : NothingLeft w := by
  have hkept : w.state.Kept := (Reachable.cooperative pictureCooperation empty_kept h).state
  intro m r hr hcomplete _
  obtain ⟨hcover, hpreview⟩ := complete_closed hcomplete
  exact kept_leaves_nothing hkept hr hcover hpreview

instance (g : Unit) (i : Outside) (e : PictureEffect) (s : PictureStore) :
    Decidable (carefulSystem.permits g i e s) :=
  inferInstanceAs (Decidable (True ∧ s.Careful i e))

end Removal

section Runs

def sampleLocationId : MediaLocationId := ⟨"22222222-2222-4222-8222-222222222222", twos_canonical⟩

def digestOf (c : Char) : String := String.ofList (List.replicate 64 c)

/- Nothing fails; an accepted frame has the digest. -/
def sampleOutside (digest : String) : Outside where
  raises := false
  remaining := []
  previewDigest := none
  draft :=
    { mediaId := sampleMediaId
      sourceLocationId := sampleLocationId
      sourceKind := .video
      sourceTimestampMs := 1000
      sourceSizeBytes := 4096
      sourceMtimeNs := none
      sourceDurationMs := some 5000
      sourceObservationDigest := digestOf '0'
      artifactDigest := digest
      artifactWidth := 640
      artifactHeight := 360
      artifactByteSize := 2048 }

abbrev PictureMove := Move PictureCall Outside

/- A call made from its start to its end, as the `n`-th of the run. -/
def wholeCall (n : Nat) (c : PictureCall) (digest : String) (effects : Nat) : List PictureMove :=
  .start c :: List.replicate effects (.call n (sampleOutside digest))

/-- A medium is registered, gets a cover and is removed. -/
def oneCover : List PictureMove :=
  wholeCall 0 (.register sampleMediaId [sampleLocationId]) (digestOf 'a') 1 ++
    wholeCall 1 (.accept sampleMediaId sampleLocationId 0) (digestOf 'a') 6 ++
    wholeCall 2 (.execute sampleMediaId) (digestOf 'a') 5

/-- Its cover is replaced by one of another frame before it is removed. -/
def twoCovers : List PictureMove :=
  wholeCall 0 (.register sampleMediaId [sampleLocationId]) (digestOf 'a') 1 ++
    wholeCall 1 (.accept sampleMediaId sampleLocationId 0) (digestOf 'a') 6 ++
    wholeCall 2 (.accept sampleMediaId sampleLocationId 1) (digestOf 'b') 6 ++
    wholeCall 3 (.execute sampleMediaId) (digestOf 'b') 5

def pictureWorld (moves : List PictureMove) : PictureWorld :=
  moves.foldl (World.move pictureSystem) ⟨PictureStore.empty, []⟩

/-- The run of one cover leaves nothing, and its clean-up is complete. -/
theorem careful_removal_leaves_nothing_sample :
    NothingLeft (oneCover.foldl (World.move carefulSystem) ⟨PictureStore.empty, []⟩) ∧
      ((oneCover.foldl (World.move carefulSystem) ⟨PictureStore.empty, []⟩).state.receipts
        sampleMediaId).map CleanupReceipt.coverCleanupState = some .complete :=
  ⟨careful_removal_leaves_nothing (World.moves_reach oneCover _ (by decide +kernel)),
    by decide +kernel⟩

def supersededReceipt : CleanupReceipt where
  mediaId := sampleMediaId
  coverArtifactDigest := some (digestOf 'b')
  previewLocationIds := some [sampleLocationId]
  coverCleanupState := .complete
  previewCleanupState := .complete

/-- The thumbnail of the superseded cover stays. -/
theorem superseded_thumbnail_stays :
    ¬∀ w, Reachable pictureSystem PictureStore.empty w → NothingLeft w := by
  intro h
  have hreach : Reachable pictureSystem PictureStore.empty (pictureWorld twoCovers) :=
    World.moves_reach twoCovers _ (World.allowed_of_forall (fun _ _ _ _ => trivial) _ _)
  have hreceipt : (pictureWorld twoCovers).state.receipts sampleMediaId = some supersededReceipt := by
    decide +kernel
  have hreturned : ∀ t ∈ (pictureWorld twoCovers).threads, t.program.settled = true := by
    decide +kernel
  have hleft : (sampleMediaId, digestOf 'a') ∈ (pictureWorld twoCovers).state.thumbnails := by
    decide +kernel
  exact (h _ hreach sampleMediaId _ hreceipt rfl hreturned).2.1 _ hleft rfl

end Runs
end FrameNest.Removal
