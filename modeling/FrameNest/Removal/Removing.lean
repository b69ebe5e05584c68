import FrameNest.Metadata.Companion
import FrameNest.Removal.Snapshots
import FrameNest.YouTube.Claims

/-! The removal of one medium from the catalog: the repository's transaction and the service
that shows a preview and removes what was confirmed. -/
namespace FrameNest.Removal
open FrameNest.Metadata FrameNest.YouTube Relational

section Tables

structure LogicalMedia where
  mediaKind : MediaKind
  updatedAtMs : Int
deriving DecidableEq

structure PhysicalMediaLocation where
  id : String
  mediaId : String
  libraryId : String
  relativePath : String
  availability : String
  observedSizeBytes : Option Int
  observedMtimeNs : Option Int
deriving DecidableEq

structure UploadPublicationRow where
  uploadId : String
  destinationId : String
  relativeTarget : String
  byteIdentityId : String
  state : String
  mediaId : Option String
  mediaLocationId : Option String
deriving DecidableEq

structure MediaCover where
  revision : Int
  artifactDigest : String
deriving DecidableEq

structure MediaAnalysisRun where
  id : String
  mediaId : String
  version : Int
  providerSubmissionOccurred : Option Int
  supersedesRunId : Option String
deriving DecidableEq

inductive CleanupState where
  | none | pending | complete | failed
deriving DecidableEq

structure CatalogRemovalReceipt where
  id : String
  occurredAtMs : Nat
  requestId : String
  actorKey : String
  mediaId : String
  displayTitleSnapshot : Option String
  acquisitionSource : AcquisitionSource
  storageClass : StorageClass
  wasPublished : Bool
  publishedAtMs : Option Int
  consequenceFingerprint : String
  catalogOutcome : String
  originalBytesPolicy : String
  originalBytesOutcome : OriginalBytesOutcome
  youtubeClaimsTransitioned : Nat
  uploadPublicationsDetached : Nat
  analysisRunCount : Nat
  providerSubmissionCount : Nat
  coverArtifactDigest : Option String
  previewLocationIdsJson : Option PyStr
  coverCleanupState : CleanupState
  previewCleanupState : CleanupState
  cleanupUpdatedAtMs : Option Nat
deriving DecidableEq

/-- The tables that a removal reads or writes. -/
structure RemovalStore (X : YouTubeDomain) where
  media : Named LogicalMedia
  metadata : Metadata.Catalog
  publications : Named ContentPublication
  locations : List PhysicalMediaLocation
  uploadPublications : List UploadPublicationRow
  youtubeClaims : ClaimTable X
  covers : Named MediaCover
  analysisRuns : List MediaAnalysisRun
  records : List BoundRecord
  receipts : Table CatalogRemovalReceipt.id

end Tables

inductive CatalogRemovalFailure where
  | validation (message : String)
  | identity
  | notFound (message : String)
  | stateConflict
  | boundRecord
  | failed
deriving DecidableEq

/-- What the removal takes from outside: the digest of a text, the constraints of the tables
that a transaction meets beside those written out below, and the files of derived artifacts. -/
structure RemovalEnvironment (X : YouTubeDomain) where
  sha256 : PyStr → String
  accepted : RemovalStore X → Bool
  cleanupCover : String → Option String → CleanupState
  cleanupPreviews : Option PyStr → CleanupState

variable {X : YouTubeDomain}

section Loading

def originText : ContentPublicationOrigin → String
  | .legacyBackfill => "legacy_backfill"
  | .adminExplicit => "admin_explicit"
  | .companionReview => "companion_review"

def claimStateText : YouTubeAcquisitionState → String
  | .claimed => "claimed"
  | .inspecting => "inspecting"
  | .downloadPending => "download_pending"
  | .downloading => "downloading"
  | .downloaded => "downloaded"
  | .handoff => "handoff"
  | .handedOff => "handed_off"
  | .duplicateResolved => "duplicate_resolved"
  | .cataloged => "cataloged"
  | .catalogRemoved => "catalog_removed"
  | .failed => "failed"

/- `_storage_class`. -/
def storageClass (acquisitionSource : AcquisitionSource) (uploadRows : List UploadPublicationRow) :
    StorageClass :=
  if uploadRows ≠ [] then .serverManagedUpload
  else match acquisitionSource with
    | .manualUpload | .youtubeManualClaim => .serverManagedUpload
    | .libraryScan => .operatorManaged
    | .unknown | .xManualClaim => .unknown

def locationSnapshot (row : PhysicalMediaLocation) : CatalogRemovalLocationSnapshot :=
  ⟨row.id, row.libraryId, row.relativePath, row.availability, row.observedSizeBytes,
    row.observedMtimeNs⟩

def uploadSnapshot (row : UploadPublicationRow) : CatalogRemovalUploadSnapshot :=
  ⟨row.uploadId, row.destinationId, row.relativeTarget, row.byteIdentityId, row.state⟩

def claimSnapshot (row : YouTubeAcquisitionClaim X) : CatalogRemovalYouTubeSnapshot :=
  ⟨row.id.value, claimStateText row.state, row.mediaId.map Identity.value,
    row.mediaLocationId.map Identity.value⟩

/- `bool(int(row["provider_submission_occurred"] or 0))`. -/
def runSnapshot (row : MediaAnalysisRun) : CatalogRemovalAnalysisSnapshot :=
  ⟨row.id, row.version, row.providerSubmissionOccurred.getD 0 ≠ 0⟩

namespace RemovalStore

def medium (db : RemovalStore X) (mediaId : MediaId) : Medium :=
  (Named.get? db.metadata mediaId.value).getD .new

def locationsOf (db : RemovalStore X) (mediaId : MediaId) : List PhysicalMediaLocation :=
  sortedBy PhysicalMediaLocation.id (db.locations.filter fun row => row.mediaId = mediaId.value)

def uploadsOf (db : RemovalStore X) (mediaId : MediaId) : List UploadPublicationRow :=
  sortedBy UploadPublicationRow.uploadId
    (db.uploadPublications.filter fun row => row.mediaId = some mediaId.value)

def claimsOf (db : RemovalStore X) (mediaId : MediaId) : List (YouTubeAcquisitionClaim X) :=
  sortedBy (fun row => row.id.value)
    (db.youtubeClaims.rows.filter fun row => row.mediaId = some mediaId)

def runsOf (db : RemovalStore X) (mediaId : MediaId) : List MediaAnalysisRun :=
  sortedBy MediaAnalysisRun.id (db.analysisRuns.filter fun row => row.mediaId = mediaId.value)

/- `_load_snapshot` of a medium that has a row. -/
def snapshotOf (db : RemovalStore X) (mediaId : MediaId) (media : LogicalMedia) :
    CatalogRemovalSnapshot :=
  let medium := db.medium mediaId
  let publication := Named.get? db.publications mediaId.value
  let uploads := db.uploadsOf mediaId
  { mediaId := mediaId.value
    mediaKind := media.mediaKind
    mediaUpdatedAtMs := media.updatedAtMs
    displayTitle := medium.displayTitle
    acquisitionSource := medium.acquisitionSource
    contentCategory := medium.contentCategory
    publicationState := if publication.isSome then "published" else "unpublished"
    publishedAtMs := publication.map ContentPublication.publishedAtMs
    publicationOrigin := publication.map fun row => originText row.publicationOrigin
    locations := (db.locationsOf mediaId).map locationSnapshot
    uploadPublications := uploads.map uploadSnapshot
    youtubeClaims := (db.claimsOf mediaId).map claimSnapshot
    cover := (Named.get? db.covers mediaId.value).map fun row =>
      ⟨row.revision, row.artifactDigest⟩
    analysisRuns := (db.runsOf mediaId).map runSnapshot
    storageClass := Removal.storageClass medium.acquisitionSource uploads }

def loadSnapshot (db : RemovalStore X) (mediaId : MediaId) : Option CatalogRemovalSnapshot :=
  (Named.get? db.media mediaId.value).map (db.snapshotOf mediaId)

end RemovalStore
end Loading

section Removing

/- `_build_receipt`. -/
def buildReceipt (snapshot : CatalogRemovalSnapshot)
    (receiptId fingerprint requestId actorKey : String) (locationIdsJson : Option PyStr)
    (nowMs : Nat) : CatalogRemovalReceipt where
  id := receiptId
  occurredAtMs := nowMs
  requestId := requestId
  actorKey := actorKey
  mediaId := snapshot.mediaId
  displayTitleSnapshot := snapshot.displayTitle
  acquisitionSource := snapshot.acquisitionSource
  storageClass := snapshot.storageClass
  wasPublished := snapshot.publicationState = "published"
  publishedAtMs := snapshot.publishedAtMs
  consequenceFingerprint := fingerprint
  catalogOutcome := "removed"
  originalBytesPolicy := originalBytesPolicy
  originalBytesOutcome := snapshot.originalBytesOutcome
  youtubeClaimsTransitioned := snapshot.youtubeClaims.length
  uploadPublicationsDetached := snapshot.uploadPublications.length
  analysisRunCount := snapshot.analysisRunCount
  providerSubmissionCount := snapshot.providerSubmissionCount
  coverArtifactDigest := snapshot.cover.map CatalogRemovalCoverSnapshot.artifactDigest
  previewLocationIdsJson := locationIdsJson
  coverCleanupState := if snapshot.cover.isNone then .none else .pending
  previewCleanupState := if snapshot.locations = [] then .none else .pending
  cleanupUpdatedAtMs := none

/- `json.dumps(location_ids)` when there are any. -/
def previewLocationIdsJson (snapshot : CatalogRemovalSnapshot) : Option PyStr :=
  if snapshot.locations = [] then none
  else PyJson.dumps true (.arr (snapshot.locations.map fun location => text location.locationId))

/- `_transition_youtube_claims`; raises when a claim of the medium cannot be moved. -/
def transitionYoutubeClaims (mediaId : MediaId) (nowMs : Nat) (db : RemovalStore X) :
    Except CatalogRemovalFailure (RemovalStore X) := do
  require (db.youtubeClaims.rows.all fun c =>
    c.mediaId ≠ some mediaId || (c.markCatalogRemoved nowMs).isSome) .failed
  let marked := db.youtubeClaims.updateAll (ClaimStore.markedRemoved mediaId nowMs)
    (ClaimStore.markedRemoved_id mediaId nowMs)
  return { db with youtubeClaims := marked }

def detachUploadPublications (mediaId : MediaId) (db : RemovalStore X) : RemovalStore X :=
  { db with uploadPublications := db.uploadPublications.map fun row =>
      if row.mediaId = some mediaId.value then
        { row with mediaId := none, mediaLocationId := none }
      else row }

def deleteAnalysisRuns (mediaId : MediaId) (db : RemovalStore X) : RemovalStore X :=
  { db with analysisRuns := db.analysisRuns.filter fun row => row.mediaId ≠ mediaId.value }

/- `_delete_metadata_graph` and the deletions after it. -/
def deleteMediaRows (mediaId : MediaId) (db : RemovalStore X) : RemovalStore X :=
  { db with
    metadata := Named.erase db.metadata mediaId.value
    covers := Named.erase db.covers mediaId.value
    publications := Named.erase db.publications mediaId.value
    locations := db.locations.filter fun row => row.mediaId ≠ mediaId.value
    media := Named.erase db.media mediaId.value }

variable (env : RemovalEnvironment X)

/- The writes of a removal whose fingerprint was the expected one. -/
def writeRemoval (mediaId : MediaId) (receipt : CatalogRemovalReceipt) (nowMs : Nat)
    (db : RemovalStore X) : Except CatalogRemovalFailure (RemovalStore X) := do
  match db.receipts.insert? receipt with
  | none => .error .failed
  | some receipts => do
    let moved ← transitionYoutubeClaims mediaId nowMs { db with receipts }
    let removed := deleteMediaRows mediaId
      (deleteAnalysisRuns mediaId (detachUploadPublications mediaId moved))
    require (env.accepted removed) .failed
    return removed

/-- What a removal is asked for, with the receipt's fresh identity and the clock value. -/
structure RemovalCall where
  mediaId : String
  acknowledgeConsequences : Bool
  consequenceFingerprint : Option String
  requestId : String
  actorKey : String
  receiptId : String
  nowMs : Nat
  cleanupNowMs : Nat

/- The operation of `remove_catalog_media`. -/
def removeCatalogMedia (mediaId : MediaId) (expectedFingerprint : String) (call : RemovalCall)
    (db : RemovalStore X) : Except CatalogRemovalFailure (CatalogRemovalReceipt × RemovalStore X) := do
  require (!db.records.any fun record => record.mediaId = some mediaId.value) .boundRecord
  match db.loadSnapshot mediaId with
  | none => .error (.notFound "Media not found.")
  | some snapshot =>
    require (computeConsequenceFingerprint env.sha256 snapshot = some expectedFingerprint)
      .stateConflict
    let receipt := buildReceipt snapshot call.receiptId expectedFingerprint call.requestId
      call.actorKey (previewLocationIdsJson snapshot) call.nowMs
    let removed ← writeRemoval env mediaId receipt call.nowMs db
    return (receipt, removed)

/- The operation of `update_cleanup_states`. -/
def updateCleanupStates (receipt : CatalogRemovalReceipt) (cover preview : CleanupState)
    (nowMs : Nat) (db : RemovalStore X) :
    Except CatalogRemovalFailure (CatalogRemovalReceipt × RemovalStore X) :=
  match db.receipts.find? receipt.id with
  | none => .error (.notFound "Catalog removal receipt not found.")
  | some row =>
    let updated (r : CatalogRemovalReceipt) := { r with
      coverCleanupState := cover, previewCleanupState := preview
      cleanupUpdatedAtMs := some nowMs }
    .ok (updated row, { db with receipts := db.receipts.update receipt.id updated fun _ => rfl })

end Removing

section Service
variable (env : RemovalEnvironment X)

/- `MediaId.from_string`. -/
def parseMediaId (s : String) : Except CatalogRemovalFailure MediaId :=
  if h : isUuid4Text s = true then .ok ⟨s, h⟩ else .error .identity

/- `CatalogMediaRemovalService.preview`. -/
def preview (mediaId : String) (db : RemovalStore X) :
    Except CatalogRemovalFailure CatalogRemovalPreview := do
  let parsed ← parseMediaId mediaId
  match db.loadSnapshot parsed with
  | none => .error (.notFound "Media not found.")
  | some snapshot =>
    match buildPreview env.sha256 snapshot with
    | some shown => .ok shown
    | none => .error .failed

inductive DerivedArtifactsOutcome where
  | none | pending | partly | complete
deriving DecidableEq

/- `derived_artifacts_outcome`. -/
def derivedArtifactsOutcome (cover preview : CleanupState) : DerivedArtifactsOutcome :=
  let actionable := [cover, preview].filter fun state => state ≠ .none
  if actionable = [] then .none
  else if actionable.all fun state => state = .complete then .complete
  else if actionable.contains .complete then .partly
  else .pending

structure CatalogRemovalResult where
  receipt : CatalogRemovalReceipt
  derivedArtifactsOutcome : DerivedArtifactsOutcome
  cleanupRetryAvailable : Bool
deriving DecidableEq

/- `_run_cleanup`; its update is a transaction of its own. -/
def runCleanup (receipt : CatalogRemovalReceipt) (nowMs : Nat) (db : RemovalStore X) :
    Except CatalogRemovalFailure CatalogRemovalReceipt × RemovalStore X :=
  let open? (state : CleanupState) := state = .pending || state = .failed
  let cover := if open? receipt.coverCleanupState then
    env.cleanupCover receipt.mediaId receipt.coverArtifactDigest else receipt.coverCleanupState
  let previews := if open? receipt.previewCleanupState then
    env.cleanupPreviews receipt.previewLocationIdsJson else receipt.previewCleanupState
  if cover = receipt.coverCleanupState ∧ previews = receipt.previewCleanupState then
    (.ok receipt, db)
  else transaction db (updateCleanupStates receipt cover previews nowMs)

/- The checks of `execute` before anything is touched. -/
def checkExecute (call : RemovalCall) : Except CatalogRemovalFailure (MediaId × String) := do
  require call.acknowledgeConsequences (.validation "Catalog removal acknowledgment is required.")
  match call.consequenceFingerprint with
  | none => .error (.validation "Catalog removal consequence fingerprint is invalid.")
  | some fingerprint => do
    require (Plain.isLowerHex64 fingerprint)
      (.validation "Catalog removal consequence fingerprint is invalid.")
    let parsed ← parseMediaId call.mediaId
    return (parsed, fingerprint)

/- `CatalogMediaRemovalService.execute`. -/
def execute (call : RemovalCall) (db : RemovalStore X) :
    Except CatalogRemovalFailure CatalogRemovalResult × RemovalStore X :=
  match checkExecute call with
  | .error x => (.error x, db)
  | .ok (mediaId, fingerprint) =>
    match transaction db (removeCatalogMedia env mediaId fingerprint call) with
    | (.error x, db) => (.error x, db)
    | (.ok receipt, removed) =>
      match runCleanup env receipt call.cleanupNowMs removed with
      | (.error x, db) => (.error x, db)
      | (.ok receipt, db) =>
        let outcome := derivedArtifactsOutcome receipt.coverCleanupState
          receipt.previewCleanupState
        (.ok ⟨receipt, outcome, outcome = .pending || outcome = .partly⟩, db)

end Service

section Confirmed
variable {env : RemovalEnvironment X} {db : RemovalStore X} {mediaId : MediaId}

@[simp] theorem parseMediaId_value (mediaId : MediaId) : parseMediaId mediaId.value = .ok mediaId := by
  unfold parseMediaId
  rw [dif_pos mediaId.canonical]

theorem preview_ok {shown : CatalogRemovalPreview} (h : preview env mediaId.value db = .ok shown) :
    ∃ snapshot, db.loadSnapshot mediaId = some snapshot ∧
      buildPreview env.sha256 snapshot = some shown := by
  unfold preview at h
  rw [parseMediaId_value] at h
  change (match db.loadSnapshot mediaId with
    | none => _
    | some snapshot => _) = _ at h
  cases hload : db.loadSnapshot mediaId with
  | none =>
    rw [hload] at h
    cases h
  | some snapshot =>
    rw [hload] at h
    cases hbuild : buildPreview env.sha256 snapshot with
    | none =>
      simp only [hbuild] at h
      cases h
    | some found =>
      simp only [hbuild] at h
      cases h
      exact ⟨snapshot, rfl, hbuild⟩

theorem preview_eq_ok {snapshot : CatalogRemovalSnapshot} (hload : db.loadSnapshot mediaId = some snapshot)
    {shown : CatalogRemovalPreview} :
    preview env mediaId.value db = .ok shown ↔ buildPreview env.sha256 snapshot = some shown := by
  constructor
  · intro h
    obtain ⟨found, hfound, hbuild⟩ := preview_ok h
    rw [hload] at hfound
    cases hfound
    exact hbuild
  · intro h
    unfold preview
    rw [parseMediaId_value]
    change (match db.loadSnapshot mediaId with
      | none => _
      | some snapshot => _) = _
    rw [hload]
    simp only [h]

theorem removeCatalogMedia_ok {fingerprint : String} {call : RemovalCall}
    {receipt : CatalogRemovalReceipt} {removed : RemovalStore X}
    (h : removeCatalogMedia env mediaId fingerprint call db = .ok (receipt, removed)) :
    ∃ snapshot, db.loadSnapshot mediaId = some snapshot ∧
      computeConsequenceFingerprint env.sha256 snapshot = some fingerprint := by
  obtain ⟨-, h⟩ := require_bind_eq_ok.mp h
  cases hload : db.loadSnapshot mediaId with
  | none =>
    rw [hload] at h
    cases h
  | some snapshot =>
    rw [hload] at h
    obtain ⟨hfingerprint, -⟩ := require_bind_eq_ok.mp h
    exact ⟨snapshot, rfl, by simpa using hfingerprint⟩

theorem checkExecute_ok {call : RemovalCall} {checked : MediaId × String}
    (h : checkExecute call = .ok checked) :
    parseMediaId call.mediaId = .ok checked.1 ∧ call.consequenceFingerprint = some checked.2 := by
  obtain ⟨-, h⟩ := require_bind_eq_ok.mp h
  cases hfingerprint : call.consequenceFingerprint with
  | none =>
    rw [hfingerprint] at h
    cases h
  | some fingerprint =>
    rw [hfingerprint] at h
    obtain ⟨-, h⟩ := require_bind_eq_ok.mp h
    obtain ⟨parsed, hparsed, h⟩ := bind_eq_ok.mp h
    cases h
    exact ⟨hparsed, rfl⟩

/- The call that confirms a preview. -/
def confirming (call : RemovalCall) (mediaId : MediaId) (shown : CatalogRemovalPreview) :
    RemovalCall :=
  { call with
    mediaId := mediaId.value
    consequenceFingerprint := some shown.consequenceFingerprint }

/-- A removal that succeeds found the fingerprint it was called with. -/
theorem execute_ok {call : RemovalCall} {shown : CatalogRemovalPreview}
    {result : CatalogRemovalResult} {removed : RemovalStore X}
    (h : execute env (confirming call mediaId shown) db = (.ok result, removed)) :
    ∃ snapshot, db.loadSnapshot mediaId = some snapshot ∧
      computeConsequenceFingerprint env.sha256 snapshot = some shown.consequenceFingerprint := by
  unfold execute at h
  cases hcheck : checkExecute (confirming call mediaId shown) with
  | error x =>
    rw [hcheck] at h
    cases h
  | ok checked =>
    obtain ⟨parsed, fingerprint⟩ := checked
    obtain ⟨hparsed, hfingerprint⟩ := checkExecute_ok hcheck
    cases (parseMediaId_value mediaId).symm.trans hparsed
    cases hfingerprint
    rw [hcheck] at h
    cases hremove : removeCatalogMedia env parsed shown.consequenceFingerprint
        (confirming call parsed shown) db with
    | error x =>
      have hrolled : transaction db (removeCatalogMedia env parsed shown.consequenceFingerprint
          (confirming call parsed shown)) = (.error x, db) := by
        rw [transaction, hremove]
      simp only [hrolled] at h
      cases h
    | ok removal =>
      obtain ⟨receipt, written⟩ := removal
      exact removeCatalogMedia_ok hremove

/-- After any preview, a removal with its fingerprint that succeeds, whatever became of the catalog
in between, removes what was shown just when the display title is still the one shown. Two
snapshots with one fingerprint have one preview just when they have one title. -/
theorem removal_removes_what_was_shown_iff (env : RemovalEnvironment X) :
    (∀ (s t : CatalogRemovalSnapshot) (f : String), CollisionFree env.sha256 s t →
      computeConsequenceFingerprint env.sha256 s = some f →
      computeConsequenceFingerprint env.sha256 t = some f →
      (buildPreview env.sha256 s = buildPreview env.sha256 t ↔ s.displayTitle = t.displayTitle)) ∧
    ∀ (before found removed : RemovalStore X) (mediaId : MediaId) (shown : CatalogRemovalPreview)
      (call : RemovalCall) (result : CatalogRemovalResult),
      (∀ s t, before.loadSnapshot mediaId = some s → found.loadSnapshot mediaId = some t →
        CollisionFree env.sha256 s t) →
      preview env mediaId.value before = .ok shown →
      execute env (confirming call mediaId shown) found = (.ok result, removed) →
      (preview env mediaId.value found = .ok shown ↔
        (found.medium mediaId).displayTitle = (before.medium mediaId).displayTitle) := by
  constructor
  · intro s t f hfree hs ht
    have hsame := sameConsequences_of_fingerprint hfree hs ht
    simp only [buildPreview, hs, ht, Option.map_some, Option.some.injEq]
    exact hsame.previews (by rw [buildPreview, hs]; rfl) (by rw [buildPreview, ht]; rfl) rfl
  · intro before found removed mediaId shown call result hfree hshown hremoved
    obtain ⟨s, hs, hbuild⟩ := preview_ok hshown
    obtain ⟨t, ht, hfingerprint⟩ := execute_ok hremoved
    have htitles : ∀ (db : RemovalStore X) (snapshot : CatalogRemovalSnapshot),
        db.loadSnapshot mediaId = some snapshot →
        snapshot.displayTitle = (db.medium mediaId).displayTitle := by
      intro db snapshot hload
      obtain ⟨media, -, rfl⟩ := Option.map_eq_some_iff.mp hload
      rfl
    have hprinted : computeConsequenceFingerprint env.sha256 s =
        some shown.consequenceFingerprint := by
      obtain ⟨f, hf, rfl⟩ := Option.map_eq_some_iff.mp hbuild
      exact hf
    have hsame := sameConsequences_of_fingerprint (hfree s t hs ht) hprinted hfingerprint
    rw [preview_eq_ok ht, ← htitles found t ht, ← htitles before s hs]
    have hfound : ∃ q, buildPreview env.sha256 t = some q ∧
        q.consequenceFingerprint = shown.consequenceFingerprint := by
      rw [buildPreview, hfingerprint]
      exact ⟨_, rfl, rfl⟩
    obtain ⟨q, hq, hprint⟩ := hfound
    have hiff := hsame.previews hbuild hq hprint.symm
    rw [hq, Option.some.injEq]
    exact ⟨fun h => (hiff.mp h.symm).symm, fun h => (hiff.mpr h.symm).symm⟩

end Confirmed

section Sample

def sampleDomain : YouTubeDomain := ⟨fun _ => none, id, fun _ => none⟩

def sampleMediaId : MediaId := ⟨"11111111-1111-4111-8111-111111111111", ones_canonical⟩

/- SHA-256 of the one text that is hashed for the sample. -/
def sampleDigest : String := "3beb4070ff0bb455bd291aaab558300029c8158b39f69427d19b2b08319153b9"

def sampleEnvironment : RemovalEnvironment sampleDomain where
  sha256 _ := sampleDigest
  accepted _ := true
  cleanupCover _ _ := .complete
  cleanupPreviews _ := .complete

/- A scanned video with a location and a title. -/
def sampleStore (title : String) : RemovalStore sampleDomain where
  media := ⟨[(sampleMediaId.value, ⟨.video, 5⟩)], by simp⟩
  metadata := ⟨[(sampleMediaId.value, { Medium.new with
    metadata := some ⟨some title, none, .general, .libraryScan, .absent, none, none, 5, 5⟩ })],
    by simp⟩
  publications := .empty
  locations := [⟨"22222222-2222-4222-8222-222222222222", sampleMediaId.value,
    "33333333-3333-4333-8333-333333333333", "harbor.mp4", "available", some 9, none⟩]
  uploadPublications := []
  youtubeClaims := .empty
  covers := .empty
  analysisRuns := []
  records := []
  receipts := .empty

def sampleCall : RemovalCall :=
  ⟨sampleMediaId.value, true, none, "request", "admin", "receipt", 7, 8⟩

def samplePreview (title : String) : CatalogRemovalPreview where
  mediaId := sampleMediaId.value
  displayTitle := some title
  publicationState := "unpublished"
  acquisitionSource := .libraryScan
  storageClass := .operatorManaged
  originalBytesPolicy := originalBytesPolicy
  originalBytesOutcome := .retainedOperatorManaged
  recoveryLimitations := recoveryLimitations
  provenanceEffects := []
  analysisRunCount := 0
  providerSubmissionCount := 0
  derivedArtifactCleanupIntent := [.galleryPreviewCache]
  consequenceFingerprint := sampleDigest

/- A save of another title, and the catalog it leaves. -/
def sampleRename : SaveRequest :=
  ⟨some ⟨"Opera", by decide⟩, none, [], 6, .omitted, none, [], .omitted, .omitted, .omitted, .omitted⟩

def sampleSaved : Except Failure (SaveStatus × Metadata.Catalog) :=
  saveMediaMetadata sampleLibrary ⟨[], []⟩ sampleMediaId.value sampleRename
    (sampleStore "Harbor").metadata

def renamedStore : RemovalStore sampleDomain :=
  { sampleStore "Harbor" with metadata := (sampleSaved.toOption.map Prod.snd).getD .empty }

def sampleConfirmed : RemovalCall := confirming sampleCall sampleMediaId (samplePreview "Harbor")

def sampleRemoved : Except CatalogRemovalFailure CatalogRemovalResult :=
  (execute sampleEnvironment sampleConfirmed renamedStore).1

theorem sample_shown : preview sampleEnvironment sampleMediaId.value (sampleStore "Harbor") =
    .ok (samplePreview "Harbor") := by decide +kernel

theorem sample_removed : sampleRemoved.isOk = true := by decide +kernel

/- The title is not in the text that is hashed. -/
theorem consequenceText_title (s : CatalogRemovalSnapshot) (title : Option String) :
    consequenceText { s with displayTitle := title } = consequenceText s := rfl

theorem sample_collisionFree (s t : CatalogRemovalSnapshot)
    (hs : (sampleStore "Harbor").loadSnapshot sampleMediaId = some s)
    (ht : renamedStore.loadSnapshot sampleMediaId = some t) :
    CollisionFree sampleEnvironment.sha256 s t := by
  have hrenamed : renamedStore.loadSnapshot sampleMediaId =
      ((sampleStore "Harbor").loadSnapshot sampleMediaId).map fun s =>
        { s with displayTitle := some "Opera" } := by decide +kernel
  rw [hs, ht, Option.map_some, Option.some.injEq] at hrenamed
  subst hrenamed
  intro a b ha hb _
  rw [consequenceText_title, ha] at hb
  exact Option.some.inj hb

theorem removal_removes_what_was_shown_iff_renamed :
    preview sampleEnvironment sampleMediaId.value renamedStore = .ok (samplePreview "Harbor") ↔
      (renamedStore.medium sampleMediaId).displayTitle =
        ((sampleStore "Harbor").medium sampleMediaId).displayTitle := by
  have hok := sample_removed
  have hremoved : ∃ result, sampleRemoved = .ok result := by
    cases h : sampleRemoved with
    | ok result => exact ⟨result, rfl⟩
    | error x =>
      rw [h] at hok
      cases hok
  obtain ⟨result, hresult⟩ := hremoved
  exact (removal_removes_what_was_shown_iff sampleEnvironment).2 (sampleStore "Harbor") renamedStore
    (execute sampleEnvironment sampleConfirmed renamedStore).2 sampleMediaId
    (samplePreview "Harbor") sampleCall result sample_collisionFree sample_shown
    (Prod.ext hresult rfl)

/-- A title saved between the preview and the removal goes unnoticed. -/
theorem removal_misses_a_new_title :
    sampleSaved.map Prod.fst = .ok .updated ∧
      preview sampleEnvironment sampleMediaId.value (sampleStore "Harbor") =
        .ok (samplePreview "Harbor") ∧
      sampleRemoved.isOk = true ∧
      preview sampleEnvironment sampleMediaId.value renamedStore = .ok (samplePreview "Opera") ∧
      samplePreview "Opera" ≠ samplePreview "Harbor" ∧
      ∀ s t, (sampleStore "Harbor").loadSnapshot sampleMediaId = some s →
        renamedStore.loadSnapshot sampleMediaId = some t →
        CollisionFree sampleEnvironment.sha256 s t :=
  ⟨by decide +kernel, sample_shown, sample_removed, by decide +kernel, by decide,
    sample_collisionFree⟩

end Sample
end FrameNest.Removal
