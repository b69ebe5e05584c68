import FrameNest.Identities
import FrameNest.Metadata.Spellings
import FrameNest.Text.JsonFields

/-! What an administrator is shown before a medium leaves the catalog, and the fingerprint of
what the removal would do. -/
namespace FrameNest.Removal
open FrameNest.Metadata

def originalBytesPolicy : String := "retain_all"

inductive StorageClass where
  | operatorManaged | serverManagedUpload | unknown
deriving DecidableEq

inductive OriginalBytesOutcome where
  | retainedOperatorManaged | retainedServerManaged | retainedUnknown
deriving DecidableEq

structure CatalogRemovalLocationSnapshot where
  locationId : String
  libraryId : String
  relativePath : String
  availability : String
  observedSizeBytes : Option Int
  observedMtimeNs : Option Int
deriving DecidableEq

structure CatalogRemovalUploadSnapshot where
  uploadId : String
  destinationId : String
  relativeTarget : String
  byteIdentityId : String
  state : String
deriving DecidableEq

structure CatalogRemovalYouTubeSnapshot where
  claimId : String
  state : String
  mediaId : Option String
  mediaLocationId : Option String
deriving DecidableEq

structure CatalogRemovalCoverSnapshot where
  revision : Int
  artifactDigest : String
deriving DecidableEq

structure CatalogRemovalAnalysisSnapshot where
  runId : String
  version : Int
  providerSubmissionOccurred : Bool
deriving DecidableEq

/-- Authoritative removal-relevant state for one logical medium. -/
structure CatalogRemovalSnapshot where
  mediaId : String
  mediaKind : MediaKind
  mediaUpdatedAtMs : Int
  displayTitle : Option String
  acquisitionSource : AcquisitionSource
  contentCategory : ContentCategory
  publicationState : String
  publishedAtMs : Option Int
  publicationOrigin : Option String
  locations : List CatalogRemovalLocationSnapshot
  uploadPublications : List CatalogRemovalUploadSnapshot
  youtubeClaims : List CatalogRemovalYouTubeSnapshot
  cover : Option CatalogRemovalCoverSnapshot
  analysisRuns : List CatalogRemovalAnalysisSnapshot
  storageClass : StorageClass
deriving DecidableEq

namespace CatalogRemovalSnapshot

def analysisRunCount (s : CatalogRemovalSnapshot) : Nat := s.analysisRuns.length

def providerSubmissionCount (s : CatalogRemovalSnapshot) : Nat :=
  s.analysisRuns.countP CatalogRemovalAnalysisSnapshot.providerSubmissionOccurred

def originalBytesOutcome (s : CatalogRemovalSnapshot) : OriginalBytesOutcome :=
  match s.storageClass with
  | .operatorManaged => .retainedOperatorManaged
  | .serverManagedUpload => .retainedServerManaged
  | .unknown => .retainedUnknown

end CatalogRemovalSnapshot

section Fingerprint
open PyJson PyStr

def text (s : String) : PyJson := .str (ofString s)

def optionalText (s : Option String) : PyJson := s.elim .null text

def optionalInt (n : Option Int) : PyJson := n.elim .null .int

def StorageClass.value : StorageClass → String
  | .operatorManaged => "operator_managed"
  | .serverManagedUpload => "server_managed_upload"
  | .unknown => "unknown"

def locationPayload (location : CatalogRemovalLocationSnapshot) : PyJson :=
  dict [("location_id", text location.locationId), ("library_id", text location.libraryId),
    ("relative_path", text location.relativePath), ("availability", text location.availability),
    ("observed_size_bytes", optionalInt location.observedSizeBytes),
    ("observed_mtime_ns", optionalInt location.observedMtimeNs)]

def uploadPayload (item : CatalogRemovalUploadSnapshot) : PyJson :=
  dict [("upload_id", text item.uploadId), ("destination_id", text item.destinationId),
    ("relative_target", text item.relativeTarget),
    ("byte_identity_id", text item.byteIdentityId), ("state", text item.state)]

def claimPayload (item : CatalogRemovalYouTubeSnapshot) : PyJson :=
  dict [("claim_id", text item.claimId), ("state", text item.state),
    ("media_id", optionalText item.mediaId),
    ("media_location_id", optionalText item.mediaLocationId)]

def coverPayload (cover : CatalogRemovalCoverSnapshot) : PyJson :=
  dict [("revision", .int cover.revision), ("artifact_digest", text cover.artifactDigest)]

def runPayload (run : CatalogRemovalAnalysisSnapshot) : PyJson :=
  dict [("run_id", text run.runId), ("version", .int run.version),
    ("provider_submission_occurred", .bool run.providerSubmissionOccurred)]

/- `sorted(items, key=..)`. -/
def sortedBy {α : Type} (key : α → String) (items : List α) : List α :=
  items.insertionSort fun a b => key a ≤ key b

def publicationPayload (s : CatalogRemovalSnapshot) : PyJson :=
  dict [("state", text s.publicationState), ("published_at_ms", optionalInt s.publishedAtMs),
    ("origin", optionalText s.publicationOrigin)]

def analysisPayload (s : CatalogRemovalSnapshot) : PyJson :=
  dict [("runs", .arr ((sortedBy CatalogRemovalAnalysisSnapshot.runId s.analysisRuns).map
      runPayload)),
    ("provider_submission_count", .int s.providerSubmissionCount)]

/- The members of the payload; the display title is not among them. -/
def consequenceMembers (s : CatalogRemovalSnapshot) : List (String × PyJson) :=
  [("media_id", text s.mediaId), ("media_kind", text (mediaKinds.value s.mediaKind)),
    ("media_updated_at_ms", .int s.mediaUpdatedAtMs),
    ("acquisition_source", text (acquisitionSources.value s.acquisitionSource)),
    ("content_category", text (contentCategories.value s.contentCategory)),
    ("publication", publicationPayload s),
    ("locations", .arr ((sortedBy CatalogRemovalLocationSnapshot.locationId s.locations).map
      locationPayload)),
    ("upload_publications", .arr ((sortedBy CatalogRemovalUploadSnapshot.uploadId
      s.uploadPublications).map uploadPayload)),
    ("youtube_claims", .arr ((sortedBy CatalogRemovalYouTubeSnapshot.claimId
      s.youtubeClaims).map claimPayload)),
    ("cover", s.cover.elim .null coverPayload),
    ("analysis", analysisPayload s),
    ("original_bytes_policy", text originalBytesPolicy),
    ("storage_class", text s.storageClass.value)]

def consequencePayload (s : CatalogRemovalSnapshot) : PyJson := dict (consequenceMembers s)

/- The text that is hashed, `none` where `json.dumps` raises. -/
def consequenceText (s : CatalogRemovalSnapshot) : Option PyStr := dumps true (consequencePayload s)

/- `sha256` is `hashlib.sha256(text.encode("utf-8")).hexdigest()`. -/
def computeConsequenceFingerprint (sha256 : PyStr → String) (s : CatalogRemovalSnapshot) :
    Option String :=
  (consequenceText s).map sha256

end Fingerprint

section Preview

inductive CleanupIntent where
  | coverArtifact | coverThumbnail | galleryPreviewCache
deriving DecidableEq

inductive ProvenanceEffect where
  | youtubeClaimsBecomeCatalogRemoved | uploadPublicationCatalogLinksDetached
  | analysisRunsRemoved
deriving DecidableEq

def recoveryLimitations : List String :=
  ["Catalog backup can restore catalog rows only.",
    "Original media files remain on disk and are not purged by this action.",
    "Removed analysis history is summarized on the removal receipt only."]

structure CatalogRemovalPreview where
  mediaId : String
  displayTitle : Option String
  publicationState : String
  acquisitionSource : AcquisitionSource
  storageClass : StorageClass
  originalBytesPolicy : String
  originalBytesOutcome : OriginalBytesOutcome
  recoveryLimitations : List String
  provenanceEffects : List ProvenanceEffect
  analysisRunCount : Nat
  providerSubmissionCount : Nat
  derivedArtifactCleanupIntent : List CleanupIntent
  consequenceFingerprint : String
deriving DecidableEq

def cleanupIntent (s : CatalogRemovalSnapshot) : List CleanupIntent :=
  (if s.cover.isSome then [.coverArtifact, .coverThumbnail] else []) ++
    if s.locations ≠ [] then [.galleryPreviewCache] else []

def provenanceEffects (s : CatalogRemovalSnapshot) : List ProvenanceEffect :=
  (if s.youtubeClaims ≠ [] then [.youtubeClaimsBecomeCatalogRemoved] else []) ++
    (if s.uploadPublications ≠ [] then [.uploadPublicationCatalogLinksDetached] else []) ++
    if s.analysisRunCount ≠ 0 then [.analysisRunsRemoved] else []

def buildPreview (sha256 : PyStr → String) (s : CatalogRemovalSnapshot) :
    Option CatalogRemovalPreview :=
  (computeConsequenceFingerprint sha256 s).map fun fingerprint =>
    { mediaId := s.mediaId
      displayTitle := s.displayTitle
      publicationState := s.publicationState
      acquisitionSource := s.acquisitionSource
      storageClass := s.storageClass
      originalBytesPolicy := originalBytesPolicy
      originalBytesOutcome := s.originalBytesOutcome
      recoveryLimitations := recoveryLimitations
      provenanceEffects := provenanceEffects s
      analysisRunCount := s.analysisRunCount
      providerSubmissionCount := s.providerSubmissionCount
      derivedArtifactCleanupIntent := cleanupIntent s
      consequenceFingerprint := fingerprint }

end Preview

section Covered
open PyJson PyStr

theorem text_injective : Function.Injective text := fun _ _ h =>
  ofString_injective (PyJson.str.inj h)

theorem StorageClass.value_injective : Function.Injective StorageClass.value := by
  intro a b h
  cases a <;> cases b <;> first | rfl | exact absurd h (by decide)

theorem length_sortedBy {α : Type} (key : α → String) (items : List α) :
    (sortedBy key items).length = items.length := List.length_insertionSort _ items

theorem shaped_optionalText (s : Option String) (room : Nat) :
    shaped true (optionalText s) room = true := by
  cases s with
  | none => rfl
  | some s => exact shaped_text s room

theorem shaped_optionalInt (n : Option Int) (room : Nat) :
    shaped true (optionalInt n) room = true := by
  cases n <;> rfl

theorem shaped_location (room : Nat) (location : CatalogRemovalLocationSnapshot) :
    shaped true (locationPayload location) (room + 1) = true := by
  refine shaped_dict (by simp) fun m hm => ?_
  simp only [List.mem_cons, List.not_mem_nil, or_false] at hm
  rcases hm with rfl | rfl | rfl | rfl | rfl | rfl
  any_goals exact shaped_text _ _
  · exact shaped_optionalInt _ _
  · exact shaped_optionalInt _ _

theorem shaped_upload (room : Nat) (item : CatalogRemovalUploadSnapshot) :
    shaped true (uploadPayload item) (room + 1) = true := by
  refine shaped_dict (by simp) fun m hm => ?_
  simp only [List.mem_cons, List.not_mem_nil, or_false] at hm
  rcases hm with rfl | rfl | rfl | rfl | rfl <;> exact shaped_text _ _

theorem shaped_claim (room : Nat) (item : CatalogRemovalYouTubeSnapshot) :
    shaped true (claimPayload item) (room + 1) = true := by
  refine shaped_dict (by simp) fun m hm => ?_
  simp only [List.mem_cons, List.not_mem_nil, or_false] at hm
  rcases hm with rfl | rfl | rfl | rfl
  · exact shaped_text _ _
  · exact shaped_text _ _
  · exact shaped_optionalText _ _
  · exact shaped_optionalText _ _

theorem shaped_cover (cover : CatalogRemovalCoverSnapshot) (room : Nat) :
    shaped true (coverPayload cover) (room + 1) = true := by
  refine shaped_dict (by simp) fun m hm => ?_
  simp only [List.mem_cons, List.not_mem_nil, or_false] at hm
  rcases hm with rfl | rfl
  · rfl
  · exact shaped_text _ _

theorem shaped_run (room : Nat) (run : CatalogRemovalAnalysisSnapshot) :
    shaped true (runPayload run) (room + 1) = true := by
  refine shaped_dict (by simp) fun m hm => ?_
  simp only [List.mem_cons, List.not_mem_nil, or_false] at hm
  rcases hm with rfl | rfl | rfl
  · exact shaped_text _ _
  · rfl
  · rfl

theorem shaped_items {α : Type} {payload : α → PyJson} {room : Nat}
    (h : ∀ a, shaped true (payload a) room = true) (items : List α) :
    shaped true (.arr (items.map payload)) (room + 1) = true := by
  refine shaped_arr fun v hv => ?_
  obtain ⟨a, -, rfl⟩ := List.mem_map.mp hv
  exact h a

theorem shaped_publication (s : CatalogRemovalSnapshot) :
    shaped true (publicationPayload s) 3 = true := by
  refine shaped_dict (by simp) fun m hm => ?_
  simp only [List.mem_cons, List.not_mem_nil, or_false] at hm
  rcases hm with rfl | rfl | rfl
  · exact shaped_text _ _
  · exact shaped_optionalInt _ _
  · exact shaped_optionalText _ _

theorem shaped_analysis (s : CatalogRemovalSnapshot) :
    shaped true (analysisPayload s) 3 = true := by
  refine shaped_dict (by simp) fun m hm => ?_
  simp only [List.mem_cons, List.not_mem_nil, or_false] at hm
  rcases hm with rfl | rfl
  · exact shaped_items (shaped_run 0) _
  · rfl

theorem shaped_cover? (cover : Option CatalogRemovalCoverSnapshot) (room : Nat) :
    shaped true (cover.elim .null coverPayload) (room + 1) = true := by
  cases cover with
  | none => rfl
  | some cover => exact shaped_cover cover room

theorem members_nodup (s : CatalogRemovalSnapshot) :
    ((consequenceMembers s).map Prod.fst).Nodup := by simp [consequenceMembers]

theorem shaped_payload (s : CatalogRemovalSnapshot) :
    shaped true (consequencePayload s) 4 = true := by
  refine shaped_dict (members_nodup s) fun m hm => ?_
  simp only [consequenceMembers, List.mem_cons, List.not_mem_nil, or_false] at hm
  rcases hm with rfl | rfl | rfl | rfl | rfl | rfl | rfl | rfl | rfl | rfl | rfl | rfl | rfl
  any_goals exact shaped_text _ _
  · rfl
  · exact shaped_publication s
  · exact shaped_items (shaped_location 1) _
  · exact shaped_items (shaped_upload 1) _
  · exact shaped_items (shaped_claim 1) _
  · exact shaped_cover? _ _
  · exact shaped_analysis s

/-- Snapshots that a preview shows alike, the title apart. -/
structure SameConsequences (s t : CatalogRemovalSnapshot) : Prop where
  mediaId : s.mediaId = t.mediaId
  publicationState : s.publicationState = t.publicationState
  acquisitionSource : s.acquisitionSource = t.acquisitionSource
  storageClass : s.storageClass = t.storageClass
  locations : s.locations.length = t.locations.length
  uploadPublications : s.uploadPublications.length = t.uploadPublications.length
  youtubeClaims : s.youtubeClaims.length = t.youtubeClaims.length
  cover : s.cover.isSome = t.cover.isSome
  analysisRuns : s.analysisRuns.length = t.analysisRuns.length
  providerSubmissions : s.providerSubmissionCount = t.providerSubmissionCount

/-- Equal payloads have equal members. -/
theorem lookup_payload {s t : CatalogRemovalSnapshot}
    (h : consequencePayload s = consequencePayload t) (key : String) :
    (consequenceMembers s).lookup key = (consequenceMembers t).lookup key := by
  rw [← field_dict (members_nodup s), ← field_dict (members_nodup t)]
  exact congrArg (field key) h

theorem items_length {α : Type} (key : α → String) (payload : α → PyJson) {xs ys : List α}
    (h : (sortedBy key xs).map payload = (sortedBy key ys).map payload) :
    xs.length = ys.length := by
  have hlength := congrArg List.length h
  simpa only [List.length_map, length_sortedBy] using hlength

theorem cover_isSome {a b : Option CatalogRemovalCoverSnapshot}
    (h : a.elim PyJson.null coverPayload = b.elim .null coverPayload) : a.isSome = b.isSome := by
  cases a with
  | none =>
    cases b with
    | none => rfl
    | some cover => cases h
  | some cover =>
    cases b with
    | none => cases h
    | some cover' => rfl

/-- The payload tells everything a preview shows, the title apart. -/
theorem consequencePayload_covers {s t : CatalogRemovalSnapshot}
    (h : consequencePayload s = consequencePayload t) : SameConsequences s t := by
  have hlookup := lookup_payload h
  have hpublication : publicationPayload s = publicationPayload t := by
    simpa [consequenceMembers, List.lookup_cons] using hlookup "publication"
  have hanalysis : analysisPayload s = analysisPayload t := by
    simpa [consequenceMembers, List.lookup_cons] using hlookup "analysis"
  have hstate := congrArg (field "state") hpublication
  have hruns := congrArg (field "runs") hanalysis
  have hcount := congrArg (field "provider_submission_count") hanalysis
  unfold publicationPayload at hstate
  unfold analysisPayload at hruns hcount
  rw [field_dict (by simp), field_dict (by simp)] at hstate hruns hcount
  refine
    { mediaId := text_injective ?_
      publicationState := text_injective ?_
      acquisitionSource := acquisitionSources.injective (text_injective ?_)
      storageClass := StorageClass.value_injective (text_injective ?_)
      locations := items_length CatalogRemovalLocationSnapshot.locationId locationPayload ?_
      uploadPublications := items_length CatalogRemovalUploadSnapshot.uploadId uploadPayload ?_
      youtubeClaims := items_length CatalogRemovalYouTubeSnapshot.claimId claimPayload ?_
      cover := cover_isSome ?_
      analysisRuns := items_length CatalogRemovalAnalysisSnapshot.runId runPayload ?_
      providerSubmissions := ?_ }
  · simpa [consequenceMembers, List.lookup_cons] using hlookup "media_id"
  · simpa [List.lookup_cons] using hstate
  · simpa [consequenceMembers, List.lookup_cons] using hlookup "acquisition_source"
  · simpa [consequenceMembers, List.lookup_cons] using hlookup "storage_class"
  · simpa [consequenceMembers, List.lookup_cons] using hlookup "locations"
  · simpa [consequenceMembers, List.lookup_cons] using hlookup "upload_publications"
  · simpa [consequenceMembers, List.lookup_cons] using hlookup "youtube_claims"
  · simpa [consequenceMembers, List.lookup_cons] using hlookup "cover"
  · simpa [List.lookup_cons] using hruns
  · simpa [List.lookup_cons] using hcount

end Covered

section Previews
variable {sha256 : PyStr → String} {s t : CatalogRemovalSnapshot}

/-- What is hashed for one snapshot does not collide with what is hashed for the other. -/
def CollisionFree (sha256 : PyStr → String) (s t : CatalogRemovalSnapshot) : Prop :=
  ∀ a b, consequenceText s = some a → consequenceText t = some b → sha256 a = sha256 b → a = b

/-- Of snapshots with one fingerprint only the titles can differ in a preview. -/
theorem sameConsequences_of_fingerprint (hfree : CollisionFree sha256 s t) {f : String}
    (hs : computeConsequenceFingerprint sha256 s = some f)
    (ht : computeConsequenceFingerprint sha256 t = some f) : SameConsequences s t := by
  obtain ⟨a, ha, hfa⟩ := Option.map_eq_some_iff.mp hs
  obtain ⟨b, hb, hfb⟩ := Option.map_eq_some_iff.mp ht
  have hab : a = b := hfree a b ha hb (hfa.trans hfb.symm)
  subst hab
  exact consequencePayload_covers
    (PyJson.dumps_injective (shaped_payload s) (shaped_payload t) ha hb)

theorem SameConsequences.previews (h : SameConsequences s t) {p q : CatalogRemovalPreview}
    (hp : buildPreview sha256 s = some p) (hq : buildPreview sha256 t = some q)
    (hfingerprint : p.consequenceFingerprint = q.consequenceFingerprint) :
    p = q ↔ s.displayTitle = t.displayTitle := by
  obtain ⟨f, -, rfl⟩ := Option.map_eq_some_iff.mp hp
  obtain ⟨g, -, rfl⟩ := Option.map_eq_some_iff.mp hq
  have houtcome : s.originalBytesOutcome = t.originalBytesOutcome := by
    unfold CatalogRemovalSnapshot.originalBytesOutcome
    rw [h.storageClass]
  have hcount : s.analysisRunCount = t.analysisRunCount := h.analysisRuns
  have hintent : cleanupIntent s = cleanupIntent t := by
    unfold cleanupIntent
    rw [h.cover]
    simp only [ne_eq, ← List.length_eq_zero_iff, h.locations]
  have heffects : provenanceEffects s = provenanceEffects t := by
    unfold provenanceEffects
    simp only [ne_eq, ← List.length_eq_zero_iff, h.youtubeClaims, h.uploadPublications, hcount]
  constructor
  · intro heq
    exact congrArg CatalogRemovalPreview.displayTitle heq
  · intro htitle
    simp only [h.mediaId, htitle, h.publicationState, h.acquisitionSource, h.storageClass,
      houtcome, heffects, hcount, h.providerSubmissions, hintent]
    simp only at hfingerprint
    rw [hfingerprint]

end Previews
end FrameNest.Removal
