import FrameNest.Metadata.Provenance

/-! `apply_review` with what surrounds it: the publication of the medium, which it reads, and
the version of the record bound to it, which it counts up. -/
namespace FrameNest.Metadata
open Plain Relational

section Reading

def Medium.displayTitle (m : Medium) : Option String := m.metadata.bind MetadataRow.displayTitle

def Medium.description (m : Medium) : Option String := m.metadata.bind MetadataRow.description

/- A medium without a row has the defaults of one. -/
def Medium.contentCategory (m : Medium) : ContentCategory :=
  (m.metadata.map MetadataRow.contentCategory).getD defaultContentCategory

def Medium.acquisitionSource (m : Medium) : AcquisitionSource :=
  (m.metadata.map MetadataRow.acquisitionSource).getD defaultAcquisitionSource

def Medium.creator (m : Medium) : Creator := (m.metadata.map MetadataRow.creator).getD .absent

end Reading

inductive ContentPublicationOrigin where
  | legacyBackfill | adminExplicit | companionReview
deriving DecidableEq

structure ContentPublication where
  publishedAtMs : Int
  publicationOrigin : ContentPublicationOrigin
deriving DecidableEq

/-- A row of `kronika_records`, as far as a change of the medium touches it. -/
structure BoundRecord where
  id : String
  mediaId : Option String
  version : Nat
deriving DecidableEq

structure Companion where
  catalog : Catalog
  publications : Named ContentPublication
  records : List BoundRecord

/- The medium under an identity; one that is not registered has no rows. -/
def Companion.medium (s : Companion) (mediaId : String) : Medium :=
  (Named.get? s.catalog mediaId).getD .new

section Readiness

structure ContentPublicationReadiness where
  ready : Bool
  missingFields : List ReviewField
deriving DecidableEq

/- `derive_content_publication_readiness`; its field names are those of a review. -/
def deriveContentPublicationReadiness (displayTitle description : Option String) (tagCount : Nat) :
    ContentPublicationReadiness :=
  let missing := (if displayTitle.all isBlank then [ReviewField.displayTitle] else []) ++
    (if description.all isBlank then [.description] else []) ++
    (if tagCount < 1 then [.tags] else [])
  ⟨missing.isEmpty, missing⟩

inductive PublicationStatus where
  | alreadyPublished | requiresAdministratorPublish | notReady
deriving DecidableEq

def publicationStatus (publication : Option ContentPublication)
    (readiness : ContentPublicationReadiness) : PublicationStatus :=
  if publication.isSome then .alreadyPublished
  else if readiness.ready then .requiresAdministratorPublish
  else .notReady

end Readiness

section Result

structure CompanionReviewApplyCanonical where
  displayTitle : Option String
  description : Option String
  tags : List CanonicalTagView
  fieldSources : ReviewField → Option CompanionReviewFieldSource
  tagSources : List (String × CompanionReviewFieldSource)

structure CompanionReviewApplyPublication where
  status : PublicationStatus
  publication : Option ContentPublication
  readiness : ContentPublicationReadiness
deriving DecidableEq

structure CompanionReviewApplyResult where
  metadataStatus : SaveStatus
  canonical : CompanionReviewApplyCanonical
  publication : CompanionReviewApplyPublication

variable (lib : Library) (outside : Outside)

/- `_load_canonical_tags`: the assignments joined with the tags they name. -/
def loadCanonicalTags (m : Medium) : List CanonicalTagView :=
  m.tagKeys.filterMap fun key => outside.canonicalTags.find? fun tag => tag.key = key

/- What an apply returns; its new values are the stored ones. -/
def applyResult (metadataStatus : SaveStatus) (m : Medium)
    (publication : Option ContentPublication) : CompanionReviewApplyResult :=
  let current := loadApplyCanonical m
  let tags := loadCanonicalTags outside m
  let readiness := deriveContentPublicationReadiness current.displayTitle current.description
    tags.length
  { metadataStatus := metadataStatus
    canonical := ⟨current.displayTitle, current.description, tags, loadFieldSource lib outside m,
      tags.filterMap fun tag => (loadTagSource outside m tag.key).map fun source =>
        (tag.key, source)⟩
    publication := ⟨publicationStatus publication readiness, publication, readiness⟩ }

end Result

/- `bump_bound_record_version`. -/
def bumpBoundRecordVersion (mediaId : String) (records : List BoundRecord) : List BoundRecord :=
  records.map fun record =>
    if record.mediaId = some mediaId then { record with version := record.version + 1 } else record

variable (lib : Library) (outside : Outside)

/- The operation of `CompanionReviewRepository.apply_review`. -/
def applyCompanionReview (mediaId : String) (request : ReviewRequest) (s : Companion) :
    Except Failure (CompanionReviewApplyResult × Companion) := do
  let applied ← applyReview lib outside mediaId request s.catalog
  let s' : Companion := ⟨applied.2, s.publications, bumpBoundRecordVersion mediaId s.records⟩
  return (applyResult lib outside applied.1 (s'.medium mediaId) (Named.get? s.publications mediaId),
    s')

end FrameNest.Metadata

/-! What a successful apply leaves, field by field, and what a second one like it finds. -/
namespace FrameNest.Metadata
open Plain Relational
variable {lib : Library} {outside : Outside} {request : ReviewRequest} {mediaId : String}
  {m m' : Medium} {status : SaveStatus}

section Steps

/-- The steps of an apply that returned, by the value each of them gave. -/
structure ApplySteps (lib : Library) (outside : Outside) (mediaId : String)
    (request : ReviewRequest) (run : AnalysisRun) (stored : StoredSuggestion) (reviewed : Review)
    (status : SaveStatus) (m m₁ m₂ m' : Medium) : Prop where
  generic : requireNonMovie m = .ok ()
  eligible : requireEligibleRun outside mediaId request.analysisRunId = .ok run
  decoded : decodeStoredSuggestionResult lib run.resultJson = .ok stored
  mapped : (.tags ∉ request.fields || request.tagKeys.isSublist
    (eligibleMappedTagKeys lib outside.canonicalTags stored.tags [])) = true
  chosen : review request (loadApplyCanonical m) stored = .ok reviewed
  written : writeReview outside request (loadApplyCanonical m) reviewed m = .ok (status, m₁)
  received : upsertFieldSources lib request reviewed.value request.fields m₁ = .ok m₂
  sourced : insertNewTagSources outside request reviewed.appended m₂ = .ok m'

theorem applyOperation_steps (h : applyOperation lib outside mediaId request m = .ok (status, m')) :
    ∃ run stored reviewed m₁ m₂,
      ApplySteps lib outside mediaId request run stored reviewed status m m₁ m₂ m' := by
  obtain ⟨⟨⟩, hgeneric, h⟩ := bind_eq_ok.mp h
  obtain ⟨run, heligible, h⟩ := bind_eq_ok.mp h
  obtain ⟨stored, hdecoded, h⟩ := bind_eq_ok.mp h
  obtain ⟨hmapped, h⟩ := require_bind_eq_ok.mp h
  obtain ⟨reviewed, hchosen, h⟩ := bind_eq_ok.mp h
  obtain ⟨⟨written, m₁⟩, hwritten, h⟩ := bind_eq_ok.mp h
  obtain ⟨m₂, hreceived, h⟩ := bind_eq_ok.mp h
  obtain ⟨m₃, hsourced, h⟩ := bind_eq_ok.mp h
  cases h
  exact ⟨run, stored, reviewed, m₁, m₂, hgeneric, heligible, hdecoded, hmapped, hchosen, hwritten,
    hreceived, hsourced⟩

/-- Steps that all return make an apply that returns. -/
theorem ApplySteps.apply {run : AnalysisRun} {stored : StoredSuggestion} {reviewed : Review}
    {m₁ m₂ : Medium}
    (h : ApplySteps lib outside mediaId request run stored reviewed status m m₁ m₂ m') :
    applyOperation lib outside mediaId request m = .ok (status, m') :=
  bind_eq_ok.mpr ⟨(), h.generic, bind_eq_ok.mpr ⟨run, h.eligible, bind_eq_ok.mpr ⟨stored, h.decoded,
    require_bind_eq_ok.mpr ⟨h.mapped, bind_eq_ok.mpr ⟨reviewed, h.chosen, bind_eq_ok.mpr
      ⟨(status, m₁), h.written, bind_eq_ok.mpr ⟨m₂, h.received, bind_eq_ok.mpr
        ⟨m', h.sourced, rfl⟩⟩⟩⟩⟩⟩⟩⟩

end Steps

section Texts

/-- Stored texts are never blank. -/
def Medium.Nonblank (m : Medium) : Prop :=
  nonblank m.displayTitle = m.displayTitle ∧ nonblank m.description = m.description

theorem nonblank_iff {text : Option String} :
    nonblank text = text ↔ ∀ s ∈ text, isBlank s = false := by
  cases text with
  | none => simp [nonblank]
  | some s =>
    cases hblank : isBlank s <;> simp [nonblank, Option.filter, hblank]

theorem loadApplyCanonical_texts (h : m.Nonblank) :
    (loadApplyCanonical m).displayTitle = m.displayTitle ∧
      (loadApplyCanonical m).description = m.description := by
  obtain ⟨htitle, hdescription⟩ := h
  unfold Medium.displayTitle at htitle ⊢
  unfold Medium.description at hdescription ⊢
  unfold loadApplyCanonical
  cases hrow : m.metadata with
  | none => simp
  | some row =>
    rw [hrow] at htitle hdescription
    exact ⟨htitle, hdescription⟩

theorem not_blank_of_strip {s : String} (hne : s ≠ "") (hstrip : strip s = s) :
    isBlank s = false := by
  cases hblank : isBlank s with
  | false => rfl
  | true => exact absurd (hstrip.symm.trans (strip_of_blank hblank)) hne

theorem MediaDisplayTitle.not_blank (title : MediaDisplayTitle) : isBlank title.value = false := by
  have hvalid := title.valid
  simp only [isDisplayTitle, Bool.and_eq_true, decide_eq_true_eq] at hvalid
  exact not_blank_of_strip hvalid.1.1.1 hvalid.1.1.2

theorem MediaDescription.not_blank (description : MediaDescription) :
    isBlank description.value = false := by
  have hvalid := description.valid
  simp only [isDescription, Bool.and_eq_true, decide_eq_true_eq] at hvalid
  exact not_blank_of_strip hvalid.1.1.1 hvalid.1.1.2

/-- Typed texts are stored as they are. -/
theorem nonblank_of_typed {row : MetadataRow} {title : Option MediaDisplayTitle}
    {description : Option MediaDescription} (hrow : m.metadata = some row)
    (htitle : row.displayTitle = title.map MediaDisplayTitle.value)
    (hdescription : row.description = description.map MediaDescription.value) : m.Nonblank := by
  constructor
  · rw [nonblank_iff]
    intro s hs
    simp only [Medium.displayTitle, hrow, Option.bind_some, htitle, Option.mem_map] at hs
    obtain ⟨found, -, rfl⟩ := hs
    exact found.not_blank
  · rw [nonblank_iff]
    intro s hs
    simp only [Medium.description, hrow, Option.bind_some, hdescription, Option.mem_map] at hs
    obtain ⟨found, -, rfl⟩ := hs
    exact found.not_blank

end Texts

section Written
variable {reviewed : Review}

/-- The metadata and tags of a medium are those a review chose. -/
structure Stored (reviewed : Review) (m m' : Medium) : Prop where
  displayTitle : m'.displayTitle = reviewed.displayTitle
  description : m'.description = reviewed.description
  tagKeys : m'.tagKeys = reviewed.tagKeys
  collectionKey : m'.collectionKey = reviewed.collectionKey
  processedAtMs : m'.processedAtMs = reviewed.processedAtMs
  persisted : m'.metadata.isSome = true
  contentCategory : m'.contentCategory = m.contentCategory
  acquisitionSource : m'.acquisitionSource = m.acquisitionSource
  creator : m'.creator = m.creator
  genres : m'.genres = m.genres

theorem stored_unchanged {row : MetadataRow} (hblank : m.Nonblank) (hrow : m.metadata = some row)
    (hsame : reviewed.changes (loadApplyCanonical m) = false) : Stored reviewed m m := by
  obtain ⟨htitle, hdescription⟩ := loadApplyCanonical_texts hblank
  obtain ⟨hcollection, hprocessed, htags⟩ := loadApplyCanonical_collection m
  simp only [Review.changes, Bool.not_eq_false', Bool.and_eq_true, decide_eq_true_eq] at hsame
  obtain ⟨⟨⟨⟨htitle', hdescription'⟩, htags'⟩, hcollection'⟩, hprocessed'⟩ := hsame
  refine ⟨?_, ?_, ?_, ?_, ?_, by simp [hrow], rfl, rfl, rfl, rfl⟩
  · rw [htitle', htitle]
  · rw [hdescription', hdescription]
  · rw [htags', htags]
  · rw [hcollection', hcollection]
  · rw [hprocessed', hprocessed]

theorem writeReview_stored (hblank : m.Nonblank)
    (htags : TagsReviewed request reviewed m.tagKeys m.collectionKey m.processedAtMs)
    (h : writeReview outside request (loadApplyCanonical m) reviewed m = .ok (status, m')) :
    Stored reviewed m m' := by
  unfold writeReview at h
  cases hmetadata : m.metadata with
  | none =>
    simp only [hmetadata] at h
    obtain ⟨stored, hstored, h⟩ := bind_eq_ok.mp h
    obtain ⟨tagged, htagged, h⟩ := bind_eq_ok.mp h
    cases h
    obtain ⟨-, -, rfl⟩ := insertMetadata_ok hstored
    obtain ⟨tags, rfl, hholds, -, -⟩ := insertAll_ok rfl htagged
    refine ⟨rfl, rfl, hholds.tagKeys, rfl, rfl, rfl, ?_, ?_, ?_, rfl⟩
    · simp [Medium.contentCategory, hmetadata, deleteAssignments, appliedRow]
    · simp [Medium.acquisitionSource, hmetadata, deleteAssignments, appliedRow]
    · simp [Medium.creator, hmetadata, deleteAssignments, appliedRow]
  | some row =>
    simp only [hmetadata] at h
    cases hchanges : reviewed.changes (loadApplyCanonical m) with
    | false =>
      rw [if_neg (by simp [hchanges])] at h
      cases h
      exact stored_unchanged hblank hmetadata hchanges
    | true =>
      rw [if_pos hchanges] at h
      obtain ⟨stored, hstored, h⟩ := bind_eq_ok.mp h
      obtain ⟨-, rfl⟩ := updateMetadata_ok hstored
      by_cases hselected : ReviewField.tags ∈ request.fields
      · rw [if_pos hselected] at h
        obtain ⟨tagged, htagged, h⟩ := bind_eq_ok.mp h
        cases h
        obtain ⟨tags, rfl, hholds, -, -⟩ := insertAll_ok rfl htagged
        refine ⟨rfl, rfl, hholds.tagKeys, rfl, rfl, rfl, ?_, ?_, ?_, rfl⟩
        · simp [Medium.contentCategory, hmetadata, deleteAssignments, updatedRow]
        · simp [Medium.acquisitionSource, hmetadata, deleteAssignments, updatedRow]
        · simp [Medium.creator, hmetadata, deleteAssignments, updatedRow]
      · rw [if_neg hselected] at h
        cases h
        have hkeys : reviewed.tagKeys = m.tagKeys := by
          obtain ⟨hin, -⟩ | ⟨hkeys, -⟩ := htags
          · exact absurd hin hselected
          · exact hkeys
        refine ⟨rfl, rfl, hkeys.symm, rfl, rfl, rfl, ?_, ?_, ?_, rfl⟩
        · simp [Medium.contentCategory, hmetadata, updatedRow]
        · simp [Medium.acquisitionSource, hmetadata, updatedRow]
        · simp [Medium.creator, hmetadata, updatedRow]

/-- Receipts do not touch the metadata and the tags. -/
theorem Stored.receipts {m₁ : Medium} (h : Stored reviewed m m₁) {fieldSources tagSources}
    (hm' : m' = { m₁ with fieldSources := fieldSources, tagSources := tagSources }) :
    Stored reviewed m m' := by
  subst hm'
  exact ⟨h.displayTitle, h.description, h.tagKeys, h.collectionKey, h.processedAtMs, h.persisted,
    h.contentCategory, h.acquisitionSource, h.creator, h.genres⟩

end Written
end FrameNest.Metadata
