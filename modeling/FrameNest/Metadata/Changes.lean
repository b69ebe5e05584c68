import FrameNest.Metadata.Statements

/-! What each call can do to the rows of one medium. -/
namespace FrameNest.Metadata
open Plain Relational
variable {lib : Library}

section Reading

def Medium.collectionKey (m : Medium) : Option MediaCollectionKey :=
  m.metadata.bind MetadataRow.collectionKey

def Medium.processedAtMs (m : Medium) : Option Int := m.metadata.bind MetadataRow.processedAtMs

/-- The current value of a field that can have a receipt. -/
def Medium.value (m : Medium) : ReviewField → FieldValue
  | .displayTitle => .text (loadApplyCanonical m).displayTitle
  | .description => .text (loadApplyCanonical m).description
  | .tags => .tags m.tagKeys

/-- Rows as the writers leave them. -/
structure Medium.Consistent (m : Medium) : Prop where
  holds : m.Holds m.tagKeys
  few : m.tagKeys.length ≤ 32
  checked : ∀ row, m.metadata = some row → row.check = true
  collected : m.collectionKey.isSome = true ↔ m.tagKeys ≠ []
  genres : m.genres.rows ≠ [] → ∃ row, m.metadata = some row ∧ row.contentCategory = .movie

theorem Medium.new_consistent : Medium.new.Consistent where
  holds := rfl
  few := by decide
  checked := by simp [Medium.new]
  collected := by decide
  genres := by simp [Medium.new, Table.empty]

end Reading

section Collection
variable {key : Option MediaCollectionKey} {processed : Option Int} {hasTags : Bool} {nowMs : Int}
  {state : CollectionState}

theorem CollectionState.make_ok (h : CollectionState.make key processed = .ok state) :
    state.collectionKey = key ∧ state.processedAtMs = processed := by
  unfold CollectionState.make at h
  split at h
  · cases h
    exact ⟨rfl, rfl⟩
  · cases h

/-- The derived state: kept while tags remain, new with the first tag, gone with the last. -/
theorem deriveCollectionState_ok
    (h : deriveCollectionState key processed hasTags nowMs = .ok state) :
    state.collectionKey = (if hasTags then key.or (some .processed) else none) ∧
      state.processedAtMs = if hasTags then (if key.isSome then processed else some nowMs)
        else none := by
  unfold deriveCollectionState at h
  cases hasTags with
  | false =>
    have hmake : CollectionState.make none none = .ok state := by simpa using h
    simpa using CollectionState.make_ok hmake
  | true =>
    cases key with
    | none => simpa using CollectionState.make_ok h
    | some found => simpa using CollectionState.make_ok h

end Collection

section Saving
variable {outside : Outside} {request : SaveRequest} {m m' : Medium}

/-- A save that wrote. -/
structure Saved (lib : Library) (request : SaveRequest) (m m' : Medium) : Prop where
  row : ∃ current resolved derived createdAtMs, loadMetadataSnapshot lib m = .ok current ∧
    resolve current request = .ok resolved ∧
    deriveCollectionState m.collectionKey m.processedAtMs (request.tagKeys ≠ []) request.nowMs =
      .ok derived ∧
    m'.metadata = some (savedRow request resolved derived createdAtMs) ∧
    (savedRow request resolved derived createdAtMs).check = true ∧
    (m'.genres.rows ≠ [] → resolved.contentCategory = .movie)
  holds : m'.Holds (request.tagKeys.map CanonicalTagKey.value)
  few : request.tagKeys.length ≤ 32
  fieldSources : ∀ field row, m'.fieldSources.find? field = some row →
    m.fieldSources.find? field = some row
  tagSources : ∀ key, m'.tagSources.find? key =
    if key ∈ request.tagKeys.map CanonicalTagKey.value then m.tagSources.find? key else none

theorem asRepositoryFailure_ok {α : Type} {x : Except Failure α} {a : α} :
    asRepositoryFailure x = .ok a ↔ x = .ok a := by
  cases x <;> simp [asRepositoryFailure]

/-- What a snapshot says of the row it was read from. -/
theorem loadMetadataSnapshot_ok {current : MediaMetadataSnapshot}
    (h : loadMetadataSnapshot lib m = .ok current) :
    current.collectionKey = m.collectionKey ∧ current.processedAtMs = m.processedAtMs ∧
      (m.metadata = none → current.persisted = false) ∧
      ∀ row, m.metadata = some row → current.persisted = true ∧
        current.acquisitionSource = row.acquisitionSource ∧
        validateCreatorAttributionFields lib row.creator = .ok current.creator := by
  unfold loadMetadataSnapshot at h
  cases hmetadata : m.metadata with
  | none =>
    rw [hmetadata] at h
    cases h
    refine ⟨?_, ?_, fun _ => rfl, fun _ hrow => nomatch hrow⟩
    · simp [Medium.collectionKey, hmetadata]
    · simp [Medium.processedAtMs, hmetadata]
  | some row =>
    rw [hmetadata] at h
    obtain ⟨creator, hcreator, h⟩ := bind_eq_ok.mp (asRepositoryFailure_ok.mp h)
    obtain ⟨displayTitle, -, h⟩ := bind_eq_ok.mp h
    obtain ⟨description, -, h⟩ := bind_eq_ok.mp h
    obtain ⟨tagKeys, -, h⟩ := bind_eq_ok.mp h
    have hcurrent := Except.ok.inj h
    subst hcurrent
    refine ⟨?_, ?_, fun hnone => (nomatch hnone), ?_⟩
    · simp [Medium.collectionKey, hmetadata]
    · simp [Medium.processedAtMs, hmetadata]
    · rintro found hfound
      cases hfound
      exact ⟨rfl, rfl, hcreator⟩

theorem writeSave_ok {current : MediaMetadataSnapshot} {resolved : Resolved}
    {genres : List MovieGenre} {derived : CollectionState}
    (h : writeSave lib outside request current resolved genres derived m = .ok m') :
    ∃ createdAtMs, m'.metadata = some (savedRow request resolved derived createdAtMs) ∧
      (savedRow request resolved derived createdAtMs).check = true ∧
      (m'.genres.rows ≠ [] → genres ≠ []) ∧
      m'.Holds (request.tagKeys.map CanonicalTagKey.value) ∧ request.tagKeys.length ≤ 32 ∧
      (∀ field row, m'.fieldSources.find? field = some row →
        m.fieldSources.find? field = some row) ∧
      ∀ key, m'.tagSources.find? key =
        if key ∈ request.tagKeys.map CanonicalTagKey.value then m.tagSources.find? key else none := by
  simp only [writeSave] at h
  obtain ⟨stored, hstored, h⟩ := bind_eq_ok.mp h
  obtain ⟨tagged, htagged, h⟩ := bind_eq_ok.mp h
  obtain ⟨filled, hfilled, h⟩ := bind_eq_ok.mp h
  generalize current.createdAtMs.getD request.nowMs = createdAtMs at hstored h
  have hwritten : (savedRow request resolved derived createdAtMs).check = true ∧
      stored = { m with metadata := some (savedRow request resolved derived createdAtMs) } := by
    unfold storeRow at hstored
    split at hstored
    · exact updateMetadata_ok hstored
    · exact (insertMetadata_ok hstored).2
  obtain ⟨hcheck, rfl⟩ := hwritten
  obtain ⟨tags, rfl, hholds, hfew, -⟩ := insertAll_ok rfl htagged
  obtain ⟨table, rfl, hgenres⟩ := insertGenres_ok hfilled
  have hend := Except.ok.inj h
  subst hend
  refine ⟨_, rfl, hcheck, fun hne hnil => hne ?_, hholds, by simpa using hfew,
    fun field row hrow => ?_, fun key => ?_⟩
  · have htable := hgenres hnil
    subst htable
    rfl
  · simp only [deleteRemovedCompanionTagSources, deleteStaleCompanionReceipts, deleteGenres,
      deleteAssignments, Table.find?_deleteWhere] at hrow
    exact (Option.filter_eq_some_iff.mp hrow).1
  · simp only [deleteRemovedCompanionTagSources, deleteStaleCompanionReceipts, deleteGenres,
      deleteAssignments, Table.find?_deleteWhere]
    cases hfind : m.tagSources.find? key with
    | none => simp
    | some row =>
      have hkey : row.tagKey = key := Table.find?_key hfind
      by_cases hmem : key ∈ request.tagKeys.map CanonicalTagKey.value
      · simp [Option.filter, hkey, hmem]
      · simp [Option.filter, hkey, hmem]

theorem saveOperation_ok {status : SaveStatus}
    (h : saveOperation lib outside request m = .ok (status, m')) :
    m' = m ∨ Saved lib request m m' := by
  obtain ⟨-, h⟩ := require_bind_eq_ok.mp h
  obtain ⟨current, hcurrent, h⟩ := bind_eq_ok.mp h
  obtain ⟨resolved, hresolved, h⟩ := bind_eq_ok.mp h
  obtain ⟨derived, hderived, h⟩ := bind_eq_ok.mp h
  split at h
  · cases h
    exact Or.inl rfl
  · obtain ⟨written, hwritten, h⟩ := bind_eq_ok.mp h
    cases h
    obtain ⟨hkey, hprocessed, -, -⟩ := loadMetadataSnapshot_ok hcurrent
    obtain ⟨createdAtMs, hrow, hcheck, hgenres, hholds, hfew, hfields, htags⟩ := writeSave_ok hwritten
    rw [hkey, hprocessed] at hderived
    refine Or.inr ⟨⟨current, resolved, derived, createdAtMs, hcurrent, hresolved, hderived, hrow,
      hcheck, fun hne => ?_⟩, hholds, hfew, hfields, htags⟩
    have hnormalized := hgenres hne
    unfold normalizeGenresForCategory at hnormalized
    split at hnormalized
    · assumption
    · exact absurd rfl hnormalized

end Saving

section Committing
variable {outside : Outside} {metadata : MediaMetadata lib} {m' : Medium}

/-- A commit that stored metadata for its new medium. -/
structure Committed (metadata : MediaMetadata lib) (m' : Medium) : Prop where
  row : ∃ collection, deriveCollectionState none none (metadata.tagKeys ≠ [])
      metadata.updatedAtMs = .ok collection ∧
    m'.metadata = some (committedRow metadata collection) ∧
    (committedRow metadata collection).check = true
  holds : m'.Holds (metadata.tagKeys.map CanonicalTagKey.value)
  few : metadata.tagKeys.length ≤ 32
  genres : m'.genres.rows = []
  fieldSources : ∀ field, m'.fieldSources.find? field = none
  tagSources : ∀ key, m'.tagSources.find? key = none

theorem commitOperation_ok (h : commitOperation outside metadata .new = .ok m') :
    Committed metadata m' := by
  obtain ⟨collection, hcollection, h⟩ := bind_eq_ok.mp h
  obtain ⟨stored, hstored, h⟩ := bind_eq_ok.mp h
  obtain ⟨-, hcheck, rfl⟩ := insertMetadata_ok hstored
  obtain ⟨tags, rfl, hholds, -⟩ := insertAll_ok rfl h
  exact ⟨⟨collection, hcollection, rfl, hcheck⟩, hholds, metadata.few_tags, rfl, fun _ => rfl,
    fun _ => rfl⟩

end Committing

section Applying
variable {outside : Outside} {request : ReviewRequest} {mediaId : String} {m m' : Medium}

/-- Where the tags of a review come from, with the state of the collection. -/
def TagsReviewed (request : ReviewRequest) (reviewed : Review) (tagKeys : List String)
    (collectionKey : Option MediaCollectionKey) (processedAtMs : Option Int) : Prop :=
  .tags ∈ request.fields ∧ reviewed.tagKeys = preserveAppendTagKeys tagKeys request.tagKeys ∧
      reviewed.appended = appendedKeys tagKeys request.tagKeys ∧
      (∃ state, deriveCollectionState collectionKey processedAtMs (reviewed.tagKeys ≠ [])
        request.nowMs = .ok state ∧ reviewed.collectionKey = state.collectionKey ∧
        reviewed.processedAtMs = state.processedAtMs) ∨
    reviewed.tagKeys = tagKeys ∧ reviewed.appended = [] ∧
      reviewed.collectionKey = collectionKey ∧ reviewed.processedAtMs = processedAtMs

/-- An apply, with the values it stored. -/
structure Applied (lib : Library) (request : ReviewRequest) (reviewed : Review) (m m' : Medium) :
    Prop where
  row : ∃ row, m'.metadata = some row ∧ row.check = true ∧
    row.collectionKey = reviewed.collectionKey ∧ row.processedAtMs = reviewed.processedAtMs ∧
    (m.metadata = none → row.acquisitionSource = .unknown ∧ row.creator = .absent) ∧
    ∀ old, m.metadata = some old → row.contentCategory = old.contentCategory ∧
      row.acquisitionSource = old.acquisitionSource ∧ row.creator = old.creator
  holds : m'.Holds reviewed.tagKeys
  few : reviewed.tagKeys.length ≤ 32
  genres : m'.genres = m.genres
  tags : TagsReviewed request reviewed m.tagKeys m.collectionKey m.processedAtMs
  values : ∀ field, m'.value field = reviewed.value field
  texts : (.displayTitle ∈ request.fields → reviewed.displayTitle.isSome = true) ∧
    (.description ∈ request.fields → reviewed.description.isSome = true)
  fieldSources : ∀ field, m'.fieldSources.find? field =
    if field ∈ request.fields then some (fieldSourceRow lib request field (reviewed.value field))
    else m.fieldSources.find? field
  tagSources : ∀ key, m'.tagSources.find? key =
    if key ∈ reviewed.appended ∧ m.tagSources.find? key = none then some (tagSourceRow request key)
    else m.tagSources.find? key

theorem loadApplyCanonical_collection (m : Medium) :
    (loadApplyCanonical m).collectionKey = m.collectionKey ∧
      (loadApplyCanonical m).processedAtMs = m.processedAtMs ∧
      (loadApplyCanonical m).tagKeys = m.tagKeys := by
  unfold loadApplyCanonical Medium.collectionKey Medium.processedAtMs
  cases m.metadata <;> simp

theorem reviewTags_ok {current : ApplyCanonical} {kept reviewed : Review}
    (h : reviewTags request current kept = .ok reviewed) :
    reviewed.displayTitle = kept.displayTitle ∧ reviewed.description = kept.description ∧
      reviewed.tagKeys = preserveAppendTagKeys current.tagKeys request.tagKeys ∧
      reviewed.appended = appendedKeys current.tagKeys request.tagKeys ∧
      ∃ state, deriveCollectionState current.collectionKey current.processedAtMs
          (reviewed.tagKeys ≠ []) request.nowMs = .ok state ∧
        reviewed.collectionKey = state.collectionKey ∧
        reviewed.processedAtMs = state.processedAtMs := by
  obtain ⟨-, h⟩ := require_bind_eq_ok.mp h
  obtain ⟨parsed, -, h⟩ := bind_eq_ok.mp h
  obtain ⟨state, hstate, h⟩ := bind_eq_ok.mp h
  cases h
  exact ⟨rfl, rfl, rfl, rfl, state, hstate, rfl, rfl⟩

theorem review_ok {current : ApplyCanonical} {stored : StoredSuggestion} {reviewed : Review}
    (h : review request current stored = .ok reviewed) :
    reviewed.displayTitle =
        (if .displayTitle ∈ request.fields then some stored.title else current.displayTitle) ∧
      reviewed.description =
        (if .description ∈ request.fields then some stored.description
          else current.description) ∧
      TagsReviewed request reviewed current.tagKeys current.collectionKey
        current.processedAtMs := by
  unfold review at h
  by_cases htags : .tags ∈ request.fields
  · simp only [htags, if_true] at h
    obtain ⟨htitle, hdescription, hkeys, happended, hstate⟩ := reviewTags_ok h
    exact ⟨htitle, hdescription, Or.inl ⟨htags, hkeys, happended, hstate⟩⟩
  · simp only [htags, if_false] at h
    cases h
    exact ⟨rfl, rfl, Or.inr ⟨rfl, rfl, rfl, rfl⟩⟩

section Texts

theorem strip_of_blank {s : String} (h : isBlank s = true) : strip s = "" := by
  unfold isBlank at h
  have hdrop : s.toList.dropWhile isSpace = [] := List.dropWhile_eq_nil_iff.mpr (by simpa using h)
  simp [strip, hdrop]

theorem validateStoredText_ok {maximum : Nat} {payload : Parsed} {s : String}
    (h : validateStoredText maximum payload = .ok s) : isBlank s = false := by
  cases payload with
  | str text =>
    obtain ⟨hlength, h⟩ := require_bind_eq_ok.mp h
    obtain ⟨hstrip, h⟩ := require_bind_eq_ok.mp h
    obtain ⟨-, h⟩ := require_bind_eq_ok.mp h
    have htext : text = s := Except.ok.inj h
    subst htext
    simp only [Bool.and_eq_true, decide_eq_true_eq] at hlength hstrip
    by_contra hblank
    rw [strip_of_blank (by simpa using hblank)] at hstrip
    rw [← hstrip] at hlength
    simp at hlength
  | _ => cases h

theorem decode_ok {resultJson : String} {stored : StoredSuggestion}
    (h : decodeStoredSuggestionResult lib resultJson = .ok stored) :
    isBlank stored.title = false ∧ isBlank stored.description = false := by
  obtain ⟨-, h⟩ := require_bind_eq_ok.mp h
  split at h
  · obtain ⟨title, htitle, h⟩ := bind_eq_ok.mp h
    obtain ⟨description, hdescription, h⟩ := bind_eq_ok.mp h
    obtain ⟨tags, -, h⟩ := bind_eq_ok.mp h
    cases h
    exact ⟨validateStoredText_ok htitle, validateStoredText_ok hdescription⟩
  · cases h

@[simp] theorem nonblank_nonblank (text : Option String) :
    nonblank (nonblank text) = nonblank text := by
  simp [nonblank, Option.filter_filter]

theorem nonblank_some {s : String} (h : isBlank s = false) : nonblank (some s) = some s := by
  simp [nonblank, Option.filter, h]

theorem loadApplyCanonical_nonblank (m : Medium) :
    nonblank (loadApplyCanonical m).displayTitle = (loadApplyCanonical m).displayTitle ∧
      nonblank (loadApplyCanonical m).description = (loadApplyCanonical m).description := by
  unfold loadApplyCanonical
  cases m.metadata with
  | none => exact ⟨rfl, rfl⟩
  | some row => simp

end Texts

/-- The rows an apply writes before its receipts: the reviewed values are the current ones. -/
theorem writeReview_ok {reviewed : Review} {status : SaveStatus} (hm : m.Consistent)
    (htitle : nonblank reviewed.displayTitle = reviewed.displayTitle)
    (hdescription : nonblank reviewed.description = reviewed.description)
    (htags : TagsReviewed request reviewed m.tagKeys m.collectionKey m.processedAtMs)
    (h : writeReview outside request (loadApplyCanonical m) reviewed m = .ok (status, m')) :
    (∃ row, m'.metadata = some row ∧ row.check = true ∧
      row.collectionKey = reviewed.collectionKey ∧ row.processedAtMs = reviewed.processedAtMs ∧
      (m.metadata = none → row.acquisitionSource = .unknown ∧ row.creator = .absent) ∧
      ∀ old, m.metadata = some old → row.contentCategory = old.contentCategory ∧
        row.acquisitionSource = old.acquisitionSource ∧ row.creator = old.creator) ∧
      m'.Holds reviewed.tagKeys ∧ reviewed.tagKeys.length ≤ 32 ∧
      m'.genres = m.genres ∧ (∀ field, m'.value field = reviewed.value field) ∧
      m'.fieldSources = m.fieldSources ∧ m'.tagSources = m.tagSources := by
  have hvalues : ∀ row, m'.metadata = some row → m'.Holds reviewed.tagKeys →
      row.displayTitle = reviewed.displayTitle → row.description = reviewed.description →
      ∀ field, m'.value field = reviewed.value field := by
    intro row hrow hholds htitle' hdescription' field
    cases field with
    | displayTitle => simp [Medium.value, Review.value, loadApplyCanonical, hrow, htitle', htitle]
    | description =>
      simp [Medium.value, Review.value, loadApplyCanonical, hrow, hdescription', hdescription]
    | tags => simp [Medium.value, Review.value, hholds.tagKeys]
  unfold writeReview at h
  cases hmetadata : m.metadata with
  | none =>
    rw [hmetadata] at h
    obtain ⟨stored, hstored, h⟩ := bind_eq_ok.mp h
    obtain ⟨tagged, htagged, h⟩ := bind_eq_ok.mp h
    cases h
    obtain ⟨-, hcheck, rfl⟩ := insertMetadata_ok hstored
    obtain ⟨tags, rfl, hholds, hfew, -⟩ := insertAll_ok rfl htagged
    exact ⟨⟨_, rfl, hcheck, rfl, rfl, fun _ => ⟨rfl, rfl⟩, fun _ hold => by cases hold⟩, hholds,
      hfew, rfl, hvalues _ rfl hholds rfl rfl, rfl, rfl⟩
  | some old =>
    simp only [hmetadata] at h
    have hkept : ∀ row, row = updatedRow reviewed request.nowMs old →
        (some old = none → row.acquisitionSource = AcquisitionSource.unknown ∧
          row.creator = Creator.absent) ∧
        ∀ found, some old = some found → row.contentCategory = found.contentCategory ∧
          row.acquisitionSource = found.acquisitionSource ∧ row.creator = found.creator := by
      rintro row rfl
      refine ⟨fun hnone => (by cases hnone), fun found hfound => ?_⟩
      cases hfound
      exact ⟨rfl, rfl, rfl⟩
    split at h
    · obtain ⟨stored, hstored, h⟩ := bind_eq_ok.mp h
      obtain ⟨hcheck, rfl⟩ := updateMetadata_ok hstored
      split at h
      · obtain ⟨tagged, htagged, h⟩ := bind_eq_ok.mp h
        cases h
        obtain ⟨tags, rfl, hholds, hfew, -⟩ := insertAll_ok rfl htagged
        exact ⟨⟨_, rfl, hcheck, rfl, rfl, hkept _ rfl⟩, hholds, hfew, rfl,
          hvalues _ rfl hholds rfl rfl, rfl, rfl⟩
      · rename_i hnotags
        cases h
        obtain ⟨hin, -⟩ | ⟨hkeys, -⟩ := htags
        · exact absurd hin hnotags
        · have hholds : m.Holds reviewed.tagKeys := hkeys ▸ hm.holds
          exact ⟨⟨_, rfl, hcheck, rfl, rfl, hkept _ rfl⟩, hholds, hkeys ▸ hm.few, rfl,
            hvalues _ rfl hholds rfl rfl, rfl, rfl⟩
    · rename_i hsame
      cases h
      simp only [Review.changes, Bool.not_eq_true, Bool.not_eq_false', Bool.and_eq_true,
        decide_eq_true_eq] at hsame
      obtain ⟨⟨⟨⟨htitle', hdescription'⟩, hkeys⟩, hcollection⟩, hprocessed⟩ := hsame
      obtain ⟨hcollection', hprocessed', hkeys'⟩ := loadApplyCanonical_collection m
      rw [hkeys'] at hkeys
      have hold : old.collectionKey = reviewed.collectionKey := by
        rw [hcollection, hcollection']
        simp [Medium.collectionKey, hmetadata]
      have hold' : old.processedAtMs = reviewed.processedAtMs := by
        rw [hprocessed, hprocessed']
        simp [Medium.processedAtMs, hmetadata]
      refine ⟨⟨old, hmetadata, hm.checked old hmetadata, hold, hold', fun hnone => (by cases hnone),
        fun found hfound => ?_⟩, hkeys ▸ hm.holds, hkeys ▸ hm.few, rfl, fun field => ?_, rfl, rfl⟩
      · cases hfound
        exact ⟨rfl, rfl, rfl⟩
      · cases field with
        | displayTitle => simp [Medium.value, Review.value, htitle']
        | description => simp [Medium.value, Review.value, hdescription']
        | tags => simp [Medium.value, Review.value, hkeys]

theorem applyOperation_ok {status : SaveStatus} (hm : m.Consistent)
    (h : applyOperation lib outside mediaId request m = .ok (status, m')) :
    ∃ reviewed, Applied lib request reviewed m m' := by
  obtain ⟨-, -, h⟩ := bind_eq_ok.mp h
  obtain ⟨run, -, h⟩ := bind_eq_ok.mp h
  obtain ⟨stored, hstored, h⟩ := bind_eq_ok.mp h
  obtain ⟨-, h⟩ := require_bind_eq_ok.mp h
  obtain ⟨reviewed, hreviewed, h⟩ := bind_eq_ok.mp h
  obtain ⟨⟨written, m₁⟩, hwritten, h⟩ := bind_eq_ok.mp h
  obtain ⟨m₂, hreceived, h⟩ := bind_eq_ok.mp h
  obtain ⟨m₃, hsourced, h⟩ := bind_eq_ok.mp h
  cases h
  obtain ⟨htitle, hdescription, htags⟩ := review_ok hreviewed
  obtain ⟨hcollection, hprocessed, hkeys⟩ := loadApplyCanonical_collection m
  rw [hcollection, hprocessed, hkeys] at htags
  obtain ⟨hblankTitle, hblankDescription⟩ := decode_ok hstored
  obtain ⟨hcurrentTitle, hcurrentDescription⟩ := loadApplyCanonical_nonblank m
  have htitle' : nonblank reviewed.displayTitle = reviewed.displayTitle := by
    rw [htitle]
    split
    · exact nonblank_some hblankTitle
    · exact hcurrentTitle
  have hdescription' : nonblank reviewed.description = reviewed.description := by
    rw [hdescription]
    split
    · exact nonblank_some hblankDescription
    · exact hcurrentDescription
  obtain ⟨hrow, hholds, hfew, hgenres, hvalues, hfields, hsources⟩ :=
    writeReview_ok hm htitle' hdescription' htags hwritten
  obtain ⟨fieldTable, rfl, hfieldTable⟩ := upsertFieldSources_ok hreceived
  obtain ⟨tagTable, rfl, htagTable⟩ := insertNewTagSources_ok hsourced
  refine ⟨reviewed, hrow, hholds, hfew, hgenres, htags, fun field => ?_, ⟨fun hin => ?_,
    fun hin => ?_⟩, fun field => ?_, fun key => ?_⟩
  · rw [← hvalues field]
    cases field <;> rfl
  · rw [htitle, if_pos hin]
    rfl
  · rw [hdescription, if_pos hin]
    rfl
  · have hfield := hfieldTable field
    rw [hfields] at hfield
    exact hfield
  · have hkey := htagTable key
    rw [hsources] at hkey
    exact hkey

end Applying
end FrameNest.Metadata
