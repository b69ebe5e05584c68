import FrameNest.Metadata.Attribution
import FrameNest.Metadata.Reapplying
import FrameNest.Sidecar.Documents

/-! What can still be read of a medium after an apply: by the query for its metadata, by a save
of it and by the projection of its sidecar. -/
namespace FrameNest.Metadata
open Plain Relational

section Readers
variable (lib : Library) (outside : Outside)

/- `get_media_metadata`. -/
def getMediaMetadata (mediaId : String) (w : Catalog) : Except Failure MediaMetadataSnapshot :=
  match Named.get? w mediaId with
  | none => .error .mediaNotFound
  | some m => loadMetadataSnapshot lib m

/- What `CanonicalTagDisplayName` takes; it keeps the text stripped. -/
def isTagDisplayName (s : String) : Bool :=
  !s.toList.any isControl && strip s ≠ "" && (strip s).toList.length ≤ 80

structure SidecarTagDefinition where
  key : CanonicalTagKey
  displayName : String

/- `get_canonical_tag`, whose row is read through the constructors. -/
def getCanonicalTag (key : CanonicalTagKey) : Except Failure (Option SidecarTagDefinition) :=
  match outside.canonicalTags.find? fun tag => tag.key = key.value with
  | none => .ok none
  | some tag => asRepositoryFailure do
    let found ← CanonicalTagKey.parse tag.key
    require (isTagDisplayName tag.displayName) .invalidMetadata
    return some ⟨found, strip tag.displayName⟩

/-- What leaves the projection of a sidecar as an exception. -/
inductive ProjectionFailure where
  | notFound | unavailable | inconsistent | malformed
  | repository (x : Failure)
deriving DecidableEq

/-- A location of the catalog, with what is known of its library. -/
structure SidecarPlace where
  mediaId : String
  available : Bool
  libraryKnown : Bool
deriving DecidableEq

/-- What a sidecar says of the metadata. -/
structure SidecarProjection where
  displayTitle : Option MediaDisplayTitle
  description : Option MediaDescription
  tagDefinitions : List SidecarTagDefinition
  contentCategory : ContentCategory
  acquisitionSource : AcquisitionSource
  genreKeys : List MovieGenre
  creator : Creator
  processedAtMs : Option Int
  createdAtMs : Option Int
  updatedAtMs : Option Int

def asProjectionFailure {α : Type} : Except Failure α → Except ProjectionFailure α
  | .ok a => .ok a
  | .error x => .error (.repository x)

/- `_tag_definitions`. -/
def tagDefinitions : List CanonicalTagKey → Except ProjectionFailure (List SidecarTagDefinition)
  | [] => .ok []
  | key :: keys => do
    let found ← asProjectionFailure (getCanonicalTag outside key)
    match found with
    | none => .error .inconsistent
    | some item => do
      let rest ← tagDefinitions keys
      return item :: rest

/- `_processed_state`, whose constructor takes no negative time. -/
def processedState (snapshot : MediaMetadataSnapshot) : Except ProjectionFailure (Option Int) :=
  match snapshot.collectionKey, snapshot.processedAtMs with
  | none, none => .ok none
  | some .processed, some ms => if 0 ≤ ms then .ok (some ms) else .error .malformed
  | _, _ => .error .inconsistent

/- The times come together, none of them negative, the later one last. -/
def orderedStamps : Option Int → Option Int → Bool
  | none, none => true
  | some created, some updated => 0 ≤ created && created ≤ updated
  | _, _ => false

/- `MediaSidecarService.project`; the constructor of the document checks once more what the
   snapshot holds, and normalizes the creator again. -/
def project (mediaId : String) (location : Option SidecarPlace) (w : Catalog) :
    Except ProjectionFailure SidecarProjection := do
  require (Named.get? w mediaId).isSome .notFound
  match location with
  | none => .error .notFound
  | some place => do
    require (place.mediaId = mediaId) .notFound
    require (place.available && place.libraryKnown) .unavailable
    let snapshot ← asProjectionFailure (getMediaMetadata lib mediaId w)
    let definitions ← tagDefinitions outside snapshot.tagKeys
    let processed ← processedState snapshot
    require (Sidecar.fewTags snapshot.tagKeys &&
      definitions.map SidecarTagDefinition.key = snapshot.tagKeys &&
      Sidecar.fewGenres snapshot.genreKeys snapshot.contentCategory &&
      orderedStamps snapshot.createdAtMs snapshot.updatedAtMs) .malformed
    let creator ← (validateCreatorAttributionFields lib snapshot.creator).mapError fun _ => .malformed
    return ⟨snapshot.displayTitle, snapshot.description, definitions, snapshot.contentCategory,
      snapshot.acquisitionSource, snapshot.genreKeys, creator, processed, snapshot.createdAtMs,
      snapshot.updatedAtMs⟩

/-- The metadata of a medium can be queried, saved and projected. -/
structure StillReadable (mediaId : String) (w : Catalog) : Prop where
  get : ∃ snapshot, getMediaMetadata lib mediaId w = .ok snapshot
  save : ∃ request saved, saveMediaMetadata lib outside mediaId request w = .ok saved
  sidecar : ∃ document, project lib outside mediaId (some ⟨mediaId, true, true⟩) w = .ok document

end Readers

section Texts

/- The control characters beyond ASCII. -/
def isC1 (c : Char) : Bool := 128 ≤ c.toNat && c.toNat ≤ 159

def isPlainText (s : String) : Bool := !s.toList.any isC1

theorem validateStoredText_checks {maximum : Nat} {value : Parsed} {s : String}
    (h : validateStoredText maximum value = .ok s) :
    1 ≤ s.toList.length ∧ s.toList.length ≤ maximum ∧ strip s = s ∧
      ∀ c ∈ s.toList, ¬(c.toNat ≤ 31 ∨ c.toNat = 127) := by
  cases value with
  | str t =>
    obtain ⟨hlength, h⟩ := require_bind_eq_ok.mp h
    obtain ⟨hstrip, h⟩ := require_bind_eq_ok.mp h
    obtain ⟨hcontrol, h⟩ := require_bind_eq_ok.mp h
    cases h
    simp only [Bool.and_eq_true, decide_eq_true_eq] at hlength
    refine ⟨hlength.1, hlength.2, of_decide_eq_true hstrip, fun c hc hbad => ?_⟩
    simp only [Bool.not_eq_true', List.any_eq_false, Bool.or_eq_true, decide_eq_true_eq] at hcontrol
    exact hcontrol c hc hbad
  | _ => cases h

variable {maximum : Nat} {value : Parsed} {s : String}

/-- Past the check of a stored result only the C1 control characters are left. -/
theorem isControl_stored (h : validateStoredText maximum value = .ok s) {c : Char}
    (hc : c ∈ s.toList) : isControl c = isC1 c := by
  obtain ⟨-, -, -, hcontrol⟩ := validateStoredText_checks h
  have hnot := hcontrol c hc
  rw [Bool.eq_iff_iff]
  simp only [isControl, isC1, Bool.or_eq_true, Bool.and_eq_true, decide_eq_true_eq]
  omega

theorem ne_empty_of_length {s : String} (h : 1 ≤ s.toList.length) : s ≠ "" := by
  rintro rfl
  simp at h

theorem isDisplayTitle_stored (h : validateStoredText maximum value = .ok s)
    (hmaximum : maximum ≤ 240) : isDisplayTitle s = isPlainText s := by
  obtain ⟨hlow, hhigh, hstrip, -⟩ := validateStoredText_checks h
  have hlong : s.toList.length ≤ 240 := by omega
  have hany : s.toList.any isControl = s.toList.any isC1 := by
    rw [Bool.eq_iff_iff, List.any_eq_true, List.any_eq_true]
    constructor
    · rintro ⟨c, hc, hcontrol⟩
      exact ⟨c, hc, (isControl_stored h hc).symm.trans hcontrol⟩
    · rintro ⟨c, hc, hcontrol⟩
      exact ⟨c, hc, (isControl_stored h hc).trans hcontrol⟩
  have hne := ne_empty_of_length hlow
  simp [isDisplayTitle, isPlainText, hne, hstrip, hlong, hany]

theorem isDescription_stored (h : validateStoredText maximum value = .ok s)
    (hmaximum : maximum ≤ 10000) : isDescription s = isPlainText s := by
  obtain ⟨hlow, hhigh, hstrip, hcontrol⟩ := validateStoredText_checks h
  have hlong : s.toList.length ≤ 10000 := by omega
  have hany : (s.toList.any fun c => isControl c && decide (c ≠ '\n')) = s.toList.any isC1 := by
    rw [Bool.eq_iff_iff, List.any_eq_true, List.any_eq_true]
    constructor
    · rintro ⟨c, hc, hbad⟩
      rw [Bool.and_eq_true] at hbad
      exact ⟨c, hc, (isControl_stored h hc).symm.trans hbad.1⟩
    · rintro ⟨c, hc, hbad⟩
      have hne : c ≠ '\n' := by
        rintro rfl
        exact hcontrol _ hc (Or.inl (by decide))
      exact ⟨c, hc, by simp [isControl_stored h hc, hbad, hne]⟩
  have hne := ne_empty_of_length hlow
  simp only [isDescription, isPlainText, hstrip, hlong, hany]
  simp [hne]

/-- What the two texts of a stored result were checked for. -/
theorem decode_texts {lib : Library} {resultJson : String} {stored : StoredSuggestion}
    (h : decodeStoredSuggestionResult lib resultJson = .ok stored) :
    isDisplayTitle stored.title = isPlainText stored.title ∧
      isDescription stored.description = isPlainText stored.description := by
  obtain ⟨-, h⟩ := require_bind_eq_ok.mp h
  cases hloads : lib.loads resultJson with
  | value payload =>
    rw [hloads] at h
    cases payload with
    | obj members =>
      obtain ⟨title, htitle, h⟩ := bind_eq_ok.mp h
      obtain ⟨description, hdescription, h⟩ := bind_eq_ok.mp h
      obtain ⟨tags, htags, h⟩ := bind_eq_ok.mp h
      cases h
      exact ⟨isDisplayTitle_stored htitle (by decide), isDescription_stored hdescription (by decide)⟩
    | _ => cases h
  | _ =>
    rw [hloads] at h
    cases h

end Texts

section Snapshots
variable {lib : Library} {m : Medium}

theorem parseNullable_title {text : Option String} :
    (∃ title, parseNullable MediaDisplayTitle.parse text = .ok title) ↔
      ∀ s ∈ text, isDisplayTitle s = true := by
  cases text with
  | none => simp [parseNullable]
  | some s =>
    unfold parseNullable MediaDisplayTitle.parse
    by_cases h : isDisplayTitle s = true
    · simp [h, Except.map]
    · simp [h, Except.map]

theorem parseNullable_description {text : Option String} :
    (∃ description, parseNullable MediaDescription.parse text = .ok description) ↔
      ∀ s ∈ text, isDescription s = true := by
  cases text with
  | none => simp [parseNullable]
  | some s =>
    unfold parseNullable MediaDescription.parse
    by_cases h : isDescription s = true
    · simp [h, Except.map]
    · simp [h, Except.map]

theorem parse_value {s : String} {key : CanonicalTagKey} (h : CanonicalTagKey.parse s = .ok key) :
    key.value = s := by
  unfold CanonicalTagKey.parse at h
  split at h
  · cases h
    rfl
  · cases h

theorem mapM_parse_value {keys : List String} {parsed : List CanonicalTagKey}
    (h : keys.mapM CanonicalTagKey.parse = .ok parsed) :
    parsed.map CanonicalTagKey.value = keys := by
  induction keys generalizing parsed with
  | nil =>
    cases h
    rfl
  | cons key keys ih =>
    rw [List.mapM_cons] at h
    obtain ⟨first, hfirst, h⟩ := bind_eq_ok.mp h
    obtain ⟨rest, hrest, h⟩ := bind_eq_ok.mp h
    cases h
    rw [List.map_cons, parse_value hfirst, ih hrest]

theorem mapM_parse {keys : List String} :
    (∃ parsed, keys.mapM CanonicalTagKey.parse = .ok parsed) ↔ ∀ key ∈ keys, isTagKey key = true := by
  induction keys with
  | nil => simp [pure, Except.pure]
  | cons key keys ih =>
    rw [List.mapM_cons, List.forall_mem_cons, ← ih]
    constructor
    · rintro ⟨parsed, h⟩
      obtain ⟨first, hfirst, h⟩ := bind_eq_ok.mp h
      obtain ⟨rest, hrest, -⟩ := bind_eq_ok.mp h
      have hvalid := first.valid
      rw [parse_value hfirst] at hvalid
      exact ⟨hvalid, rest, hrest⟩
    · rintro ⟨hkey, rest, hrest⟩
      have hfirst : CanonicalTagKey.parse key = .ok ⟨key, hkey⟩ := by
        unfold CanonicalTagKey.parse
        rw [dif_pos hkey]
      exact ⟨⟨key, hkey⟩ :: rest, bind_eq_ok.mpr ⟨_, hfirst, bind_eq_ok.mpr ⟨rest, hrest, rfl⟩⟩⟩

theorem validate_absent : validateCreatorAttributionFields lib .absent = .ok .absent := rfl

/-- A row is read exactly when its texts, tags and creator are what the constructors take. -/
theorem loadMetadataSnapshot_iff (hrow : m.metadata.isSome = true) :
    (∃ snapshot, loadMetadataSnapshot lib m = .ok snapshot) ↔
      (∀ s ∈ m.displayTitle, isDisplayTitle s = true) ∧
      (∀ s ∈ m.description, isDescription s = true) ∧
      (∀ key ∈ m.tagKeys, isTagKey key = true) ∧
      ∃ creator, validateCreatorAttributionFields lib m.creator = .ok creator := by
  obtain ⟨row, hrow⟩ := Option.isSome_iff_exists.mp hrow
  have htitle : m.displayTitle = row.displayTitle := by simp [Medium.displayTitle, hrow]
  have hdescription : m.description = row.description := by simp [Medium.description, hrow]
  have hcreator : m.creator = row.creator := by simp [Medium.creator, hrow]
  rw [htitle, hdescription, hcreator, ← parseNullable_title, ← parseNullable_description,
    ← mapM_parse]
  constructor
  · rintro ⟨snapshot, h⟩
    unfold loadMetadataSnapshot at h
    simp only [hrow] at h
    obtain ⟨creator, hvalid, h⟩ := bind_eq_ok.mp (asRepositoryFailure_ok.mp h)
    obtain ⟨title, htitle, h⟩ := bind_eq_ok.mp h
    obtain ⟨description, hdescription, h⟩ := bind_eq_ok.mp h
    obtain ⟨keys, hkeys, -⟩ := bind_eq_ok.mp h
    exact ⟨⟨title, htitle⟩, ⟨description, hdescription⟩, ⟨keys, hkeys⟩, creator, hvalid⟩
  · rintro ⟨⟨title, htitle⟩, ⟨description, hdescription⟩, ⟨keys, hkeys⟩, creator, hvalid⟩
    unfold loadMetadataSnapshot
    simp only [hrow]
    exact ⟨_, asRepositoryFailure_ok.mpr (bind_eq_ok.mpr ⟨creator, hvalid, bind_eq_ok.mpr
      ⟨title, htitle, bind_eq_ok.mpr ⟨description, hdescription, bind_eq_ok.mpr
        ⟨keys, hkeys, rfl⟩⟩⟩⟩)⟩

/-- What a snapshot of a row holds. -/
structure SnapshotOf (lib : Library) (m : Medium) (snapshot : MediaMetadataSnapshot) : Prop where
  persisted : snapshot.persisted = true
  tagKeys : snapshot.tagKeys.map CanonicalTagKey.value = m.tagKeys
  collectionKey : snapshot.collectionKey = m.collectionKey
  processedAtMs : snapshot.processedAtMs = m.processedAtMs
  contentCategory : snapshot.contentCategory = m.contentCategory
  genreKeys : snapshot.genreKeys = m.genreKeys
  creator : validateCreatorAttributionFields lib m.creator = .ok snapshot.creator
  stamps : ∃ row, m.metadata = some row ∧ snapshot.createdAtMs = some row.createdAtMs ∧
    snapshot.updatedAtMs = some row.updatedAtMs

theorem loadMetadataSnapshot_of {snapshot : MediaMetadataSnapshot}
    (hrow : m.metadata.isSome = true) (h : loadMetadataSnapshot lib m = .ok snapshot) :
    SnapshotOf lib m snapshot := by
  obtain ⟨row, hrow⟩ := Option.isSome_iff_exists.mp hrow
  unfold loadMetadataSnapshot at h
  simp only [hrow] at h
  obtain ⟨creator, hvalid, h⟩ := bind_eq_ok.mp (asRepositoryFailure_ok.mp h)
  obtain ⟨title, htitle, h⟩ := bind_eq_ok.mp h
  obtain ⟨description, hdescription, h⟩ := bind_eq_ok.mp h
  obtain ⟨keys, hkeys, h⟩ := bind_eq_ok.mp h
  cases h
  refine ⟨rfl, mapM_parse_value hkeys, ?_, ?_, ?_, rfl, ?_, row, hrow, rfl, rfl⟩
  · simp [Medium.collectionKey, hrow]
  · simp [Medium.processedAtMs, hrow]
  · simp [Medium.contentCategory, hrow]
  · simpa [Medium.creator, hrow] using hvalid

end Snapshots

section Defined
variable {lib : Library} {outside : Outside} {m : Medium}

/-- The rows of the table of canonical tags were written through the constructors. -/
def Outside.Typed (outside : Outside) : Prop :=
  ∀ tag ∈ outside.canonicalTags, isTagKey tag.key = true ∧ isTagDisplayName tag.displayName = true

/-- Every tag is defined, as a foreign key has it. -/
def Outside.Defines (outside : Outside) (keys : List String) : Prop :=
  ∀ key ∈ keys, key ∈ outside.canonicalTags.map CanonicalTagView.key

theorem getCanonicalTag_defined (htyped : outside.Typed) {key : CanonicalTagKey}
    (hkey : key.value ∈ outside.canonicalTags.map CanonicalTagView.key) :
    ∃ item, getCanonicalTag outside key = .ok (some item) ∧ item.key = key := by
  obtain ⟨tag, htag, hvalue⟩ := List.mem_map.mp hkey
  cases hfind : outside.canonicalTags.find? fun tag => tag.key = key.value with
  | none =>
    have hnot := List.find?_eq_none.mp hfind tag htag
    simp [hvalue] at hnot
  | some found =>
    have hmem := List.mem_of_find?_eq_some hfind
    have hfound : found.key = key.value := by simpa using List.find?_some hfind
    obtain ⟨-, hname⟩ := htyped found hmem
    have hparse : CanonicalTagKey.parse found.key = .ok key := by
      unfold CanonicalTagKey.parse
      rw [dif_pos (hfound ▸ key.valid)]
      exact congrArg Except.ok (CanonicalTagKey.value_injective hfound)
    refine ⟨⟨key, strip found.displayName⟩, ?_, rfl⟩
    unfold getCanonicalTag
    simp only [hfind]
    exact asRepositoryFailure_ok.mpr (bind_eq_ok.mpr ⟨key, hparse,
      require_bind_eq_ok.mpr ⟨hname, rfl⟩⟩)

theorem tagDefinitions_defined (htyped : outside.Typed) {keys : List CanonicalTagKey}
    (hkeys : outside.Defines (keys.map CanonicalTagKey.value)) :
    ∃ definitions, tagDefinitions outside keys = .ok definitions ∧
      definitions.map SidecarTagDefinition.key = keys := by
  induction keys with
  | nil => exact ⟨[], rfl, rfl⟩
  | cons key keys ih =>
    rw [Outside.Defines, List.map_cons, List.forall_mem_cons] at hkeys
    obtain ⟨rest, hrest, hmap⟩ := ih hkeys.2
    obtain ⟨item, hitem, hkey⟩ := getCanonicalTag_defined htyped hkeys.1
    refine ⟨item :: rest, ?_, by rw [List.map_cons, hkey, hmap]⟩
    unfold tagDefinitions
    rw [hitem, hrest]
    rfl

/-- The values a save of what is stored asks for. -/
def MediaMetadataSnapshot.again (snapshot : MediaMetadataSnapshot) : SaveRequest where
  displayTitle := snapshot.displayTitle
  description := snapshot.description
  tagKeys := snapshot.tagKeys
  nowMs := 0
  contentCategory := .omitted
  acquisitionSource := none
  genreKeys := []
  creatorAttributionKind := .omitted
  creatorStableId := .omitted
  creatorHandle := .omitted
  creatorDisplayName := .omitted

theorem resolve_again {snapshot : MediaMetadataSnapshot} (h : snapshot.persisted = true) :
    resolve snapshot snapshot.again =
      .ok ⟨snapshot.acquisitionSource, snapshot.contentCategory, snapshot.creator⟩ := by
  unfold resolve
  rw [if_pos h]
  by_cases hx : snapshot.acquisitionSource = .xManualClaim
  · rw [if_pos hx]
    rfl
  · rw [if_neg hx]
    rfl

theorem genreKeys_nil (hm : m.Consistent) (hcategory : m.contentCategory ≠ .movie) :
    m.genreKeys = [] := by
  have hrows : m.genres.rows = [] := by
    by_contra hne
    obtain ⟨row, hrow, hmovie⟩ := hm.genres hne
    exact hcategory (by simpa [Medium.contentCategory, hrow] using hmovie)
  unfold Medium.genreKeys
  rw [hrows]
  rfl

/-- The collection state of consistent rows is derived from itself. -/
theorem derive_again (hm : m.Consistent) (nowMs : Int) :
    ∃ state, deriveCollectionState m.collectionKey m.processedAtMs (m.tagKeys ≠ []) nowMs =
        .ok state ∧
      state.collectionKey = m.collectionKey ∧ state.processedAtMs = m.processedAtMs := by
  have hnonnegative : ∀ ms ∈ m.processedAtMs, 0 ≤ ms := by
    intro ms hms
    unfold Medium.processedAtMs at hms
    obtain ⟨row, hrow, hprocessed⟩ := Option.bind_eq_some_iff.mp hms
    have hcheck := hm.checked row hrow
    simp only [MetadataRow.check, Bool.and_eq_true, decide_eq_true_eq] at hcheck
    have hall := hcheck.1.1.1.1.2
    rw [hprocessed] at hall
    simpa using hall
  by_cases htags : m.tagKeys = []
  · have hkey := hm.key_of_tags
    rw [if_pos htags] at hkey
    refine ⟨⟨none, none, rfl, by simp⟩, ?_, hkey.symm, (hm.processed_of_tags htags).symm⟩
    unfold deriveCollectionState
    simp [htags, CollectionState.make]
  · have hkey := hm.collected.mpr htags
    refine ⟨⟨m.collectionKey, m.processedAtMs, hm.paired, hnonnegative⟩, ?_, rfl, rfl⟩
    unfold deriveCollectionState
    rw [if_pos (by simp [hkey, htags])]
    exact dif_pos ⟨hm.paired, hnonnegative⟩

/-- A save of what is stored changes nothing. -/
theorem saveOperation_again {snapshot : MediaMetadataSnapshot} (hm : m.Consistent)
    (hcategory : m.contentCategory ≠ .movie) (hdefined : outside.Defines m.tagKeys)
    (hrow : m.metadata.isSome = true) (h : loadMetadataSnapshot lib m = .ok snapshot) :
    saveOperation lib outside snapshot.again m = .ok (.unchanged, m) := by
  have hsnapshot := loadMetadataSnapshot_of hrow h
  obtain ⟨state, hstate, hkey, hprocessed⟩ := derive_again hm 0
  have hempty : (snapshot.tagKeys ≠ []) ↔ (m.tagKeys ≠ []) := by
    rw [← hsnapshot.tagKeys]
    simp
  have hderived : deriveCollectionState snapshot.collectionKey snapshot.processedAtMs
      (snapshot.tagKeys ≠ []) 0 = .ok state := by
    rw [hsnapshot.collectionKey, hsnapshot.processedAtMs, decide_eq_decide.mpr hempty]
    exact hstate
  have hgenres : snapshot.genreKeys = [] := by
    rw [hsnapshot.genreKeys, genreKeys_nil hm hcategory]
  have hnormal : normalizeGenresForCategory snapshot.contentCategory [] = [] := by
    simp [normalizeGenresForCategory]
  have hunchanged : isUnchanged snapshot snapshot.again
      ⟨snapshot.acquisitionSource, snapshot.contentCategory, snapshot.creator⟩ [] state = true := by
    simp [isUnchanged, MediaMetadataSnapshot.again, hsnapshot.persisted, hgenres, hkey, hprocessed,
      hsnapshot.collectionKey, hsnapshot.processedAtMs]
  refine require_bind_eq_ok.mpr ⟨?_, ?_⟩
  · rw [List.all_eq_true]
    intro key hin
    have hmem : key.value ∈ m.tagKeys := by
      rw [← hsnapshot.tagKeys]
      exact List.mem_map_of_mem hin
    simpa using hdefined _ hmem
  refine bind_eq_ok.mpr ⟨snapshot, h, bind_eq_ok.mpr ⟨_, resolve_again hsnapshot.persisted, ?_⟩⟩
  refine bind_eq_ok.mpr ⟨state, hderived, ?_⟩
  simp only [MediaMetadataSnapshot.again] at hunchanged ⊢
  simp [hnormal, hunchanged, pure, Except.pure]

theorem checkSave_again {snapshot : MediaMetadataSnapshot} (hm : m.Consistent)
    (h : snapshot.tagKeys.map CanonicalTagKey.value = m.tagKeys) :
    checkSave lib snapshot.again = .ok () := by
  have hlength : snapshot.tagKeys.length ≤ maxMediaTags := by
    have hfew := hm.few
    rw [← h, List.length_map] at hfew
    exact hfew
  have hnodup : snapshot.tagKeys.Nodup := by
    have hkeys := hm.holds.nodup
    rw [← h] at hkeys
    exact hkeys.of_map _
  refine require_bind_eq_ok.mpr ⟨by simp [MediaMetadataSnapshot.again, hlength, hnodup], ?_⟩
  refine bind_eq_ok.mpr ⟨_, validate_absent, ?_⟩
  simp [MediaMetadataSnapshot.again, require]

end Defined
section Applied
variable {lib : Library} {outside : Outside} {request : ReviewRequest} {mediaId : String}
  {m m' : Medium}

/-- The texts that are selected hold no control character beyond ASCII. -/
def SelectedPlain (lib : Library) (outside : Outside) (mediaId : String)
    (request : ReviewRequest) : Prop :=
  ∀ run stored, requireEligibleRun outside mediaId request.analysisRunId = .ok run →
    decodeStoredSuggestionResult lib run.resultJson = .ok stored →
    (.displayTitle ∈ request.fields → isPlainText stored.title = true) ∧
      (.description ∈ request.fields → isPlainText stored.description = true)

/-- What an apply keeps of the medium could be read. -/
structure KeptReadable (lib : Library) (request : ReviewRequest) (m : Medium) : Prop where
  title : .displayTitle ∉ request.fields → ∀ s ∈ m.displayTitle, isDisplayTitle s = true
  description : .description ∉ request.fields → ∀ s ∈ m.description, isDescription s = true
  tags : ∀ key ∈ m.tagKeys, isTagKey key = true
  creator : ∃ once twice, validateCreatorAttributionFields lib m.creator = .ok once ∧
    validateCreatorAttributionFields lib once = .ok twice

theorem matchCanonicalTag_mem {catalog : List CanonicalTagView} {raw : String}
    {tag : CanonicalTagView} (h : matchCanonicalTag lib catalog raw = some tag) :
    tag ∈ catalog := by
  have hone : ∀ p : CanonicalTagView → Bool, catalog.filter p = [tag] → tag ∈ catalog := by
    intro p hp
    have hmem : tag ∈ catalog.filter p := by simp [hp]
    exact (List.mem_filter.mp hmem).1
  unfold matchCanonicalTag at h
  simp only at h
  split at h
  · rename_i found hfilter
    cases h
    exact hone _ hfilter
  · cases h
  · split at h
    · rename_i found hfilter
      cases h
      exact hone _ hfilter
    · cases h

/-- Only keys of the catalog are eligible. -/
theorem eligible_defined {catalog : List CanonicalTagView} {raws mapped : List String} {key : String}
    (h : key ∈ eligibleMappedTagKeys lib catalog raws mapped) :
    key ∈ catalog.map CanonicalTagView.key := by
  induction raws generalizing mapped with
  | nil => cases h
  | cons raw rest ih =>
    rw [eligibleMappedTagKeys] at h
    cases hmatch : matchCanonicalTag lib catalog raw with
    | none =>
      rw [hmatch] at h
      exact ih h
    | some tag =>
      rw [hmatch] at h
      simp only at h
      split at h
      · exact ih h
      split at h
      · exact ih h
      · rcases List.mem_cons.mp h with rfl | h
        · exact List.mem_map_of_mem (matchCanonicalTag_mem hmatch)
        · exact ih h

theorem AppliedTo.defines (h : AppliedTo lib outside mediaId request m m')
    (hdefined : outside.Defines m.tagKeys) : outside.Defines m'.tagKeys := by
  intro key hkey
  rw [h.tags] at hkey
  by_cases hselected : ReviewField.tags ∈ request.fields
  · rw [if_pos hselected] at hkey
    rcases List.mem_append.mp hkey with hkey | hkey
    · exact hdefined key hkey
    · obtain ⟨run, stored, -, -, -, -, -, -, hsublist⟩ := h.texts
      exact eligible_defined ((hsublist hselected).subset (List.mem_filter.mp hkey).1)
  · rw [if_neg hselected] at hkey
    exact hdefined key hkey

/-- The keys an apply leaves are the kept ones and, if tags are selected, parsed ones. -/
theorem ApplySteps.tags_valid {run : AnalysisRun} {stored : StoredSuggestion} {reviewed : Review}
    {status : SaveStatus} {m₁ m₂ : Medium} (hblank : m.Nonblank)
    (h : ApplySteps lib outside mediaId request run stored reviewed status m m₁ m₂ m') :
    (∀ key ∈ m'.tagKeys, isTagKey key = true) ↔ ∀ key ∈ m.tagKeys, isTagKey key = true := by
  have hstored := h.leaves hblank
  rw [hstored.tagKeys]
  obtain ⟨-, -, hkeys⟩ := loadApplyCanonical_collection m
  have hchosen := h.chosen
  unfold review at hchosen
  by_cases hselected : ReviewField.tags ∈ request.fields
  · simp only [hselected, if_true] at hchosen
    obtain ⟨-, hchosen⟩ := require_bind_eq_ok.mp hchosen
    obtain ⟨parsed, hparsed, hchosen⟩ := bind_eq_ok.mp hchosen
    obtain ⟨state, -, hchosen⟩ := bind_eq_ok.mp hchosen
    cases hchosen
    rw [hkeys] at hparsed ⊢
    have hall := mapM_parse.mp ⟨parsed, hparsed⟩
    constructor
    · intro _ key hkey
      exact hall key (List.mem_append_left _ hkey)
    · exact fun _ => hall
  · simp only [hselected, if_false] at hchosen
    cases hchosen
    rw [hkeys]

/-- Of consistent rows the three readers want no more than that the snapshot can be loaded, and
the projection that the creator can be normalized once more. -/
theorem stillReadable_iff {w : Catalog} (hget : Named.get? w mediaId = some m)
    (hm : m.Consistent) (hrow : m.metadata.isSome = true) (hcategory : m.contentCategory ≠ .movie)
    (htyped : outside.Typed) (hdefined : outside.Defines m.tagKeys) :
    StillReadable lib outside mediaId w ↔ ∃ snapshot twice,
      loadMetadataSnapshot lib m = .ok snapshot ∧
        validateCreatorAttributionFields lib snapshot.creator = .ok twice := by
  have hquery : getMediaMetadata lib mediaId w = loadMetadataSnapshot lib m := by
    unfold getMediaMetadata
    rw [hget]
  constructor
  · intro h
    obtain ⟨document, hdocument⟩ := h.sidecar
    obtain ⟨-, hdocument⟩ := require_bind_eq_ok.mp hdocument
    obtain ⟨-, hdocument⟩ := require_bind_eq_ok.mp hdocument
    obtain ⟨-, hdocument⟩ := require_bind_eq_ok.mp hdocument
    obtain ⟨snapshot, hsnapshot, hdocument⟩ := bind_eq_ok.mp hdocument
    obtain ⟨definitions, -, hdocument⟩ := bind_eq_ok.mp hdocument
    obtain ⟨processed, -, hdocument⟩ := bind_eq_ok.mp hdocument
    obtain ⟨-, hdocument⟩ := require_bind_eq_ok.mp hdocument
    obtain ⟨twice, htwice, -⟩ := bind_eq_ok.mp hdocument
    rw [hquery] at hsnapshot
    have hload : loadMetadataSnapshot lib m = .ok snapshot := by
      cases hcase : loadMetadataSnapshot lib m with
      | ok found =>
        rw [hcase] at hsnapshot
        cases hsnapshot
        rfl
      | error x =>
        rw [hcase] at hsnapshot
        cases hsnapshot
    refine ⟨snapshot, twice, hload, ?_⟩
    cases hcase : validateCreatorAttributionFields lib snapshot.creator with
    | ok found =>
      rw [hcase] at htwice
      cases htwice
      rfl
    | error x =>
      rw [hcase] at htwice
      cases htwice
  · rintro ⟨snapshot, twice, hload, htwice⟩
    have hsnapshot := loadMetadataSnapshot_of hrow hload
    refine ⟨⟨snapshot, hquery.trans hload⟩, ?_, ?_⟩
    · refine ⟨snapshot.again, (.unchanged, Named.set w mediaId m), ?_⟩
      refine bind_eq_ok.mpr ⟨(), checkSave_again hm hsnapshot.tagKeys, ?_⟩
      simp only [hget]
      exact bind_eq_ok.mpr ⟨_, saveOperation_again hm hcategory hdefined hrow hload, rfl⟩
    · have hkeys : outside.Defines (snapshot.tagKeys.map CanonicalTagKey.value) := by
        rw [hsnapshot.tagKeys]
        exact hdefined
      obtain ⟨definitions, hdefinitions, haligned⟩ := tagDefinitions_defined htyped hkeys
      obtain ⟨row, hfound, hcreated, hupdated⟩ := hsnapshot.stamps
      have hcheck := hm.checked row hfound
      simp only [MetadataRow.check, Bool.and_eq_true, decide_eq_true_eq] at hcheck
      have hprocessed : ∃ processed, processedState snapshot = .ok processed := by
        have hpaired := hm.paired
        rw [← hsnapshot.collectionKey, ← hsnapshot.processedAtMs] at hpaired
        have hms : snapshot.processedAtMs = row.processedAtMs := by
          rw [hsnapshot.processedAtMs]
          simp [Medium.processedAtMs, hfound]
        have hall := hcheck.1.1.1.1.2
        unfold processedState
        cases hkey : snapshot.collectionKey with
        | none =>
          cases hat : snapshot.processedAtMs with
          | none => exact ⟨none, rfl⟩
          | some ms => simp [hkey, hat] at hpaired
        | some key =>
          cases key
          cases hat : snapshot.processedAtMs with
          | none => simp [hkey, hat] at hpaired
          | some ms =>
            rw [← hms, hat] at hall
            have hle : 0 ≤ ms := by simpa using hall
            exact ⟨some ms, if_pos hle⟩
      obtain ⟨processed, hprocessed⟩ := hprocessed
      have hlength : snapshot.tagKeys.length ≤ maxMediaTags := by
        have hfew := hm.few
        rw [← hsnapshot.tagKeys, List.length_map] at hfew
        exact hfew
      have hnodup : snapshot.tagKeys.Nodup := by
        have hkeys := hm.holds.nodup
        rw [← hsnapshot.tagKeys] at hkeys
        exact hkeys.of_map _
      have hgenres : snapshot.genreKeys = [] := by
        rw [hsnapshot.genreKeys, genreKeys_nil hm hcategory]
      refine ⟨⟨snapshot.displayTitle, snapshot.description, definitions, snapshot.contentCategory,
        snapshot.acquisitionSource, snapshot.genreKeys, twice, processed, snapshot.createdAtMs,
        snapshot.updatedAtMs⟩, ?_⟩
      refine require_bind_eq_ok.mpr ⟨by simp [hget], ?_⟩
      refine require_bind_eq_ok.mpr ⟨by simp, require_bind_eq_ok.mpr ⟨rfl, ?_⟩⟩
      refine bind_eq_ok.mpr ⟨snapshot, by rw [hquery, hload]; rfl, ?_⟩
      refine bind_eq_ok.mpr ⟨definitions, hdefinitions, bind_eq_ok.mpr ⟨processed, hprocessed, ?_⟩⟩
      refine require_bind_eq_ok.mpr ⟨?_, bind_eq_ok.mpr ⟨twice, by rw [htwice]; rfl, rfl⟩⟩
      simp [Sidecar.fewTags, Sidecar.fewGenres, orderedStamps, hlength, hnodup, haligned, hgenres,
        hcreated, hupdated, hcheck.1.2, hcheck.2]

/-- The readers after an apply, by what it selected and what it kept. -/
theorem ApplySteps.readable_iff {run : AnalysisRun} {stored : StoredSuggestion} {reviewed : Review}
    {status : SaveStatus} {m₁ m₂ : Medium} {w : Catalog} (hget : Named.get? w mediaId = some m')
    (hm' : m'.Consistent) (hblank : m.Nonblank) (htyped : outside.Typed)
    (hdefined : outside.Defines m.tagKeys)
    (h : ApplySteps lib outside mediaId request run stored reviewed status m m₁ m₂ m') :
    StillReadable lib outside mediaId w ↔
      SelectedPlain lib outside mediaId request ∧ KeptReadable lib request m := by
  have happlied := h.appliedTo hm' hblank
  have hrow := (h.leaves hblank).persisted
  have hcategory : m'.contentCategory ≠ .movie := by
    rw [happlied.contentCategory]
    have hgeneric := require_eq_ok.mp h.generic
    simpa [Medium.contentCategory] using hgeneric
  have hcurrent := loadApplyCanonical_texts hblank
  obtain ⟨htitle, hdescription, -⟩ := review_ok h.chosen
  rw [← (h.leaves hblank).displayTitle, hcurrent.1] at htitle
  rw [← (h.leaves hblank).description, hcurrent.2] at hdescription
  obtain ⟨htitleS, hdescriptionS⟩ := decode_texts h.decoded
  have hselected : SelectedPlain lib outside mediaId request ↔
      (.displayTitle ∈ request.fields → isPlainText stored.title = true) ∧
        (.description ∈ request.fields → isPlainText stored.description = true) := by
    constructor
    · exact fun hall => hall run stored h.eligible h.decoded
    · intro hboth run' stored' hrun' hstored'
      have hsame : run' = run := Except.ok.inj (hrun'.symm.trans h.eligible)
      subst hsame
      have hsame : stored' = stored := Except.ok.inj (hstored'.symm.trans h.decoded)
      subst hsame
      exact hboth
  have htitleIff : (∀ s ∈ m'.displayTitle, isDisplayTitle s = true) ↔
      (.displayTitle ∈ request.fields → isPlainText stored.title = true) ∧
        (.displayTitle ∉ request.fields → ∀ s ∈ m.displayTitle, isDisplayTitle s = true) := by
    rw [htitle]
    by_cases hin : ReviewField.displayTitle ∈ request.fields
    · simp [hin, htitleS]
    · simp [hin]
  have hdescriptionIff : (∀ s ∈ m'.description, isDescription s = true) ↔
      (.description ∈ request.fields → isPlainText stored.description = true) ∧
        (.description ∉ request.fields → ∀ s ∈ m.description, isDescription s = true) := by
    rw [hdescription]
    by_cases hin : ReviewField.description ∈ request.fields
    · simp [hin, hdescriptionS]
    · simp [hin]
  rw [stillReadable_iff hget hm' hrow hcategory htyped (happlied.defines hdefined), hselected]
  constructor
  · rintro ⟨snapshot, twice, hload, htwice⟩
    obtain ⟨htitle', hdescription', htags', -⟩ :=
      (loadMetadataSnapshot_iff hrow).mp ⟨snapshot, hload⟩
    have honce := (loadMetadataSnapshot_of hrow hload).creator
    rw [happlied.creator] at honce
    exact ⟨⟨(htitleIff.mp htitle').1, (hdescriptionIff.mp hdescription').1⟩,
      (htitleIff.mp htitle').2, (hdescriptionIff.mp hdescription').2,
      (h.tags_valid hblank).mp htags', snapshot.creator, twice, honce, htwice⟩
  · rintro ⟨⟨hplain, hplain'⟩, hkept⟩
    obtain ⟨once, twice, honce, htwice⟩ := hkept.creator
    obtain ⟨snapshot, hload⟩ := (loadMetadataSnapshot_iff hrow).mpr
      ⟨htitleIff.mpr ⟨hplain, hkept.title⟩, hdescriptionIff.mpr ⟨hplain', hkept.description⟩,
        (h.tags_valid hblank).mpr hkept.tags, once, by rw [happlied.creator]; exact honce⟩
    have hcreator := (loadMetadataSnapshot_of hrow hload).creator
    rw [happlied.creator, honce] at hcreator
    cases hcreator
    exact ⟨snapshot, twice, hload, htwice⟩

end Applied
section Sample

def registeredHistory (lib : Library) : List (Event lib) := [⟨reviewOutside, .register sampleMediaId⟩]

def titleRequest : ReviewRequest := ⟨"admin@example.org", sampleRun, [.displayTitle], [], 30⟩

/- A result whose title has U+0080 between two letters. -/
def c1Result : String :=
  "\x7b\"title\":\"A\u0080B\",\"description\":\"D\",\"tags\":[\"t\"]\x7d"

def c1Library : Library := { sampleLibrary with
  loads text := if text = c1Result then
      .value (.obj [("title", .str "A\u0080B"), ("description", .str "D"),
        ("tags", .arr [.str "t"])])
    else .notJson }

def c1Outside : Outside :=
  ⟨[], [⟨sampleRun, sampleMediaId, true, c1Result, 5, "provider", "model"⟩]⟩

end Sample
end FrameNest.Metadata
