import FrameNest.Metadata.Saving

/-! `apply_review`: selected fields of one analysis result go into the metadata, with a
receipt for each field and for each tag they add. -/
namespace FrameNest.Metadata
open Plain Relational

section Suggestions
variable (lib : Library)

structure StoredSuggestion where
  title : String
  description : String
  tags : List String
deriving DecidableEq

/- `_validate_stored_text`. -/
def validateStoredText (maximum : Nat) : Parsed → Except Failure String
  | .str s => do
    require (1 ≤ s.toList.length && s.toList.length ≤ maximum) .storedResult
    require (strip s = s) .storedResult
    require (!s.toList.any fun c => c.toNat ≤ 31 || c.toNat = 127) .storedResult
    return s
  | _ => .error .storedResult

/- The loop of `_validate_stored_tags`, with the case-folded texts seen so far. -/
def validateTagItems : List Parsed → List String → Except Failure (List String)
  | [], _ => .ok []
  | item :: items, seen => do
    let text ← validateStoredText 40 item
    require (!seen.contains (lib.casefold text)) .storedResult
    let rest ← validateTagItems items (lib.casefold text :: seen)
    return text :: rest

/- `_validate_stored_tags`. -/
def validateStoredTags : Parsed → Except Failure (List String)
  | .arr items => do
    require (1 ≤ items.length && items.length ≤ 12) .storedResult
    validateTagItems lib items []
  | _ => .error .storedResult

/- `decode_stored_suggestion_result`, as far as an apply reads it. -/
def decodeStoredSuggestionResult (resultJson : String) : Except Failure StoredSuggestion := do
  require (resultJson ≠ "") .storedResult
  match lib.loads resultJson with
  | .value (.obj payload) => do
    let title ← validateStoredText 120 ((payload.lookup "title").getD .null)
    let description ← validateStoredText 600 ((payload.lookup "description").getD .null)
    let tags ← validateStoredTags lib ((payload.lookup "tags").getD .null)
    return ⟨title, description, tags⟩
  | _ => .error .storedResult

/- The one canonical tag a suggested text names, by its display name first. -/
def matchCanonicalTag (catalog : List CanonicalTagView) (raw : String) : Option CanonicalTagView :=
  let folded := lib.casefold (strip raw)
  match catalog.filter fun tag => lib.casefold tag.displayName = folded with
  | [tag] => some tag
  | _ :: _ :: _ => none
  | [] =>
    match catalog.filter fun tag => lib.casefold tag.key = folded with
    | [tag] => some tag
    | _ => none

/- `TAG_MAX_COUNT`. -/
def tagMaxCount : Nat := 5

/- The keys of `map_suggested_tags` with status MAPPED, in the order of the suggestion: a key
   once, and no more than `TAG_MAX_COUNT`. -/
def eligibleMappedTagKeys (catalog : List CanonicalTagView) :
    List String → List String → List String
  | [], _ => []
  | raw :: rest, mapped =>
    match matchCanonicalTag lib catalog raw with
    | none => eligibleMappedTagKeys catalog rest mapped
    | some tag =>
      if mapped.contains tag.key then eligibleMappedTagKeys catalog rest mapped
      else if tagMaxCount ≤ mapped.length then
        eligibleMappedTagKeys catalog rest (tag.key :: mapped)
      else tag.key :: eligibleMappedTagKeys catalog rest (tag.key :: mapped)

end Suggestions

structure ReviewRequest where
  actorLoginKey : String
  analysisRunId : String
  fields : List ReviewField
  tagKeys : List String
  nowMs : Int
deriving DecidableEq

section Canonical

/-- What an apply reads of the stored metadata. -/
structure ApplyCanonical where
  persisted : Bool
  displayTitle : Option String
  description : Option String
  tagKeys : List String
  collectionKey : Option MediaCollectionKey
  processedAtMs : Option Int

/- A stored text that is only white space counts as none. -/
def nonblank (text : Option String) : Option String := text.filter fun s => !isBlank s

/- `_load_apply_canonical`. -/
def loadApplyCanonical (m : Medium) : ApplyCanonical :=
  match m.metadata with
  | none => ⟨false, none, none, m.tagKeys, none, none⟩
  | some row => ⟨true, nonblank row.displayTitle, nonblank row.description, m.tagKeys,
      row.collectionKey, row.processedAtMs⟩

/- The submitted keys that are not assigned yet. -/
def appendedKeys (current submitted : List String) : List String :=
  submitted.filter fun key => !current.contains key

/- `_preserve_append_tag_keys`. -/
def preserveAppendTagKeys (current submitted : List String) : List String :=
  current ++ appendedKeys current submitted

end Canonical

section Receipts
variable (lib : Library)

/- `ON CONFLICT DO UPDATE` of the receipt of one field. -/
def overwriteFieldSource (row : FieldSourceRow) (t : Table FieldSourceRow.fieldName) :
    Table FieldSourceRow.fieldName :=
  t.updateAll (fun old => if old.fieldName = row.fieldName then row else old) fun old => by
    by_cases h : old.fieldName = row.fieldName <;> simp [h]

/- `_upsert_field_source`. -/
def upsertFieldSource (row : FieldSourceRow) (m : Medium) : Except Failure Medium := do
  require (isReceipt row.analysisRunId row.appliedByLoginKey row.appliedAtMs) .repositoryFailure
  match m.fieldSources.insert? row with
  | some fieldSources => return { m with fieldSources := fieldSources }
  | none => return { m with fieldSources := overwriteFieldSource row m.fieldSources }

def fieldSourceRow (request : ReviewRequest) (field : ReviewField) (value : FieldValue) :
    FieldSourceRow :=
  ⟨field, request.analysisRunId, request.actorLoginKey, request.nowMs,
    canonicalFieldDigest lib value⟩

def upsertFieldSources (request : ReviewRequest) (value : ReviewField → FieldValue) :
    List ReviewField → Medium → Except Failure Medium
  | [], m => .ok m
  | field :: fields, m => do
    let m' ← upsertFieldSource (fieldSourceRow lib request field (value field)) m
    upsertFieldSources request value fields m'

def tagSourceRow (request : ReviewRequest) (key : String) : TagSourceRow :=
  ⟨key, request.analysisRunId, request.actorLoginKey, request.nowMs⟩

/- One INSERT of `_insert_new_tag_sources`; a row that is there stays. -/
def insertTagSource (outside : Outside) (row : TagSourceRow) (m : Medium) :
    Except Failure Medium := do
  require (m.metadata.isSome && lengthWithin 1 64 row.tagKey &&
    (outside.canonicalTags.map CanonicalTagView.key).contains row.tagKey &&
    isReceipt row.analysisRunId row.appliedByLoginKey row.appliedAtMs) .repositoryFailure
  match m.tagSources.insert? row with
  | some tagSources => return { m with tagSources := tagSources }
  | none => return m

/- `_insert_new_tag_sources`. -/
def insertNewTagSources (outside : Outside) (request : ReviewRequest) :
    List String → Medium → Except Failure Medium
  | [], m => .ok m
  | key :: keys, m => do
    let m' ← insertTagSource outside (tagSourceRow request key) m
    insertNewTagSources outside request keys m'

end Receipts

section Shown
variable (lib : Library) (outside : Outside)

/-- A receipt as it is shown. -/
structure CompanionReviewFieldSource where
  analysisRunId : String
  completedAtMs : Int
  providerId : String
  modelId : String
  appliedAtMs : Int
deriving DecidableEq

/- The join with `media_analysis_runs`. -/
def shownSource (analysisRunId : String) (appliedAtMs : Int) : Option CompanionReviewFieldSource :=
  (outside.runs.find? fun run => run.id = analysisRunId).map fun run =>
    ⟨run.id, run.completedAtMs, run.providerId, run.modelId, appliedAtMs⟩

/- `_load_field_sources`: only receipts whose digest is that of the current value. -/
def loadFieldSource (m : Medium) (field : ReviewField) : Option CompanionReviewFieldSource :=
  let current := loadApplyCanonical m
  (m.fieldSources.find? field).bind fun row =>
    if currentDigest lib current.displayTitle current.description current.tagKeys field =
        some row.valueDigest then
      shownSource outside row.analysisRunId row.appliedAtMs
    else none

/- `_load_tag_sources`. -/
def loadTagSource (m : Medium) (key : String) : Option CompanionReviewFieldSource :=
  if m.tagKeys.contains key then
    (m.tagSources.find? key).bind fun row => shownSource outside row.analysisRunId row.appliedAtMs
  else none

end Shown

section Apply
variable (lib : Library) (outside : Outside)

/- `_require_non_movie_media`, of a medium that exists. -/
def requireNonMovie (m : Medium) : Except Failure Unit :=
  require (((m.metadata.map MetadataRow.contentCategory).getD defaultContentCategory) ≠ .movie)
    .movieExcluded

/- `_require_eligible_run`; the category predicate was checked just before. -/
def requireEligibleRun (mediaId analysisRunId : String) : Except Failure AnalysisRun :=
  match outside.runs.find? fun run => run.id = analysisRunId with
  | none => .error .runNotFound
  | some run =>
    if run.mediaId = mediaId ∧ run.successfulGeneric = true then .ok run
    else .error .runNotEligible

/-- The values an apply is going to store. -/
structure Review where
  displayTitle : Option String
  description : Option String
  tagKeys : List String
  appended : List String
  collectionKey : Option MediaCollectionKey
  processedAtMs : Option Int

def Review.value (review : Review) : ReviewField → FieldValue
  | .displayTitle => .text review.displayTitle
  | .description => .text review.description
  | .tags => .tags review.tagKeys

/- The tags an apply that selects them leaves, and the collection state derived from them. -/
def reviewTags (request : ReviewRequest) (current : ApplyCanonical) (review : Review) :
    Except Failure Review := do
  let tagKeys := preserveAppendTagKeys current.tagKeys request.tagKeys
  require (tagKeys.length ≤ maxMediaTags) .tagLimitConflict
  let _ ← tagKeys.mapM CanonicalTagKey.parse
  let derived ← deriveCollectionState current.collectionKey current.processedAtMs (tagKeys ≠ [])
    request.nowMs
  return { review with
    tagKeys := tagKeys
    appended := appendedKeys current.tagKeys request.tagKeys
    collectionKey := derived.collectionKey
    processedAtMs := derived.processedAtMs }

/- The selected values over the current ones. -/
def review (request : ReviewRequest) (current : ApplyCanonical) (stored : StoredSuggestion) :
    Except Failure Review :=
  let kept : Review :=
    ⟨if .displayTitle ∈ request.fields then some stored.title else current.displayTitle,
      if .description ∈ request.fields then some stored.description else current.description,
      current.tagKeys, [], current.collectionKey, current.processedAtMs⟩
  if .tags ∈ request.fields then reviewTags request current kept else .ok kept

def Review.changes (review : Review) (current : ApplyCanonical) : Bool :=
  !(review.displayTitle = current.displayTitle && review.description = current.description &&
    review.tagKeys = current.tagKeys && review.collectionKey = current.collectionKey &&
    review.processedAtMs = current.processedAtMs)

/- `_replace_tag_assignments`. -/
def replaceTagAssignments (keys : List String) (m : Medium) : Except Failure Medium :=
  insertAssignments outside keys 0 (deleteAssignments m)

/- The row an apply inserts for a medium that has none. -/
def appliedRow (review : Review) (nowMs : Int) : MetadataRow :=
  ⟨review.displayTitle, review.description, defaultContentCategory, defaultAcquisitionSource,
    .absent, review.collectionKey, review.processedAtMs, nowMs, nowMs⟩

/- The columns an apply sets in a row that is there. -/
def updatedRow (review : Review) (nowMs : Int) (row : MetadataRow) : MetadataRow :=
  { row with
    displayTitle := review.displayTitle
    description := review.description
    collectionKey := review.collectionKey
    processedAtMs := review.processedAtMs
    updatedAtMs := nowMs }

/- The metadata and tag statements of an apply, with the status it reports. -/
def writeReview (request : ReviewRequest) (current : ApplyCanonical) (review : Review)
    (m : Medium) : Except Failure (SaveStatus × Medium) :=
  match m.metadata with
  | none => do
    let stored ← insertMetadata (appliedRow review request.nowMs) m
    let tagged ← replaceTagAssignments outside review.tagKeys stored
    return (.created, tagged)
  | some row =>
    if review.changes current then do
      let stored ← updateMetadata (updatedRow review request.nowMs row) m
      if .tags ∈ request.fields then do
        let tagged ← replaceTagAssignments outside review.tagKeys stored
        return (.updated, tagged)
      else return (.updated, stored)
    else .ok (.unchanged, m)

/- The operation of an apply, on a medium that exists. -/
def applyOperation (mediaId : String) (request : ReviewRequest) (m : Medium) :
    Except Failure (SaveStatus × Medium) := do
  requireNonMovie m
  let run ← requireEligibleRun outside mediaId request.analysisRunId
  let stored ← decodeStoredSuggestionResult lib run.resultJson
  require (.tags ∉ request.fields ||
    request.tagKeys.isSublist (eligibleMappedTagKeys lib outside.canonicalTags stored.tags []))
    .staleMapping
  let current := loadApplyCanonical m
  let reviewed ← review request current stored
  let written ← writeReview outside request current reviewed m
  let received ← upsertFieldSources lib request reviewed.value request.fields written.2
  let sourced ← insertNewTagSources outside request reviewed.appended received
  return (written.1, sourced)

/- `apply_review`. -/
def applyReview (mediaId : String) (request : ReviewRequest) (w : Catalog) :
    Except Failure (SaveStatus × Catalog) :=
  match Named.get? w mediaId with
  | none => .error .mediaNotFound
  | some m => do
    let applied ← applyOperation lib outside mediaId request m
    return (applied.1, Named.set w mediaId applied.2)

end Apply
end FrameNest.Metadata
