import FrameNest.Metadata.Companion

/-! An apply that is repeated, and what every apply of every history leaves. -/
namespace FrameNest.Metadata
open Relational
variable {lib : Library} {outside : Outside} {request : ReviewRequest} {mediaId : String}
  {m m₁ m₂ m' : Medium} {status : SaveStatus} {run : AnalysisRun} {stored : StoredSuggestion}
  {reviewed : Review}

section Choosing

/-- The state derived from a derived state is that state again, whatever the clock says. -/
theorem deriveCollectionState_again {key : Option MediaCollectionKey} {processed : Option Int}
    {hasTags : Bool} {nowMs : Int} {state : CollectionState}
    (h : deriveCollectionState key processed hasTags nowMs = .ok state) (later : Int) :
    ∃ again, deriveCollectionState state.collectionKey state.processedAtMs hasTags later =
        .ok again ∧
      again.collectionKey = state.collectionKey ∧ again.processedAtMs = state.processedAtMs := by
  obtain ⟨hkey, hprocessed⟩ := deriveCollectionState_ok h
  cases hasTags with
  | false =>
    have hnone : state.collectionKey = none := hkey
    have hnone' : state.processedAtMs = none := hprocessed
    rw [hnone, hnone']
    exact ⟨⟨none, none, rfl, by simp⟩, rfl, rfl, rfl⟩
  | true =>
    have hsome : state.collectionKey.isSome = true := by
      rw [hkey]
      cases key <;> rfl
    refine ⟨state, ?_, rfl, rfl⟩
    unfold deriveCollectionState
    rw [if_pos (by simp [hsome])]
    exact dif_pos ⟨state.paired, state.nonnegative⟩

theorem preserveAppendTagKeys_again (current submitted : List String) :
    preserveAppendTagKeys (preserveAppendTagKeys current submitted) submitted =
        preserveAppendTagKeys current submitted ∧
      appendedKeys (preserveAppendTagKeys current submitted) submitted = [] := by
  have happended : appendedKeys (preserveAppendTagKeys current submitted) submitted = [] := by
    unfold appendedKeys preserveAppendTagKeys
    rw [List.filter_eq_nil_iff]
    intro key hkey
    by_cases hcurrent : key ∈ current
    · simp [hcurrent]
    · have hadded : key ∈ appendedKeys current submitted := by simp [appendedKeys, hkey, hcurrent]
      simp [hadded]
  refine ⟨?_, happended⟩
  unfold preserveAppendTagKeys at happended ⊢
  rw [happended, List.append_nil]

/- What an apply reads of a medium that holds what a review chose. -/
def Review.canonical (reviewed : Review) : ApplyCanonical :=
  ⟨true, reviewed.displayTitle, reviewed.description, reviewed.tagKeys, reviewed.collectionKey,
    reviewed.processedAtMs⟩

theorem reviewTags_again {current : ApplyCanonical} {kept : Review}
    (h : reviewTags request current kept = .ok reviewed) {title description : Option String}
    (htitle : title = reviewed.displayTitle) (hdescription : description = reviewed.description)
    (later : Int) :
    reviewTags { request with nowMs := later } reviewed.canonical
        ⟨title, description, reviewed.tagKeys, [], reviewed.collectionKey, reviewed.processedAtMs⟩ =
      .ok { reviewed with appended := [] } := by
  obtain ⟨hfew, h⟩ := require_bind_eq_ok.mp h
  obtain ⟨parsed, hparsed, h⟩ := bind_eq_ok.mp h
  obtain ⟨state, hstate, h⟩ := bind_eq_ok.mp h
  cases h
  obtain ⟨hkeys, happended⟩ := preserveAppendTagKeys_again current.tagKeys request.tagKeys
  obtain ⟨again, hagain, hkey, hprocessed⟩ := deriveCollectionState_again hstate later
  unfold reviewTags
  simp only [Review.canonical, hkeys, happended]
  refine require_bind_eq_ok.mpr ⟨hfew, bind_eq_ok.mpr ⟨parsed, hparsed, bind_eq_ok.mpr
    ⟨again, hagain, ?_⟩⟩⟩
  simp only [htitle, hdescription, hkey, hprocessed]
  rfl

/-- The same choice over what was stored is what was stored, with nothing to append. -/
theorem review_again {current : ApplyCanonical} (h : review request current stored = .ok reviewed)
    (later : Int) :
    review { request with nowMs := later } reviewed.canonical stored =
      .ok { reviewed with appended := [] } := by
  obtain ⟨htitle, hdescription, -⟩ := review_ok h
  have htitle' : (if ReviewField.displayTitle ∈ request.fields then some stored.title
      else reviewed.displayTitle) = reviewed.displayTitle := by
    rw [htitle]
    split <;> rfl
  have hdescription' : (if ReviewField.description ∈ request.fields then some stored.description
      else reviewed.description) = reviewed.description := by
    rw [hdescription]
    split <;> rfl
  unfold review at h ⊢
  by_cases htags : ReviewField.tags ∈ request.fields
  · simp only [htags, if_true] at h ⊢
    exact reviewTags_again h htitle' hdescription' later
  · simp only [htags, if_false] at h ⊢
    cases h
    simp only [Review.canonical, htitle', hdescription']

end Choosing

section Receiving

theorem isReceipt_later {runId login : String} {nowMs later : Int}
    (h : isReceipt runId login nowMs = true) (hlater : nowMs ≤ later) :
    isReceipt runId login later = true := by
  simp only [isReceipt, Bool.and_eq_true, decide_eq_true_eq] at h ⊢
  exact ⟨h.1, by omega⟩

theorem upsertFieldSources_receipts {value : ReviewField → FieldValue} {fields : List ReviewField}
    (h : upsertFieldSources lib request value fields m = .ok m') (hne : fields ≠ []) :
    isReceipt request.analysisRunId request.actorLoginKey request.nowMs = true := by
  cases fields with
  | nil => exact absurd rfl hne
  | cons field fields =>
    obtain ⟨middle, hfirst, -⟩ := bind_eq_ok.mp h
    exact (require_bind_eq_ok.mp hfirst).1

/-- Receipts whose values the table takes are all written. -/
theorem upsertFieldSources_returns (value : ReviewField → FieldValue) (fields : List ReviewField)
    (h : fields ≠ [] → isReceipt request.analysisRunId request.actorLoginKey request.nowMs = true) :
    ∃ m', upsertFieldSources lib request value fields m = .ok m' := by
  induction fields generalizing m with
  | nil => exact ⟨m, rfl⟩
  | cons field fields ih =>
    have hreceipt := h (by simp)
    have hone : ∃ middle, upsertFieldSource (fieldSourceRow lib request field (value field)) m =
        .ok middle := by
      unfold upsertFieldSource
      simp only [fieldSourceRow, hreceipt]
      cases m.fieldSources.insert? _ with
      | some table => exact ⟨_, rfl⟩
      | none => exact ⟨_, rfl⟩
    obtain ⟨middle, hmiddle⟩ := hone
    obtain ⟨m', hm'⟩ := ih (m := middle) fun _ => hreceipt
    exact ⟨m', bind_eq_ok.mpr ⟨middle, hmiddle, hm'⟩⟩

end Receiving

section Repeating

theorem ApplySteps.nonblank_reviewed (hblank : m.Nonblank)
    (h : ApplySteps lib outside mediaId request run stored reviewed status m m₁ m₂ m') :
    nonblank reviewed.displayTitle = reviewed.displayTitle ∧
      nonblank reviewed.description = reviewed.description := by
  obtain ⟨htitle, hdescription⟩ := decode_ok h.decoded
  obtain ⟨htitle', hdescription', -⟩ := review_ok h.chosen
  obtain ⟨hcurrent, hcurrent'⟩ := loadApplyCanonical_texts hblank
  rw [htitle', hdescription', hcurrent, hcurrent']
  constructor
  · split
    · exact nonblank_some htitle
    · exact hblank.1
  · split
    · exact nonblank_some hdescription
    · exact hblank.2

theorem ApplySteps.tagsReviewed
    (h : ApplySteps lib outside mediaId request run stored reviewed status m m₁ m₂ m') :
    TagsReviewed request reviewed m.tagKeys m.collectionKey m.processedAtMs := by
  obtain ⟨hcollection, hprocessed, hkeys⟩ := loadApplyCanonical_collection m
  obtain ⟨-, -, htags⟩ := review_ok h.chosen
  rwa [hcollection, hprocessed, hkeys] at htags

theorem ApplySteps.leaves (hblank : m.Nonblank)
    (h : ApplySteps lib outside mediaId request run stored reviewed status m m₁ m₂ m') :
    Stored reviewed m m' := by
  have hwritten := writeReview_stored hblank h.tagsReviewed h.written
  obtain ⟨fieldTable, rfl, -⟩ := upsertFieldSources_ok h.received
  obtain ⟨tagTable, rfl, -⟩ := insertNewTagSources_ok h.sourced
  exact hwritten.receipts rfl

theorem ApplySteps.nonblank (hblank : m.Nonblank)
    (h : ApplySteps lib outside mediaId request run stored reviewed status m m₁ m₂ m') :
    m'.Nonblank := by
  have hstored := h.leaves hblank
  obtain ⟨htitle, hdescription⟩ := h.nonblank_reviewed hblank
  exact ⟨by rw [hstored.displayTitle, htitle], by rw [hstored.description, hdescription]⟩

theorem Stored.canonical (h : Stored reviewed m m') (hblank : m'.Nonblank) :
    loadApplyCanonical m' = reviewed.canonical := by
  obtain ⟨htitle, hdescription⟩ := loadApplyCanonical_texts hblank
  obtain ⟨hcollection, hprocessed, hkeys⟩ := loadApplyCanonical_collection m'
  have hpersisted : (loadApplyCanonical m').persisted = true := by
    obtain ⟨row, hrow⟩ := Option.isSome_iff_exists.mp h.persisted
    simp [loadApplyCanonical, hrow]
  cases hread : loadApplyCanonical m' with
  | mk persisted title description tagKeys collectionKey processedAtMs =>
    rw [hread] at htitle hdescription hcollection hprocessed hkeys hpersisted
    simp only at htitle hdescription hcollection hprocessed hkeys hpersisted
    rw [htitle, hdescription, hcollection, hprocessed, hkeys, hpersisted, h.displayTitle,
      h.description, h.tagKeys, h.collectionKey, h.processedAtMs]
    rfl

/-- A second apply like the first, at its time or later, writes receipts and nothing else. -/
theorem ApplySteps.again (hblank : m.Nonblank)
    (h : ApplySteps lib outside mediaId request run stored reviewed status m m₁ m₂ m') {later : Int}
    (hlater : request.nowMs ≤ later) :
    ∃ fieldSources, applyOperation lib outside mediaId { request with nowMs := later } m' =
      .ok (.unchanged, { m' with fieldSources := fieldSources }) := by
  have hstored := h.leaves hblank
  have hcanonical := hstored.canonical (h.nonblank hblank)
  obtain ⟨row, hrow⟩ := Option.isSome_iff_exists.mp hstored.persisted
  have hreceipt (hne : request.fields ≠ []) :
      isReceipt request.analysisRunId request.actorLoginKey later = true :=
    isReceipt_later (upsertFieldSources_receipts h.received hne) hlater
  have hreceipts : ∃ m₂', upsertFieldSources lib { request with nowMs := later }
      ({ reviewed with appended := [] } : Review).value request.fields m' = .ok m₂' :=
    upsertFieldSources_returns _ request.fields hreceipt
  obtain ⟨m₂', hreceived⟩ := hreceipts
  obtain ⟨table, htable, -⟩ := upsertFieldSources_ok hreceived
  have hgeneric : requireNonMovie m' = .ok () := by
    have hcategory := hstored.contentCategory
    unfold Medium.contentCategory at hcategory
    have hfirst := h.generic
    unfold requireNonMovie at hfirst ⊢
    rw [hcategory]
    exact hfirst
  have hwritten : writeReview outside { request with nowMs := later } (loadApplyCanonical m')
      { reviewed with appended := [] } m' = .ok (.unchanged, m') := by
    unfold writeReview
    simp only [hrow, hcanonical]
    rw [if_neg]
    simp [Review.changes, Review.canonical]
  have hchosen : review { request with nowMs := later } (loadApplyCanonical m') stored =
      .ok { reviewed with appended := [] } := by
    rw [hcanonical]
    exact review_again h.chosen later
  have hsourced : insertNewTagSources outside { request with nowMs := later } [] m₂' =
      .ok { m' with fieldSources := table } := by
    rw [htable]
    rfl
  have hsteps : ApplySteps lib outside mediaId { request with nowMs := later } run stored
      { reviewed with appended := [] } .unchanged m' m' m₂' { m' with fieldSources := table } :=
    ⟨hgeneric, h.eligible, h.decoded, h.mapped, hchosen, hwritten, hreceived, hsourced⟩
  exact ⟨table, hsteps.apply⟩

end Repeating

section Histories

/-- Every medium of the catalog has texts that are not blank. -/
def AllNonblank (w : Catalog) : Prop := ∀ name m, Named.get? w name = some m → m.Nonblank

theorem allNonblank_set {w : Catalog} {name : String} (h : AllNonblank w) (hm' : m'.Nonblank) :
    AllNonblank (Named.set w name m') := by
  intro other found hfound
  rw [Named.get?_set] at hfound
  split at hfound
  · obtain ⟨old, -, rfl⟩ := Option.map_eq_some_iff.mp hfound
    exact hm'
  · exact h other found hfound

theorem allNonblank_put {w w' : Catalog} {name : String} (h : AllNonblank w)
    (hput : Named.put? w name .new = some w') : AllNonblank w' := by
  intro other found hfound
  rw [(Named.put?_some hput).2 other] at hfound
  split at hfound
  · cases hfound
    exact ⟨rfl, rfl⟩
  · exact h other found hfound

theorem Saved.nonblank {save : SaveRequest} (h : Saved lib save m m') : m'.Nonblank := by
  obtain ⟨current, resolved, derived, createdAtMs, -, -, -, hrow, -⟩ := h.row
  exact nonblank_of_typed hrow rfl rfl

theorem Committed.nonblank {metadata : MediaMetadata lib} (h : Committed metadata m') :
    m'.Nonblank := by
  obtain ⟨collection, -, hrow, -⟩ := h.row
  exact nonblank_of_typed hrow rfl rfl

/-- No event stores a blank text. -/
theorem Event.allNonblank (event : Event lib) {w w' : Catalog} (h : AllNonblank w)
    (hdone : event.operation w = .ok ((), w')) : AllNonblank w' := by
  obtain ⟨outside, call⟩ := event
  cases call with
  | register name =>
    simp only [Event.operation] at hdone
    cases hput : Named.put? w name .new with
    | none => simp [hput] at hdone
    | some w₁ =>
      rw [hput] at hdone
      cases hdone
      exact allNonblank_put h hput
  | save name save =>
    obtain ⟨⟨status, w₁⟩, hsaved, hpair⟩ := map_eq_ok.mp hdone
    cases hpair
    obtain ⟨m, m', hget, rfl, rfl | hmoved⟩ := saveMediaMetadata_ok hsaved
    · exact allNonblank_set h (h name m' hget)
    · exact allNonblank_set h hmoved.nonblank
  | apply name request =>
    obtain ⟨⟨status, w₁⟩, happlied, hpair⟩ := map_eq_ok.mp hdone
    cases hpair
    unfold applyReview at happlied
    cases hget : Named.get? w name with
    | none => simp [hget] at happlied
    | some m =>
      simp only [hget] at happlied
      obtain ⟨⟨found, m'⟩, happly, hpair⟩ := bind_eq_ok.mp happlied
      cases hpair
      obtain ⟨run, stored, reviewed, m₁, m₂, hsteps⟩ := applyOperation_steps happly
      exact allNonblank_set h (hsteps.nonblank (h name m hget))
  | commit name accepted metadata =>
    obtain ⟨w₁, hcommitted, hpair⟩ := map_eq_ok.mp hdone
    cases hpair
    obtain ⟨w₂, hput, ⟨-, rfl⟩ | ⟨found, m', -, rfl, hmoved⟩⟩ :=
      commitCatalogedPublication_ok hcommitted
    · exact allNonblank_put h hput
    · exact allNonblank_set (allNonblank_put h hput) hmoved.nonblank

theorem allNonblank_after (history : List (Event lib)) : AllNonblank (after history) := by
  induction history with
  | nil =>
    intro name m hm
    simp [after] at hm
  | cons event past ih =>
    obtain hsame | ⟨⟨⟩, hdone⟩ := transaction_cases (after past) event.operation
    · simpa only [after, Event.step, hsame] using ih
    · exact event.allNonblank ih hdone

end Histories

section Companions
variable {s s' : Companion} {result : CompanionReviewApplyResult}

/-- The medium a successful apply leaves, against the one it found. -/
structure AppliedTo (lib : Library) (outside : Outside) (mediaId : String)
    (request : ReviewRequest) (m m' : Medium) : Prop where
  texts : ∃ run stored, run ∈ outside.runs ∧ run.id = request.analysisRunId ∧
    run.mediaId = mediaId ∧ decodeStoredSuggestionResult lib run.resultJson = .ok stored ∧
    m'.displayTitle =
      (if .displayTitle ∈ request.fields then some stored.title else m.displayTitle) ∧
    m'.description =
      (if .description ∈ request.fields then some stored.description else m.description) ∧
    (.tags ∈ request.fields → request.tagKeys.Sublist
      (eligibleMappedTagKeys lib outside.canonicalTags stored.tags []))
  tags : m'.tagKeys = if .tags ∈ request.fields
    then m.tagKeys ++ request.tagKeys.filter fun key => !m.tagKeys.contains key else m.tagKeys
  nodup : m'.tagKeys.Nodup
  few : m'.tagKeys.length ≤ 32
  collection : m'.collectionKey.isSome = true ↔ m'.tagKeys ≠ []
  contentCategory : m'.contentCategory = m.contentCategory
  acquisitionSource : m'.acquisitionSource = m.acquisitionSource
  creator : m'.creator = m.creator
  genres : m'.genres = m.genres

/-- The whole state a successful apply leaves, and what the same apply does there. -/
structure AppliesExactly (lib : Library) (outside : Outside) (mediaId : String)
    (request : ReviewRequest) (s s' : Companion) : Prop where
  medium : AppliedTo lib outside mediaId request (s.medium mediaId) (s'.medium mediaId)
  others : ∀ other, other ≠ mediaId → Named.get? s'.catalog other = Named.get? s.catalog other
  publications : s'.publications = s.publications
  records : s'.records = bumpBoundRecordVersion mediaId s.records
  again : ∀ later, request.nowMs ≤ later → ∃ result s'',
    applyCompanionReview lib outside mediaId { request with nowMs := later } s' =
      .ok (result, s'') ∧
    result.metadataStatus = .unchanged ∧
    (s''.medium mediaId).metadata = (s'.medium mediaId).metadata ∧
    (s''.medium mediaId).tags = (s'.medium mediaId).tags ∧
    (s''.medium mediaId).genres = (s'.medium mediaId).genres ∧
    (s''.medium mediaId).tagSources = (s'.medium mediaId).tagSources

theorem requireEligibleRun_ok {runId : String}
    (h : requireEligibleRun outside mediaId runId = .ok run) :
    run ∈ outside.runs ∧ run.id = runId ∧ run.mediaId = mediaId := by
  unfold requireEligibleRun at h
  cases hfind : outside.runs.find? fun run => run.id = runId with
  | none => simp [hfind] at h
  | some found =>
    simp only [hfind] at h
    by_cases heligible : found.mediaId = mediaId ∧ found.successfulGeneric = true
    · rw [if_pos heligible] at h
      cases h
      exact ⟨List.mem_of_find?_eq_some hfind, by simpa using List.find?_some hfind, heligible.1⟩
    · rw [if_neg heligible] at h
      cases h

theorem ApplySteps.appliedTo (hm' : m'.Consistent) (hblank : m.Nonblank)
    (h : ApplySteps lib outside mediaId request run stored reviewed status m m₁ m₂ m') :
    AppliedTo lib outside mediaId request m m' := by
  have hstored := h.leaves hblank
  obtain ⟨htitle, hdescription, -⟩ := review_ok h.chosen
  obtain ⟨hcurrent, hcurrent'⟩ := loadApplyCanonical_texts hblank
  obtain ⟨hrun, hid, hmedia⟩ := requireEligibleRun_ok h.eligible
  refine ⟨⟨run, stored, hrun, hid, hmedia, h.decoded, ?_, ?_, fun hselected => ?_⟩, ?_,
    hm'.holds.nodup, hm'.few, hm'.collected, hstored.contentCategory, hstored.acquisitionSource,
    hstored.creator, hstored.genres⟩
  · rw [hstored.displayTitle, htitle, hcurrent]
  · rw [hstored.description, hdescription, hcurrent']
  · have hmapped := h.mapped
    simpa [hselected] using hmapped
  · rw [hstored.tagKeys]
    obtain ⟨hselected, hkeys, -⟩ | ⟨hkeys, happended, -⟩ := h.tagsReviewed
    · rw [if_pos hselected, hkeys]
      rfl
    · by_cases hselected : ReviewField.tags ∈ request.fields
      · have hnew : reviewed.appended = appendedKeys m.tagKeys request.tagKeys ∧
            reviewed.tagKeys = preserveAppendTagKeys m.tagKeys request.tagKeys := by
          have hchosen := h.chosen
          unfold review at hchosen
          simp only [hselected, if_true] at hchosen
          obtain ⟨-, -, hkeys', happended', -⟩ := reviewTags_ok hchosen
          rw [(loadApplyCanonical_collection m).2.2] at hkeys' happended'
          exact ⟨happended', hkeys'⟩
        rw [if_pos hselected, hnew.2]
        rfl
      · rw [if_neg hselected, hkeys]

theorem medium_of_get {m : Medium} (h : Named.get? s.catalog mediaId = some m) :
    s.medium mediaId = m := by
  simp [Companion.medium, h]

/-- An apply on a registered medium, by what its operation returns. -/
theorem applyCompanionReview_iff (h : Named.get? s.catalog mediaId = some m) :
    applyCompanionReview lib outside mediaId request s = .ok (result, s') ↔
      ∃ status m', applyOperation lib outside mediaId request m = .ok (status, m') ∧
        s' = ⟨Named.set s.catalog mediaId m', s.publications,
          bumpBoundRecordVersion mediaId s.records⟩ ∧
        result = applyResult lib outside status (s'.medium mediaId)
          (Named.get? s.publications mediaId) := by
  unfold applyCompanionReview applyReview
  simp only [h]
  cases hdone : applyOperation lib outside mediaId request m with
  | error x =>
    constructor
    · intro herror
      cases herror
    · rintro ⟨status, m', hok, -⟩
      cases hok
  | ok applied =>
    constructor
    · intro hok
      cases hok
      exact ⟨applied.1, applied.2, rfl, rfl, rfl⟩
    · rintro ⟨status, m', hok, rfl, rfl⟩
      cases hok
      rfl

theorem applyCompanionReview_registered
    (h : applyCompanionReview lib outside mediaId request s = .ok (result, s')) :
    ∃ m, Named.get? s.catalog mediaId = some m := by
  cases hget : Named.get? s.catalog mediaId with
  | some m => exact ⟨m, rfl⟩
  | none =>
    unfold applyCompanionReview applyReview at h
    simp only [hget] at h
    cases h

/-- After an apply that returned, one like it changes no metadata, no tag and no tag source. -/
theorem ApplySteps.againIn (hblank : m.Nonblank) (hget : Named.get? s'.catalog mediaId = some m')
    (h : ApplySteps lib outside mediaId request run stored reviewed status m m₁ m₂ m') {later : Int}
    (hlater : request.nowMs ≤ later) :
    ∃ result s'', applyCompanionReview lib outside mediaId { request with nowMs := later } s' =
        .ok (result, s'') ∧
      result.metadataStatus = .unchanged ∧
      (s''.medium mediaId).metadata = (s'.medium mediaId).metadata ∧
      (s''.medium mediaId).tags = (s'.medium mediaId).tags ∧
      (s''.medium mediaId).genres = (s'.medium mediaId).genres ∧
      (s''.medium mediaId).tagSources = (s'.medium mediaId).tagSources := by
  obtain ⟨fieldSources, hagain⟩ := h.again hblank hlater
  have hmedium : (⟨Named.set s'.catalog mediaId { m' with fieldSources := fieldSources },
      s'.publications, bumpBoundRecordVersion mediaId s'.records⟩ : Companion).medium mediaId =
      { m' with fieldSources := fieldSources } := by
    simp [Companion.medium, Named.get?_set, hget]
  refine ⟨_, _, (applyCompanionReview_iff hget).mpr ⟨_, _, hagain, rfl, rfl⟩, rfl, ?_⟩
  rw [hmedium, medium_of_get hget]
  exact ⟨rfl, rfl, rfl, rfl⟩

/-- In every history a successful apply sets the selected fields as the suggestion has them and
appends the selected tags, keeps all the rest and publishes nothing; the same apply again finds
nothing to change, and a refused one leaves every row. -/
theorem apply_sets_exactly_the_selection (history : List (Event lib))
    (publications : Named ContentPublication) (records : List BoundRecord) (outside : Outside)
    (mediaId : String) (request : ReviewRequest) :
    (∀ result s', applyCompanionReview lib outside mediaId request
        ⟨after history, publications, records⟩ = .ok (result, s') →
      AppliesExactly lib outside mediaId request ⟨after history, publications, records⟩ s') ∧
    ∀ x, (transaction (⟨after history, publications, records⟩ : Companion)
        (applyCompanionReview lib outside mediaId request)).1 = .error x →
      (transaction (⟨after history, publications, records⟩ : Companion)
        (applyCompanionReview lib outside mediaId request)).2 =
        ⟨after history, publications, records⟩ := by
  refine ⟨fun result s' h => ?_, fun x hx => transaction_error hx⟩
  obtain ⟨m, hget⟩ := applyCompanionReview_registered h
  obtain ⟨status, m', happly, rfl, -⟩ := (applyCompanionReview_iff hget).mp h
  have hafter : mediumAfter history mediaId = m := by simp [mediumAfter, hget]
  have hm : m.Consistent := hafter ▸ mediumAfter_consistent history mediaId
  have hblank : m.Nonblank := allNonblank_after history mediaId m hget
  have hm' : m'.Consistent := by
    obtain ⟨reviewed, happlied⟩ := applyOperation_ok hm happly
    have hmoved : Moved (⟨outside, .apply mediaId request⟩ : Event lib) mediaId m m' :=
      .applied request reviewed rfl happlied
    exact hmoved.consistent hm
  have hset (other : String) : Named.get? (Named.set (after history) mediaId m') other =
      if mediaId = other then (Named.get? (after history) other).map fun _ => m'
      else Named.get? (after history) other := Named.get?_set _ _ _ _
  have hget' : Named.get? (Named.set (after history) mediaId m') mediaId = some m' := by
    rw [hset, if_pos rfl, hget]
    rfl
  obtain ⟨run, stored, reviewed, m₁, m₂, hsteps⟩ := applyOperation_steps happly
  refine ⟨?_, fun other hother => ?_, rfl, rfl, fun later hlater => ?_⟩
  · rw [medium_of_get hget, medium_of_get hget']
    exact hsteps.appliedTo hm' hblank
  · change Named.get? (Named.set (after history) mediaId m') other = _
    rw [hset, if_neg (Ne.symm hother)]
  · exact hsteps.againIn hblank hget' hlater

end Companions
end FrameNest.Metadata
