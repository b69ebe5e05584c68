import FrameNest.Analysis.Runs
import FrameNest.Gallery.Listing
import FrameNest.Metadata.Reapplying

/-! The administrator's queue: the listing of `list_admin_media` under its filters, what is
displayed of every medium, and `publish`. -/
namespace FrameNest.Metadata
open Plain Relational
open Analysis (MediaAnalysisRunState automaticPostCatalogAnalysisDefinition)

section Rows

structure LogicalMedia where
  id : String
  mediaKind : Uploads.MediaKind
  createdAtMs : Nat
  updatedAtMs : Nat
deriving DecidableEq

structure AnalysisRunState where
  id : String
  mediaId : String
  analysisDefinition : String
  state : MediaAnalysisRunState
  createdAtMs : Nat
deriving DecidableEq

/-- A row of a medium that belongs to a row with a contributor. -/
structure Contribution where
  parent : String
  mediaId : Option String
deriving DecidableEq

structure Contributor where
  id : String
  createdByLoginKey : Option String
deriving DecidableEq

/-- A catalog as its operations leave it: the calls that wrote metadata, the newest first, and the
other tables that the queue reads. -/
structure AdminCatalog (lib : Library) where
  history : List (Event lib)
  media : Table LogicalMedia.id
  canonicalTags : Table CanonicalTagView.key
  publications : Named ContentPublication
  runs : Table AnalysisRunState.id
  uploadPublications : List Contribution
  uploadSessions : Table Contributor.id
  youtubeClaims : List (Option String × Contributor)
  xAssets : List Contribution
  xPostClaims : Table Contributor.id
  locations : List (String × Gallery.CatalogMediaLocation)
  records : List BoundRecord
  /- The foreign key of `media_canonical_tags`. -/
  tags_canonical : ∀ id, ∀ tag ∈ (mediumAfter history id).tags.rows,
    tag.tagKey ∈ canonicalTags.rows.map CanonicalTagView.key

end Rows

section Queries

inductive PublicationFilter where
  | all | published | unpublished
deriving DecidableEq

inductive ReadinessFilter where
  | all | ready | incomplete
deriving DecidableEq

inductive AnalysisFilter where
  | all | notRequested
  | state (s : MediaAnalysisRunState)
deriving DecidableEq

/-- A query that `ListAdminMedia` has normalized. -/
structure AdminMediaQuery where
  q : Option Gallery.TitleQuery
  tagKeys : List CanonicalTagKey
  publication : PublicationFilter
  readiness : ReadinessFilter
  analysis : AnalysisFilter
  limit : Nat
  offset : Nat
  contributor : Option String
  tags_distinct : tagKeys.Nodup
  limit_pos : 0 < limit
  contributor_named : ∀ login ∈ contributor, login ≠ ""

namespace AdminMediaQuery

def atOffset (q : AdminMediaQuery) (offset : Nat) : AdminMediaQuery := { q with offset := offset }

/-- The query without its filters. -/
def unfiltered (q : AdminMediaQuery) : AdminMediaQuery :=
  { q with
    q := none
    tagKeys := []
    publication := .all
    readiness := .all
    analysis := .all
    contributor := none
    tags_distinct := List.nodup_nil
    contributor_named := by simp }

end AdminMediaQuery
end Queries

variable {lib : Library} (s : AdminCatalog lib)

namespace AdminCatalog

section Filtering

def medium (id : String) : Medium := mediumAfter s.history id

/- `func.trim(func.coalesce(column, "")) != ""`. -/
def columnReady (text : Option String) : Bool := sqlTrim (text.getD "").toList ≠ []

def readyClause (id : String) : Bool :=
  columnReady (s.medium id).displayTitle && columnReady (s.medium id).description &&
    !(s.medium id).tags.rows.isEmpty

/- `ORDER BY created_at_ms DESC, id DESC`. -/
def recency (run : AnalysisRunState) : Natᵒᵈ ×ₗ Stringᵒᵈ :=
  toLex (OrderDual.toDual run.createdAtMs, OrderDual.toDual run.id)

def automaticRuns : List AnalysisRunState :=
  s.runs.rows.filter fun run => run.analysisDefinition = automaticPostCatalogAnalysisDefinition

/- The correlated subquery with its `LIMIT 1`. -/
def latestAnalysisState (id : String) : Option MediaAnalysisRunState :=
  (listing recency (s.automaticRuns.filter fun run => run.mediaId = id)).head?.map
    AnalysisRunState.state

/- The stamps of one join: the medium and the login key of the row that leads to it. -/
def joinedStamps (rows : List Contribution) (parents : Table Contributor.id) :
    List (Option String × Option String) :=
  rows.filterMap fun row => (parents.find? row.parent).map fun parent =>
    (row.mediaId, parent.createdByLoginKey)

/-- The sources of contributions in `CONTRIBUTION_SOURCE_ORDER`. -/
inductive Source where
  | upload | youtube | x
deriving DecidableEq

def sourceOrder : List Source := [.upload, .youtube, .x]

def stamps : Source → List (Option String × Option String)
  | .upload => joinedStamps s.uploadPublications s.uploadSessions
  | .youtube => s.youtubeClaims.map fun claim => (claim.1, claim.2.createdByLoginKey)
  | .x => joinedStamps s.xAssets s.xPostClaims

def contributorMatchClause (login id : String) : Bool :=
  sourceOrder.any fun source => (s.stamps source).contains (some id, some login)

/- The join with the tags asked for, grouped by the medium and counted. -/
def tagsCovered (keys : List CanonicalTagKey) (id : String) : Bool :=
  let found := ((s.medium id).tags.rows.map TagAssignment.tagKey).filter fun key =>
    key ∈ keys.map CanonicalTagKey.value
  !found.isEmpty && found.dedup.length = keys.length

variable (q : AdminMediaQuery)

def clauses (id : String) : Bool :=
  (q.q.all fun wanted => (s.medium id).displayTitle.any fun title =>
      Like.accepts '\\' (Gallery.MediaCatalogQuery.likePattern wanted.value) title.toList) &&
    (match q.publication with
      | .all => true
      | .published => (Named.get? s.publications id).isSome
      | .unpublished => (Named.get? s.publications id).isNone) &&
    (match q.readiness with
      | .all => true
      | .ready => s.readyClause id
      | .incomplete => !s.readyClause id) &&
    (match q.analysis with
      | .all => true
      | .notRequested => (s.latestAnalysisState id).isNone
      | .state wanted => s.latestAnalysisState id = some wanted) &&
    (q.contributor.all fun login => s.contributorMatchClause login id) &&
    (q.tagKeys = [] || s.tagsCovered q.tagKeys id)

/- `_admin_filtered_select`. -/
def adminFilteredSelect : List LogicalMedia := s.media.rows.filter fun row => s.clauses q row.id

end Filtering

end AdminCatalog

section Display

structure MediaContributionAttribution where
  loginKey : String
  sources : List AdminCatalog.Source
deriving DecidableEq

structure AdminMediaItem where
  mediaId : String
  mediaKind : Uploads.MediaKind
  createdAtMs : Nat
  updatedAtMs : Nat
  displayTitle : Option String
  description : Option String
  collectionKey : Option MediaCollectionKey
  processedAtMs : Option Int
  contentCategory : ContentCategory
  acquisitionSource : AcquisitionSource
  tags : List Gallery.CatalogMediaTag
  locations : List Gallery.CatalogMediaLocation
  publication : Option ContentPublication
  readiness : ContentPublicationReadiness
  /- `None` stands for `not_requested`. -/
  analysisState : Option MediaAnalysisRunState
  contributors : List MediaContributionAttribution

structure AdminMediaPage where
  items : List AdminMediaItem
  total : Nat

namespace AdminCatalog

/- `_load_tags` of one medium. -/
def loadTags (id : String) : List Gallery.CatalogMediaTag :=
  listing (fun tag => toLex (tag.position, tag.key))
    ((s.medium id).tags.rows.filterMap fun tag =>
      (s.canonicalTags.find? tag.tagKey).map fun own => ⟨own.key, own.displayName, tag.position⟩)

/- `_load_locations` of one medium. -/
def loadLocations (id : String) : List Gallery.CatalogMediaLocation :=
  listing (fun l => toLex (l.libraryId, toLex (l.relativePath, l.locationId)))
    ((s.locations.filter fun l => l.1 = id).map Prod.snd)

/- `_load_latest_analysis_states` of one medium: the first of its partition. -/
def loadLatestAnalysisState (id : String) : Option MediaAnalysisRunState :=
  ((topRanked AnalysisRunState.mediaId recency s.automaticRuns).find? fun run =>
    run.mediaId = id).map AnalysisRunState.state

/- `_contribution_rows` of one medium and one source, the empty keys passed over. -/
def loginsOf (id : String) (source : Source) : List String :=
  ((s.stamps source).filterMap fun stamp => if stamp.1 = some id then stamp.2 else none).filter
    (· ≠ "")

/- `load_media_contributions` of one medium. -/
def loadMediaContributions (id : String) : List MediaContributionAttribution :=
  (listing (fun login => login) (sourceOrder.flatMap (s.loginsOf id)).dedup).map fun login =>
    ⟨login, sourceOrder.filter fun source => login ∈ s.loginsOf id source⟩

def item (row : LogicalMedia) : AdminMediaItem where
  mediaId := row.id
  mediaKind := row.mediaKind
  createdAtMs := row.createdAtMs
  updatedAtMs := row.updatedAtMs
  displayTitle := (s.medium row.id).displayTitle
  description := (s.medium row.id).description
  collectionKey := (s.medium row.id).collectionKey
  processedAtMs := (s.medium row.id).processedAtMs
  contentCategory := (s.medium row.id).contentCategory
  acquisitionSource := (s.medium row.id).acquisitionSource
  tags := s.loadTags row.id
  locations := s.loadLocations row.id
  publication := Named.get? s.publications row.id
  readiness := deriveContentPublicationReadiness (s.medium row.id).displayTitle
    (s.medium row.id).description (s.loadTags row.id).length
  analysisState := s.loadLatestAnalysisState row.id
  contributors := s.loadMediaContributions row.id

def creationKey (row : LogicalMedia) : Natᵒᵈ ×ₗ String :=
  toLex (OrderDual.toDual row.createdAtMs, row.id)

variable (q : AdminMediaQuery)

/-- `list_admin_media`. -/
def listAdminMedia : AdminMediaPage where
  items := (slice q.limit q.offset (listing creationKey (s.adminFilteredSelect q))).map s.item
  total := (s.adminFilteredSelect q).length

/-- The first pages, put together. -/
def pages (n : Nat) : List AdminMediaItem :=
  (List.range n).flatMap fun i => (s.listAdminMedia (q.atOffset (i * q.limit))).items

end AdminCatalog
end Display

section Publishing

inductive PublishFailure where
  | boundRecord | mediaNotFound
deriving DecidableEq

inductive PublishContentStatus where
  | published | alreadyPublished | notReady
deriving DecidableEq

structure PublishContentResult where
  status : PublishContentStatus
  publication : Option ContentPublication
  readiness : ContentPublicationReadiness

namespace AdminCatalog

/- A record is bound to the medium. -/
def bound (id : String) : Bool := s.records.any fun r => r.mediaId = some id

/- `_load_readiness`: the assignments are counted, not the tags. -/
def loadReadiness (id : String) : ContentPublicationReadiness :=
  deriveContentPublicationReadiness (s.medium id).displayTitle (s.medium id).description
    (s.medium id).tags.rows.length

def publish (id : String) (publishedAtMs : Nat) : Except PublishFailure PublishContentResult := do
  require (!s.bound id) .boundRecord
  require (s.media.find? id).isSome .mediaNotFound
  let readiness := s.loadReadiness id
  match Named.get? s.publications id with
  | some existing => .ok ⟨.alreadyPublished, some existing, readiness⟩
  | none =>
    if readiness.ready then .ok ⟨.published, some ⟨publishedAtMs, .adminExplicit⟩, readiness⟩
    else .ok ⟨.notReady, none, readiness⟩

/-- The medium is public afterwards. -/
def Publishes (id : String) (publishedAtMs : Nat) : Prop :=
  ∃ result, s.publish id publishedAtMs = .ok result ∧
    (result.status = .published ∨ result.status = .alreadyPublished)

end AdminCatalog
end Publishing

section Meaning
variable {s}

/-- What is displayed satisfies the filters. -/
def AdminMediaQuery.Shown (q : AdminMediaQuery) (item : AdminMediaItem) : Bool :=
  (q.q.all fun wanted => item.displayTitle.any fun title =>
      Like.Contains wanted.value.toList title.toList) &&
    (match q.publication with
      | .all => true
      | .published => item.publication.isSome
      | .unpublished => item.publication.isNone) &&
    (match q.readiness with
      | .all => true
      | .ready => item.readiness.ready
      | .incomplete => !item.readiness.ready) &&
    (match q.analysis with
      | .all => true
      | .notRequested => item.analysisState.isNone
      | .state wanted => item.analysisState = some wanted) &&
    (q.contributor.all fun login =>
      login ∈ item.contributors.map MediaContributionAttribution.loginKey) &&
    q.tagKeys.all fun key => key.value ∈ item.tags.map Gallery.CatalogMediaTag.key

end Meaning

section Readiness
variable {s} {id : String}

theorem medium_nonblank (id : String) : (s.medium id).Nonblank := by
  cases hget : Named.get? (after s.history) id with
  | none => simp [AdminCatalog.medium, mediumAfter, hget, Medium.Nonblank, Medium.new,
      Medium.displayTitle, Medium.description, nonblank]
  | some m =>
    have hblank := allNonblank_after s.history id m hget
    simpa [AdminCatalog.medium, mediumAfter, hget] using hblank

/- SQLite trims spaces, Python all white space. -/
theorem columnReady_eq {text : Option String} (h : nonblank text = text) :
    AdminCatalog.columnReady text = !text.all isBlank := by
  cases text with
  | none => rfl
  | some t =>
    have hblank : isBlank t = false := nonblank_iff.mp h t rfl
    have hne : sqlTrim t.toList ≠ [] := by
      intro hnil
      have hdrop : (t.toList.dropWhile fun c => c = ' ') = [] := by
        by_contra hne
        obtain ⟨c, rest, hcons⟩ := List.exists_cons_of_ne_nil hne
        have hc : ¬(c = ' ') := by
          simpa using head_dropWhile (p := fun c => c = ' ') t.toList c (by rw [hcons]; rfl)
        simp only [sqlTrim, hcons, List.reverse_eq_nil_iff, List.dropWhile_eq_nil_iff] at hnil
        exact hc (by simpa using hnil c (by simp))
      have hspaces : isBlank t = true := by
        rw [List.dropWhile_eq_nil_iff] at hdrop
        simp only [isBlank, List.all_eq_true]
        intro c hc
        have hspace : c = ' ' := by simpa using hdrop c hc
        subst hspace
        decide
      rw [hblank] at hspaces
      cases hspaces
    simp [AdminCatalog.columnReady, hne, hblank]

theorem ready_iff (displayTitle description : Option String) (n : Nat) :
    (deriveContentPublicationReadiness displayTitle description n).ready =
      (!displayTitle.all isBlank && !description.all isBlank && decide (0 < n)) := by
  unfold deriveContentPublicationReadiness
  cases displayTitle.all isBlank <;> cases description.all isBlank <;> cases n <;> simp

theorem length_listing {ρ κ : Type} [LinearOrder κ] (key : ρ → κ) (rows : List ρ) :
    (listing key rows).length = rows.length :=
  List.length_insertionSort _ rows

/-- Every assignment is shown, under the key it has. -/
theorem loadTags_keys (id : String) :
    (s.loadTags id).length = (s.medium id).tags.rows.length ∧
      ∀ key, key ∈ (s.loadTags id).map Gallery.CatalogMediaTag.key ↔
        key ∈ (s.medium id).tags.rows.map TagAssignment.tagKey := by
  have hown : ∀ tag ∈ (s.medium id).tags.rows, ∃ own, s.canonicalTags.find? tag.tagKey = some own ∧
      own.key = tag.tagKey := by
    intro tag htag
    obtain ⟨own, hfind⟩ : ∃ own, s.canonicalTags.find? tag.tagKey = some own := by
      rw [← Option.ne_none_iff_exists']
      intro hnone
      exact (Table.find?_none_iff.mp hnone) (s.tags_canonical id tag htag)
    exact ⟨own, hfind, Table.find?_key hfind⟩
  constructor
  · rw [AdminCatalog.loadTags, length_listing, List.filterMap_length_eq_length]
    intro tag htag
    obtain ⟨own, hfind, -⟩ := hown tag htag
    simp [hfind]
  · intro key
    rw [AdminCatalog.loadTags, Gallery.mem_listing_map]
    simp only [List.mem_map, List.mem_filterMap]
    constructor
    · rintro ⟨shown, ⟨tag, htag, hshown⟩, rfl⟩
      obtain ⟨own, hfind, hkey⟩ := hown tag htag
      rw [hfind] at hshown
      cases hshown
      exact ⟨tag, htag, hkey.symm⟩
    · rintro ⟨tag, htag, rfl⟩
      obtain ⟨own, hfind, hkey⟩ := hown tag htag
      exact ⟨⟨own.key, own.displayName, tag.position⟩, ⟨tag, htag, by simp [hfind]⟩, hkey⟩

/-- The filter, the display and `publish` derive one readiness. -/
theorem readyClause_eq (id : String) : s.readyClause id = (s.loadReadiness id).ready := by
  obtain ⟨htitle, hdescription⟩ := medium_nonblank (s := s) id
  rw [AdminCatalog.loadReadiness, ready_iff, AdminCatalog.readyClause, columnReady_eq htitle,
    columnReady_eq hdescription]
  cases (s.medium id).tags.rows <;> simp

theorem readiness_eq (row : LogicalMedia) : (s.item row).readiness = s.loadReadiness row.id := by
  simp only [AdminCatalog.item, AdminCatalog.loadReadiness, (loadTags_keys row.id).1]

end Readiness

section Clauses
variable {s} {id : String}

theorem recency_nodup : (s.runs.rows.map AdminCatalog.recency).Nodup := by
  apply (s.runs.nodup.of_map _).map_on
  intro a ha b hb h
  have hid : a.id = b.id := congrArg (fun k : Natᵒᵈ ×ₗ Stringᵒᵈ => OrderDual.ofDual (ofLex k).2) h
  exact Table.eq_of_key ha hb hid

/-- The run that is first in its partition is the first of its medium. -/
theorem latestAnalysisState_eq (id : String) :
    s.latestAnalysisState id = s.loadLatestAnalysisState id := by
  unfold AdminCatalog.latestAnalysisState AdminCatalog.loadLatestAnalysisState
  congr 1
  have hkeys : (s.automaticRuns.map AdminCatalog.recency).Nodup :=
    (List.filter_sublist.map _).nodup recency_nodup
  cases hlisted : listing AdminCatalog.recency
      (s.automaticRuns.filter fun run => run.mediaId = id) with
  | nil =>
    have hnone : ∀ run ∈ s.automaticRuns, run.mediaId ≠ id := by
      intro run hrun hid
      have hmem : run ∈ listing AdminCatalog.recency
          (s.automaticRuns.filter fun run => run.mediaId = id) :=
        mem_listing.mpr (List.mem_filter.mpr ⟨hrun, by simp [hid]⟩)
      rw [hlisted] at hmem
      cases hmem
    rw [List.head?_nil, eq_comm, List.find?_eq_none]
    intro run hrun
    simpa using hnone run (mem_topRanked.mp hrun).1
  | cons first rest =>
    have hmem : first ∈ s.automaticRuns ∧ first.mediaId = id := by
      have hfirst : first ∈ listing AdminCatalog.recency
          (s.automaticRuns.filter fun run => run.mediaId = id) := by
        rw [hlisted]
        exact List.mem_cons_self
      simpa using mem_listing.mp hfirst
    have hle : ∀ other ∈ s.automaticRuns, other.mediaId = id →
        AdminCatalog.recency first ≤ AdminCatalog.recency other := by
      intro other hother hsame
      have hsorted : (first :: rest).Pairwise fun a b =>
          AdminCatalog.recency a ≤ AdminCatalog.recency b := by
        rw [← hlisted]
        exact List.pairwise_insertionSort _ _
      have hin : other ∈ first :: rest := by
        rw [← hlisted, mem_listing, List.mem_filter]
        exact ⟨hother, by simp [hsame]⟩
      obtain rfl | hrest := List.mem_cons.mp hin
      · exact le_rfl
      · exact List.rel_of_pairwise_cons hsorted hrest
    have hfirst : first ∈ topRanked AnalysisRunState.mediaId AdminCatalog.recency
        s.automaticRuns := by
      apply mem_topRanked.mpr
      exact ⟨hmem.1, fun other hother hother' => hle other hother (hother'.trans hmem.2)⟩
    rw [List.head?_cons]
    cases hfind : (topRanked AnalysisRunState.mediaId AdminCatalog.recency
        s.automaticRuns).find? fun run => run.mediaId = id with
    | none => exact absurd hmem.2 (by simpa using List.find?_eq_none.mp hfind first hfirst)
    | some found =>
      have hfound : found.mediaId = id := by simpa using List.find?_some hfind
      rw [topRanked_unique hkeys hfirst (List.mem_of_find?_eq_some hfind)
        (hmem.2.trans hfound.symm)]

theorem mem_loginsOf {login : String} (h : login ≠ "") (id : String) (source : AdminCatalog.Source) :
    login ∈ s.loginsOf id source ↔ (some id, some login) ∈ s.stamps source := by
  unfold AdminCatalog.loginsOf
  rw [List.mem_filter, List.mem_filterMap]
  constructor
  · rintro ⟨⟨⟨medium, stamped⟩, hmem, hstamp⟩, -⟩
    split at hstamp
    · rename_i hmedium
      simp only at hmedium hstamp
      rw [hmedium, hstamp] at hmem
      exact hmem
    · cases hstamp
  · intro hmem
    exact ⟨⟨_, hmem, by simp⟩, by simpa using h⟩

/-- A login is matched by the clause where it is displayed. -/
theorem contributorMatchClause_eq {login : String} (h : login ≠ "") (id : String) :
    s.contributorMatchClause login id =
      decide (login ∈ (s.loadMediaContributions id).map MediaContributionAttribution.loginKey) := by
  rw [Bool.eq_iff_iff, decide_eq_true_eq, AdminCatalog.loadMediaContributions, List.map_map]
  simp only [Function.comp_def, List.map_id', mem_listing, List.mem_dedup, List.mem_flatMap,
    AdminCatalog.contributorMatchClause, List.any_eq_true, List.contains_iff_mem, mem_loginsOf h]

/-- Counting the distinct tags found comes to finding every tag asked for. -/
theorem tagsCovered_eq {keys : List CanonicalTagKey} (hkeys : keys.Nodup) (hne : keys ≠ [])
    (id : String) : s.tagsCovered keys id =
      keys.all fun key => key.value ∈ (s.loadTags id).map Gallery.CatalogMediaTag.key := by
  have hvalues : (keys.map CanonicalTagKey.value).Nodup :=
    hkeys.map CanonicalTagKey.value_injective
  have hmem : ∀ v, v ∈ (((s.medium id).tags.rows.map TagAssignment.tagKey).filter fun key =>
      key ∈ keys.map CanonicalTagKey.value).dedup ↔
        v ∈ (s.medium id).tags.rows.map TagAssignment.tagKey ∧
          v ∈ keys.map CanonicalTagKey.value := by
    intro v
    rw [List.mem_dedup, List.mem_filter, decide_eq_true_eq]
  have hcount := Gallery.length_eq_iff_covers (List.nodup_dedup _) hvalues
    fun v hv => ((hmem v).mp hv).2
  rw [Bool.eq_iff_iff, List.all_eq_true]
  simp only [AdminCatalog.tagsCovered, Bool.and_eq_true, decide_eq_true_eq,
    (loadTags_keys id).2]
  have hlength : (keys.map CanonicalTagKey.value).length = keys.length := List.length_map _
  rw [← hlength, hcount]
  constructor
  · rintro ⟨-, hall⟩ key hkey
    exact ((hmem key.value).mp (hall _ (List.mem_map_of_mem hkey))).1
  · intro hall
    have hfound : ∀ v ∈ keys.map CanonicalTagKey.value, v ∈
        (((s.medium id).tags.rows.map TagAssignment.tagKey).filter fun key =>
          key ∈ keys.map CanonicalTagKey.value).dedup := by
      intro v hv
      obtain ⟨key, hkey, rfl⟩ := List.mem_map.mp hv
      exact (hmem _).mpr ⟨hall key hkey, hv⟩
    refine ⟨?_, hfound⟩
    obtain ⟨key, hkey⟩ := List.exists_mem_of_ne_nil keys hne
    have hin := List.mem_dedup.mp (hfound _ (List.mem_map_of_mem hkey))
    cases hlist : ((s.medium id).tags.rows.map TagAssignment.tagKey).filter fun key =>
        key ∈ keys.map CanonicalTagKey.value with
    | nil =>
      rw [hlist] at hin
      cases hin
    | cons first rest => rfl

/-- The SQL says of a row what the filters say of its item. -/
theorem clauses_eq (q : AdminMediaQuery) (row : LogicalMedia) :
    s.clauses q row.id = q.Shown (s.item row) := by
  have htags : (decide (q.tagKeys = []) || s.tagsCovered q.tagKeys row.id) =
      q.tagKeys.all fun key =>
        key.value ∈ (s.loadTags row.id).map Gallery.CatalogMediaTag.key := by
    by_cases hnil : q.tagKeys = []
    · simp [hnil]
    · rw [tagsCovered_eq q.tags_distinct hnil, decide_eq_false hnil, Bool.false_or]
  have hcontributor : (q.contributor.all fun login => s.contributorMatchClause login row.id) =
      q.contributor.all fun login => decide
        (login ∈ (s.loadMediaContributions row.id).map MediaContributionAttribution.loginKey) := by
    cases hlogin : q.contributor with
    | none => rfl
    | some login => exact contributorMatchClause_eq (q.contributor_named login hlogin) row.id
  unfold AdminCatalog.clauses AdminMediaQuery.Shown
  rw [htags, hcontributor, latestAnalysisState_eq, readiness_eq, ← readyClause_eq]
  simp only [Gallery.like_iff]
  rfl

end Clauses

section Theorem
variable {s} {q : AdminMediaQuery}

theorem creationKey_nodup {rows : List LogicalMedia} (h : (rows.map LogicalMedia.id).Nodup) :
    (rows.map AdminCatalog.creationKey).Nodup := by
  apply (h.of_map _).map_on
  intro a ha b hb hkey
  have hid : a.id = b.id := congrArg (fun k => (ofLex k).2) hkey
  exact List.inj_on_of_nodup_map h ha hb hid

/-- Every item of the unfiltered listing. -/
def AdminCatalog.all (s : AdminCatalog lib) : List AdminMediaItem :=
  (listing AdminCatalog.creationKey s.media.rows).map s.item

theorem listed_eq (q : AdminMediaQuery) :
    (listing AdminCatalog.creationKey (s.adminFilteredSelect q)).map s.item =
      s.all.filter q.Shown := by
  have hclauses : (fun row : LogicalMedia => s.clauses q row.id) = q.Shown ∘ s.item := by
    funext row
    exact clauses_eq q row
  rw [AdminCatalog.adminFilteredSelect, hclauses,
    listing_filter (creationKey_nodup s.media.nodup), AdminCatalog.all, List.filter_map]

theorem pages_eq {n : Nat} (h : (s.listAdminMedia q).total ≤ n * q.limit) :
    s.pages q n = s.all.filter q.Shown := by
  have hslices : s.pages q n = ((listing AdminCatalog.creationKey
      (s.adminFilteredSelect q)).take (n * q.limit)).map s.item := by
    rw [← slices_take, List.map_flatMap]
    rfl
  have hall : (listing AdminCatalog.creationKey (s.adminFilteredSelect q)).length ≤ n * q.limit := by
    rw [length_listing]
    exact h
  rw [hslices, List.take_of_length_le hall, listed_eq]

theorem shown_unfiltered (item : AdminMediaItem) : q.unfiltered.Shown item = true := rfl

theorem publishes_iff {row : LogicalMedia} (hrow : row ∈ s.media.rows)
    (hfree : s.bound row.id = false) (publishedAtMs : Nat) :
    s.Publishes row.id publishedAtMs ↔
      (s.item row).readiness.ready = true ∨ (s.item row).publication.isSome = true := by
  have hfound : s.media.find? row.id = some row := Table.mem_find? hrow
  unfold AdminCatalog.Publishes AdminCatalog.publish
  rw [hfree, hfound, readiness_eq]
  simp only [Bool.not_false, require_true, Option.isSome_some, AdminCatalog.item]
  change (∃ result, (match Named.get? s.publications row.id with
    | some existing => _
    | none => _) = Except.ok result ∧ _) ↔ _
  cases hget : Named.get? s.publications row.id with
  | some existing => simp
  | none => cases hready : (s.loadReadiness row.id).ready <;> simp

end Theorem
end FrameNest.Metadata
