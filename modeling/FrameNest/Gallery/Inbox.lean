import FrameNest.Analysis.Runs
import FrameNest.Gallery.Listing
import FrameNest.Metadata.Provenance
import FrameNest.Text.Base64

/-! The companion review inbox: the history page of an administrator or of a requester, the number
of its items that are unopened, its cursor, and `mark_opened`. -/
namespace FrameNest.Gallery
open Metadata Relational
open Analysis (MediaAnalysisRunState AnalysisProfile automaticPostCatalogAnalysisDefinition
  resultSchemaVersion)

section Rows

structure RunId where
  value : String
  canonical : isUuid4Text value = true

theorem RunId.value_injective {a b : RunId} (h : a.value = b.value) : a = b := by
  cases a
  cases b
  simpa using h

instance : DecidableEq RunId := fun _ _ =>
  decidable_of_iff _ ⟨RunId.value_injective, congrArg RunId.value⟩

structure AnalysisRun where
  id : RunId
  mediaId : MediaId
  analysisDefinition : String
  state : MediaAnalysisRunState
  analysisProfile : Option AnalysisProfile
  resultSchemaVersion : Option String
  resultJson : Option String
  completedAtMs : Option Nat
  /-- SQLite holds 64-bit integers. -/
  completed_fits : ∀ ms ∈ completedAtMs, ms < 2 ^ 63
deriving DecidableEq

structure OpenState where
  actorLoginKey : String
  mediaId : MediaId
  openedRunId : RunId
  openedAtMs : Nat
deriving DecidableEq

def OpenState.key (s : OpenState) : String × MediaId := (s.actorLoginKey, s.mediaId)

def movieIdentificationAnalysisDefinition : String := "movie_identification"

/-- What `_analyzed_inbox_predicates` ask of the run alone. -/
def AnalysisRun.analyzedGeneric (r : AnalysisRun) : Bool :=
  r.state = .analyzed && r.analysisDefinition = automaticPostCatalogAnalysisDefinition &&
    r.analysisDefinition ≠ movieIdentificationAnalysisDefinition &&
    (r.analysisProfile = some .genericMedia || r.analysisProfile = none) && r.completedAtMs.isSome

/-- The tables of the inbox, with their foreign keys and what `mark_opened` keeps to: an opened run
is a finished generic one of the medium it was opened for. -/
structure ReviewCatalog where
  media : Table LogicalMedia.id
  metadata : Table MediaMetadata.mediaId
  runs : Table AnalysisRun.id
  openStates : Table OpenState.key
  xAssets : Table XAsset.id
  xPostClaims : Table XPostClaim.id
  runs_media : ∀ r ∈ runs.rows, r.mediaId ∈ media.rows.map LogicalMedia.id
  assets_media : ∀ a ∈ xAssets.rows, ∀ id ∈ a.mediaId, id ∈ media.rows.map LogicalMedia.id
  opened_run : ∀ s ∈ openStates.rows, ∃ r ∈ runs.rows, r.id = s.openedRunId ∧
    r.mediaId = s.mediaId ∧ r.analyzedGeneric = true

end Rows

section Queries
variable (cat : ReviewCatalog)

/- `coalesce(content_category, 'general') != 'movie'`. -/
def ReviewCatalog.notMovie (id : MediaId) : Bool :=
  ((cat.metadata.find? id).map MediaMetadata.contentCategory).getD .general ≠ .movie

def ReviewCatalog.displayTitle (id : MediaId) : Option String :=
  ((cat.metadata.find? id).bind MediaMetadata.displayTitle).map MediaDisplayTitle.value

/- `completed_at_ms DESC, id DESC`; the runs ordered so have a time of completion. -/
def AnalysisRun.place (r : AnalysisRun) : Nat ×ₗ String :=
  toLex (r.completedAtMs.getD 0, r.id.value)

def runKey (r : AnalysisRun) : (Nat ×ₗ String)ᵒᵈ := OrderDual.toDual r.place

/- The runs with `_analyzed_inbox_predicates`. -/
def ReviewCatalog.inboxRuns : List AnalysisRun :=
  cat.runs.rows.filter fun r => r.analyzedGeneric && cat.notMovie r.mediaId

/-- `_latest_successful_generic`. -/
def ReviewCatalog.latest : List AnalysisRun := topRanked AnalysisRun.mediaId runKey cat.inboxRuns

/-- An asset joined with its claim, and its medium. -/
structure OwnedAsset where
  asset : XAsset
  mediaId : MediaId
  claim : XPostClaim
deriving DecidableEq

/- `_owned_cataloged_x_predicates`. -/
def ReviewCatalog.ownedAsset? (actor : String) (asset : XAsset) : Option OwnedAsset :=
  match asset.mediaId, cat.xPostClaims.find? asset.claimId with
  | some id, some claim =>
    if asset.state = .cataloged && claim.createdByLoginKey = some actor &&
        claim.requestedContentCategory ≠ some .movie && cat.notMovie id then
      some ⟨asset, id, claim⟩
    else none
  | _, _ => none

def ReviewCatalog.ownedAssets (actor : String) : List OwnedAsset :=
  cat.xAssets.rows.filterMap (cat.ownedAsset? actor)

/- `_owned_cataloged_x_media_ids`. -/
def ReviewCatalog.owns (actor : String) (id : MediaId) : Bool :=
  (cat.ownedAssets actor).any fun o => o.mediaId = id

/- `completed_at_ms DESC, id DESC`, NULL last. -/
def assetKey (o : OwnedAsset) : (WithBot Nat ×ₗ String)ᵒᵈ :=
  OrderDual.toDual (toLex (o.asset.completedAtMs, o.asset.id))

structure HistoryRow where
  mediaId : MediaId
  createdAtMs : Nat
  analyzed : Bool
  analysisRunId : Option RunId
  completedAtMs : Option Nat
  resultJson : Option String
  displayTitle : Option String
  claimTitle : Option String
  xPostId : Option String
  activityAtMs : Nat
  sortId : String
deriving DecidableEq

/- `_analyzed_row_select`. -/
def ReviewCatalog.analyzedRow (run : AnalysisRun) (medium : LogicalMedia) : HistoryRow where
  mediaId := run.mediaId
  createdAtMs := medium.createdAtMs
  analyzed := true
  analysisRunId := some run.id
  completedAtMs := run.completedAtMs
  resultJson := run.resultJson
  displayTitle := cat.displayTitle run.mediaId
  claimTitle := none
  xPostId := none
  activityAtMs := run.completedAtMs.getD 0
  sortId := run.id.value

def ReviewCatalog.pendingRow (o : OwnedAsset) (medium : LogicalMedia) : HistoryRow where
  mediaId := o.mediaId
  createdAtMs := medium.createdAtMs
  analyzed := false
  analysisRunId := none
  completedAtMs := none
  resultJson := none
  displayTitle := cat.displayTitle o.mediaId
  claimTitle := o.claim.title
  xPostId := some o.claim.xPostId
  activityAtMs := medium.createdAtMs
  sortId := o.mediaId.value

/-- Whose page it is: `own_history`. -/
inductive View where
  | administrator
  | ownHistory
deriving DecidableEq

/- The latest runs that the counter counts: all, or those of the requester's media. -/
def ReviewCatalog.viewRuns (view : View) (actor : String) : List AnalysisRun :=
  match view with
  | .administrator => cat.latest
  | .ownHistory => cat.latest.filter fun r => cat.owns actor r.mediaId

def ReviewCatalog.analyzedRows (runs : List AnalysisRun) : List HistoryRow :=
  runs.filterMap fun r => (cat.media.find? r.mediaId).map (cat.analyzedRow r)

/- The owned assets whose medium has no latest run, the newest of each medium. -/
def ReviewCatalog.pendingRows (actor : String) : List HistoryRow :=
  (topRanked OwnedAsset.mediaId assetKey
      ((cat.ownedAssets actor).filter fun o => (cat.latest.all fun r => r.mediaId ≠ o.mediaId))).filterMap
    fun o => (cat.media.find? o.mediaId).map (cat.pendingRow o)

/-- `_analyzed_inbox_rows`, or `_own_history_rows`. -/
def ReviewCatalog.historyRows (view : View) (actor : String) : List HistoryRow :=
  match view with
  | .administrator => cat.analyzedRows (cat.viewRuns .administrator actor)
  | .ownHistory => cat.analyzedRows (cat.viewRuns .ownHistory actor) ++ cat.pendingRows actor

def ReviewCatalog.opened (actor : String) (id : MediaId) : Option RunId :=
  (cat.openStates.find? (actor, id)).map OpenState.openedRunId

/- `_unopened_count_statement`. -/
def ReviewCatalog.unopenedCount (view : View) (actor : String) : Nat :=
  (cat.viewRuns view actor).countP fun r => cat.opened actor r.mediaId ≠ some r.id

end Queries

section Pages
variable (lib : Metadata.Library) (cat : ReviewCatalog)

structure CompanionReviewInboxItem where
  mediaId : MediaId
  title : String
  createdAtMs : Nat
  analyzed : Bool
  analysisRunId : Option RunId
  completedAtMs : Option Nat
  unopened : Bool
deriving DecidableEq

structure CompanionReviewInboxPage where
  items : List CompanionReviewInboxItem
  unopenedCount : Nat
  nextCursor : Option String
deriving DecidableEq

def isTitle (title : Option String) : Option String := title.filter fun s => !Plain.isBlank s

/- `inbox_title`. -/
def inboxTitle (canonical stored : Option String) : String :=
  ((isTitle canonical).or stored).getD "Untitled media"

/- `pending_inbox_title`. -/
def pendingInboxTitle (canonical claimTitle : Option String) (xPostId : String) : String :=
  ((isTitle canonical).or (isTitle claimTitle)).getD ("X post " ++ xPostId)

/- The title of a stored result; one that is not decoded has none. -/
def storedTitle (resultJson : Option String) : Option String :=
  resultJson.bind fun text =>
    match decodeStoredSuggestionResult lib text with
    | .ok stored => some stored.title
    | .error _ => none

/- `_inbox_item_from_row`, of a row and the run that its actor has opened. -/
def inboxItem (row : HistoryRow) (opened : Option RunId) : CompanionReviewInboxItem where
  mediaId := row.mediaId
  title :=
    if row.analyzed then inboxTitle row.displayTitle (storedTitle lib row.resultJson)
    else pendingInboxTitle row.displayTitle row.claimTitle (row.xPostId.getD "None")
  createdAtMs := row.createdAtMs
  analyzed := row.analyzed
  analysisRunId := if row.analyzed then row.analysisRunId else none
  completedAtMs := if row.analyzed then row.completedAtMs else none
  unopened := row.analyzed && opened ≠ row.analysisRunId

/- `activity_at_ms DESC, analyzed DESC, sort_id DESC`. -/
def rowKey (row : HistoryRow) : (Nat ×ₗ Bool ×ₗ String)ᵒᵈ :=
  OrderDual.toDual (toLex (row.activityAtMs, toLex (row.analyzed, row.sortId)))

/-- A decoded cursor. -/
structure InboxCursor where
  activityAtMs : Nat
  analyzed : Bool
  sortId : String

/- `_apply_inbox_keyset`. -/
def behindInboxCursor (cursor : Option InboxCursor) (row : HistoryRow) : Bool :=
  match cursor with
  | none => true
  | some c => row.activityAtMs < c.activityAtMs ||
      (row.activityAtMs = c.activityAtMs && row.analyzed.toNat < c.analyzed.toNat) ||
      (row.activityAtMs = c.activityAtMs && row.analyzed.toNat = c.analyzed.toNat &&
        row.sortId < c.sortId)

/- `encode_companion_review_inbox_cursor`. -/
def encodeInboxCursor (c : InboxCursor) : String :=
  String.ofList (Base64.carry (PyJson.dict [("v", .int 2), ("at_ms", .int c.activityAtMs),
    ("analyzed", .bool c.analyzed), ("id", .str (PyStr.ofString c.sortId))]))

/- What the next cursor takes of the last item of a page. -/
def CompanionReviewInboxItem.cursor (item : CompanionReviewInboxItem) : InboxCursor where
  activityAtMs := if item.analyzed then item.completedAtMs.getD item.createdAtMs else item.createdAtMs
  analyzed := item.analyzed
  sortId :=
    if item.analyzed then (item.analysisRunId.map RunId.value).getD item.mediaId.value
    else item.mediaId.value

/-- `_list_history_page`. -/
def ReviewCatalog.listHistoryPage (view : View) (actor : String) (limit : Nat)
    (cursor : Option InboxCursor) : CompanionReviewInboxPage :=
  let rows := (listing rowKey
    ((cat.historyRows view actor).filter (behindInboxCursor cursor))).take (limit + 1)
  let items := (rows.take limit).map fun row => inboxItem lib row (cat.opened actor row.mediaId)
  { items := items
    unopenedCount := cat.unopenedCount view actor
    nextCursor :=
      if limit < rows.length then items.getLast?.map fun last => encodeInboxCursor last.cursor
      else none }

inductive Refusal where
  | queryInvalid
  | mediaNotFound
  | movieExcluded
  | runNotFound
  | runNotEligible
deriving DecidableEq

/-- What decoding a cursor takes from the interpreter: how deep `json.loads` goes below its own
level, and whether the text of a float is a two. -/
structure Decoding where
  nesting : Nat
  isTwo : List Char → Bool

/- The last of several members with one key counts. -/
def payloadMember (payload : List (PyStr × PyJson)) (key : String) : Option PyJson :=
  payload.reverse.lookup (PyStr.ofString key)

/- `set(payload) == keys`. -/
def payloadKeys (payload : List (PyStr × PyJson)) (keys : List String) : Bool :=
  (keys.all fun key => (payloadMember payload key).isSome) &&
    payload.all fun m => m.1 ∈ keys.map PyStr.ofString

/- `_cursor_timestamp`. -/
def cursorTimestamp : Option PyJson → Option Nat
  | some (.int n) => if n < 0 then none else some n.toNat
  | _ => none

/- `_cursor_uuid`. -/
def cursorUuid : Option PyJson → Option String
  | some (.str s) => (PyStr.chars? s).bind fun text =>
      if isUuid4Text (String.ofList text) then some (String.ofList text) else none
  | _ => none

/- `payload["v"] != 2 or isinstance(payload["v"], bool)` refuses; `2.0` is two as well. -/
def isVersionTwo (isTwo : List Char → Bool) : Option PyJson → Bool
  | some (.int n) => n = 2
  | some (.float literal) => isTwo literal
  | _ => false

def cursorFlag : Option PyJson → Option Bool
  | some (.bool b) => some b
  | _ => none

/- A timestamp, a flag and an identity, each of which can be refused. -/
def decodedCursor (activityAtMs : Option Nat) (analyzed : Option Bool) (sortId : Option String) :
    Except Refusal InboxCursor :=
  match activityAtMs, analyzed, sortId with
  | some activityAtMs, some analyzed, some sortId => .ok ⟨activityAtMs, analyzed, sortId⟩
  | _, _, _ => .error .queryInvalid

/-- `decode_companion_review_inbox_cursor` of a text. -/
def decodeInboxCursor (d : Decoding) (value : String) : Except Refusal InboxCursor :=
  match Base64.carried (d.nesting + 1) value.toList with
  | some (.obj payload) =>
    if payloadKeys payload ["completed_at_ms", "id"] then
      decodedCursor (cursorTimestamp (payloadMember payload "completed_at_ms")) (some true)
        (cursorUuid (payloadMember payload "id"))
    else if payloadKeys payload ["v", "at_ms", "analyzed", "id"] &&
        isVersionTwo d.isTwo (payloadMember payload "v") then
      decodedCursor (cursorTimestamp (payloadMember payload "at_ms"))
        (cursorFlag (payloadMember payload "analyzed")) (cursorUuid (payloadMember payload "id"))
    else .error .queryInvalid
  | _ => .error .queryInvalid

/-- `ListCompanionReviewInbox.execute`, without the counter. -/
def ReviewCatalog.inboxPage (d : Decoding) (view : View) (actor : String) (limit : Nat)
    (cursor : Option String) : Except Refusal (List CompanionReviewInboxItem × Option String) :=
  match cursor with
  | none =>
    let page := cat.listHistoryPage lib view actor limit none
    .ok (page.items, page.nextCursor)
  | some text => (decodeInboxCursor d text).map fun c =>
      let page := cat.listHistoryPage lib view actor limit (some c)
      (page.items, page.nextCursor)

end Pages
section Opening
variable (cat : ReviewCatalog)

/- `_actor_owns_cataloged_x`. -/
def ReviewCatalog.ownsCatalogedX (actor : String) (id : MediaId) : Bool :=
  cat.xAssets.rows.any fun asset => asset.mediaId = some id && asset.state = .cataloged &&
    (cat.xPostClaims.find? asset.claimId).any fun claim => claim.createdByLoginKey = some actor

/- `_require_non_movie_media`. -/
def ReviewCatalog.requireNonMovie (id : MediaId) : Except Refusal Unit := do
  require (cat.media.find? id).isSome .mediaNotFound
  require (cat.notMovie id) .movieExcluded

/- `_require_eligible_run`. -/
def ReviewCatalog.requireEligibleRun (id : MediaId) (runId : RunId) : Except Refusal AnalysisRun :=
  match cat.runs.find? runId with
  | none => .error .runNotFound
  | some r =>
    if r.mediaId = id && r.analyzedGeneric && cat.notMovie r.mediaId &&
        r.resultSchemaVersion = some Analysis.resultSchemaVersion then .ok r
    else .error .runNotEligible

/- `_load_run_order_key`. -/
def ReviewCatalog.runOrderKey (runId : RunId) : Option (Nat ×ₗ String) :=
  (cat.runs.find? runId).bind fun r => r.completedAtMs.map fun ms => toLex (ms, r.id.value)

/- `_latest_run_id_for_media`. -/
def ReviewCatalog.latestRunId (id : MediaId) : Option RunId :=
  (cat.latest.find? fun r => r.mediaId = id).map AnalysisRun.id

/- The row of the actor and the medium is written over. -/
def openRows (s : OpenState) (rows : List OpenState) : List OpenState :=
  s :: rows.filter fun other => other.key ≠ s.key

theorem openRows_nodup {s : OpenState} {rows : List OpenState} (h : (rows.map OpenState.key).Nodup) :
    ((openRows s rows).map OpenState.key).Nodup := by
  rw [openRows, List.map_cons, List.nodup_cons]
  constructor
  · intro hmem
    obtain ⟨other, hother, hkey⟩ := List.mem_map.mp hmem
    simp [hkey] at hother
  · exact (List.filter_sublist.map OpenState.key).nodup h

/-- `_upsert_opened_state`, of a finished generic run of the medium. -/
def ReviewCatalog.upsertOpenState (actor : String) (r : AnalysisRun) (openedAtMs : Nat)
    (hr : r ∈ cat.runs.rows) (hgeneric : r.analyzedGeneric = true) : ReviewCatalog :=
  { cat with
    openStates := ⟨openRows ⟨actor, r.mediaId, r.id, openedAtMs⟩ cat.openStates.rows,
      openRows_nodup cat.openStates.nodup⟩
    opened_run := by
      intro s hs
      obtain rfl | hs := List.mem_cons.mp hs
      · exact ⟨r, hr, rfl, rfl, hgeneric⟩
      · exact cat.opened_run s (List.mem_of_mem_filter hs) }

structure CompanionReviewOpenedResult where
  mediaId : MediaId
  openedRunId : RunId
  openedAtMs : Nat
  unopened : Bool
deriving DecidableEq

theorem requireEligibleRun_ok {cat : ReviewCatalog} {id : MediaId} {runId : RunId} {r : AnalysisRun}
    (h : cat.requireEligibleRun id runId = .ok r) :
    r ∈ cat.runs.rows ∧ r.id = runId ∧ r.mediaId = id ∧ r.analyzedGeneric = true ∧
      cat.notMovie r.mediaId = true ∧
      r.resultSchemaVersion = some Analysis.resultSchemaVersion := by
  unfold ReviewCatalog.requireEligibleRun at h
  cases hfound : cat.runs.find? runId with
  | none => simp [hfound] at h
  | some found =>
    simp only [hfound] at h
    split at h
    · rename_i heligible
      obtain rfl := Except.ok.inj h
      simp only [Bool.and_eq_true, decide_eq_true_eq] at heligible
      exact ⟨Table.find?_mem hfound, Table.find?_key hfound, heligible.1.1.1, heligible.1.1.2,
        heligible.1.2, heligible.2⟩
    · cases h

/- The opened run of the actor stays when it is after the requested one. -/
def ReviewCatalog.keepsCurrent (actor : String) (requested : AnalysisRun) : Option OpenState :=
  (cat.openStates.find? (actor, requested.mediaId)).filter fun current =>
    (cat.runOrderKey current.openedRunId).any fun key => requested.place < key

/-- `mark_opened`. -/
def ReviewCatalog.markOpened (actor : String) (id : MediaId) (runId : RunId) (nowMs : Nat)
    (requireOwner : Bool) : Except Refusal (CompanionReviewOpenedResult × ReviewCatalog) := do
  require (!requireOwner || cat.ownsCatalogedX actor id) .mediaNotFound
  cat.requireNonMovie id
  match h : cat.requireEligibleRun id runId with
  | .error e => .error e
  | .ok requested =>
    match cat.keepsCurrent actor requested with
    | some current => .ok (⟨id, current.openedRunId, current.openedAtMs,
        decide (cat.latestRunId id ≠ some current.openedRunId)⟩, cat)
    | none => .ok (⟨id, runId, nowMs, decide (cat.latestRunId id ≠ some runId)⟩,
        cat.upsertOpenState actor requested nowMs (requireEligibleRun_ok h).1
          (requireEligibleRun_ok h).2.2.2.1)

end Opening

section Consistency
variable (lib : Metadata.Library) (d : Decoding) (cat : ReviewCatalog) (view : View) (actor : String)

/-- A medium of the view: one with a finished generic run that is no movie, or one that the actor
saved from X. -/
def ReviewCatalog.InView (id : MediaId) : Prop :=
  match view with
  | .administrator => ∃ r ∈ cat.inboxRuns, r.mediaId = id
  | .ownHistory => cat.owns actor id = true

/-- Following the cursors from the first page until there is none gives these items. -/
def ReviewCatalog.Reads (limit : Nat) (items : List CompanionReviewInboxItem) : Prop :=
  Walk (cat.inboxPage lib d view actor limit) none items

/- Time of activity, analyzed, identity. -/
def CompanionReviewInboxItem.place (item : CompanionReviewInboxItem) : Nat ×ₗ Bool ×ₗ String :=
  toLex (item.cursor.activityAtMs, toLex (item.cursor.analyzed, item.cursor.sortId))

/- The item without its mark. -/
def CompanionReviewInboxItem.cleared (id : MediaId) (item : CompanionReviewInboxItem) :
    CompanionReviewInboxItem :=
  if item.mediaId = id then { item with unopened := false } else item

/-- What opening the run of an item does to the catalog: its mark and no other is cleared for the
actor, the counter is one less, others see what they saw, and no opened run goes back. -/
structure Opens (id : MediaId) (cat' : ReviewCatalog) : Prop where
  cleared : ∀ limit, 0 < limit → ∀ items, cat.Reads lib d view actor limit items →
    cat'.Reads lib d view actor limit (items.map (CompanionReviewInboxItem.cleared id))
  counted : cat'.unopenedCount view actor + 1 = cat.unopenedCount view actor
  others : ∀ other, other ≠ actor → ∀ view' limit cursor,
    cat'.listHistoryPage lib view' other limit cursor = cat.listHistoryPage lib view' other limit cursor
  forward : ∀ other medium r, cat.opened other medium = some r →
    ∃ r', cat'.opened other medium = some r' ∧ ∃ key key', cat.runOrderKey r = some key ∧
      cat'.runOrderKey r' = some key' ∧ key ≤ key'

/-- The inbox of one view is consistent. -/
def ReviewCatalog.Consistent : Prop :=
  ∀ limit, 0 < limit → ∃ items, cat.Reads lib d view actor limit items ∧
    (items.map CompanionReviewInboxItem.mediaId).Nodup ∧
    (∀ id, id ∈ items.map CompanionReviewInboxItem.mediaId ↔ cat.InView view actor id) ∧
    (items.Pairwise fun a b => b.place < a.place) ∧
    (∀ cursor, (cat.listHistoryPage lib view actor limit cursor).unopenedCount =
      items.countP CompanionReviewInboxItem.unopened) ∧
    ∀ item ∈ items, item.unopened = true → ∀ nowMs requireOwner,
      (view = .administrator → requireOwner = false) →
      ∃ runId, item.analysisRunId = some runId ∧ ∃ result cat',
        cat.markOpened actor item.mediaId runId nowMs requireOwner = .ok (result, cat') ∧
          result.unopened = false ∧ Opens lib d cat view actor item.mediaId cat'

end Consistency

section Codec
open PyJson PyStr

def InboxCursor.members (c : InboxCursor) : List (String × PyJson) :=
  [("v", .int 2), ("at_ms", .int c.activityAtMs), ("analyzed", .bool c.analyzed),
    ("id", .str (ofString c.sortId))]

def InboxCursor.payload (c : InboxCursor) : List (PyStr × PyJson) :=
  (inOrder c.members).map fun m => (ofString m.1, m.2)

theorem members_keys (c : InboxCursor) : (c.members.map Prod.fst).Nodup := by
  change ["v", "at_ms", "analyzed", "id"].Nodup
  decide

/-- A member of the payload is the one it was built with. -/
theorem payloadMember_payload (c : InboxCursor) (key : String) :
    payloadMember c.payload key = c.members.lookup key := by
  have hfield : c.payload.lookup (ofString key) = c.members.lookup key :=
    field_dict (members_keys c) key
  have hkeys : (c.payload.map Prod.fst).Nodup := by
    have horder : ((inOrder c.members).map Prod.fst).Nodup :=
      ((inOrder_perm c.members).map Prod.fst).nodup_iff.mpr (members_keys c)
    have hmap : c.payload.map Prod.fst = ((inOrder c.members).map Prod.fst).map ofString := by
      simp [InboxCursor.payload, Function.comp_def]
    rw [hmap]
    exact horder.map ofString_injective
  have hreversed : (c.payload.reverse.map Prod.fst).Nodup := by
    rw [List.map_reverse, List.nodup_reverse]
    exact hkeys
  rw [payloadMember, lookup_perm (List.reverse_perm _) hreversed, hfield]

theorem payload_fits {c : InboxCursor} (h : c.activityAtMs < 2 ^ 63) (nesting : Nat) :
    JsonReader.fits true (.obj c.payload) (nesting + 1) = true := by
  have hshaped : shaped true (dict c.members) (nesting + 1) = true := by
    apply shaped_dict (members_keys c)
    intro m hm
    simp only [InboxCursor.members, List.mem_cons, List.not_mem_nil, or_false] at hm
    obtain rfl | rfl | rfl | rfl := hm
    · rfl
    · rfl
    · rfl
    · exact shaped_text _ _
  have hwritable : writable (dict c.members) = true := by
    change membersWritable c.payload = true
    rw [membersWritable_iff]
    intro m hm
    obtain ⟨k, v, hmem, rfl⟩ := mem_dict.mp hm
    simp only [InboxCursor.members, List.mem_cons, List.not_mem_nil, or_false, Prod.mk.injEq] at hmem
    obtain ⟨-, rfl⟩ | ⟨-, rfl⟩ | ⟨-, rfl⟩ | ⟨-, rfl⟩ := hmem
    · exact (by decide : shortInt 2 = true)
    · exact decide_eq_true (short_of_fits h)
    · rfl
    · rfl
  change JsonReader.fits true (dict c.members) (nesting + 1) = true
  rw [fits_iff, hshaped, hwritable]
  rfl

theorem chars_ofChars (l : List Char) : chars? (ofChars l) = some l := by
  induction l with
  | nil => rfl
  | cons c rest ih =>
    change (chars? (ofChars rest)).map (c :: ·) = _
    rw [ih]
    rfl

/-- The cursor that a page names is read back. -/
theorem decode_encodeInboxCursor (d : Decoding) {c : InboxCursor} (hfits : c.activityAtMs < 2 ^ 63)
    (hid : isUuid4Text c.sortId = true) : decodeInboxCursor d (encodeInboxCursor c) = .ok c := by
  have hcarried : Base64.carried (d.nesting + 1) (encodeInboxCursor c).toList =
      some (.obj c.payload) := by
    rw [encodeInboxCursor, String.toList_ofList]
    exact Base64.carried_carry (payload_fits hfits d.nesting)
  have hlegacy : payloadKeys c.payload ["completed_at_ms", "id"] = false := by
    have hmissing : payloadMember c.payload "completed_at_ms" = none := by
      rw [payloadMember_payload]
      rfl
    simp [payloadKeys, hmissing]
  have hkeys : payloadKeys c.payload ["v", "at_ms", "analyzed", "id"] = true := by
    unfold payloadKeys
    rw [Bool.and_eq_true]
    constructor
    · simp only [payloadMember_payload]
      rfl
    · rw [List.all_eq_true]
      intro m hm
      obtain ⟨k, v, hmem, rfl⟩ := mem_dict.mp hm
      have hname : k ∈ ["v", "at_ms", "analyzed", "id"] :=
        List.mem_map_of_mem (f := Prod.fst) hmem
      exact decide_eq_true (List.mem_map_of_mem hname)
  have hversion : isVersionTwo d.isTwo (payloadMember c.payload "v") = true := by
    rw [payloadMember_payload]
    rfl
  have htime : cursorTimestamp (payloadMember c.payload "at_ms") = some c.activityAtMs := by
    rw [payloadMember_payload]
    change (if (c.activityAtMs : Int) < 0 then none else some (c.activityAtMs : Int).toNat) = _
    rw [if_neg (by omega)]
    rfl
  have hflag : cursorFlag (payloadMember c.payload "analyzed") = some c.analyzed := by
    rw [payloadMember_payload]
    rfl
  have hsort : cursorUuid (payloadMember c.payload "id") = some c.sortId := by
    rw [payloadMember_payload]
    change ((chars? (ofChars c.sortId.toList)).bind fun text =>
      if isUuid4Text (String.ofList text) then some (String.ofList text) else none) = _
    rw [chars_ofChars, Option.bind_some, String.ofList_toList, if_pos hid]
  unfold decodeInboxCursor
  rw [hcarried]
  simp only [hlegacy, Bool.false_eq_true, if_false, hkeys, hversion, Bool.and_self, if_true, htime,
    hflag, hsort]
  rfl

end Codec

section Rows
variable {cat : ReviewCatalog} {view : View} {actor : String}

theorem runKey_nodup : (cat.inboxRuns.map runKey).Nodup := by
  have hruns : (cat.runs.rows.map AnalysisRun.id).Nodup := cat.runs.nodup
  have hsome : cat.inboxRuns.Nodup := (hruns.of_map _).filter _
  apply hsome.map_on
  intro a ha b hb h
  have hid : a.id.value = b.id.value := congrArg (fun k => (ofLex (OrderDual.ofDual k)).2) h
  exact List.inj_on_of_nodup_map hruns (List.mem_of_mem_filter ha) (List.mem_of_mem_filter hb)
    (RunId.value_injective hid)

theorem mem_inboxRuns {r : AnalysisRun} : r ∈ cat.inboxRuns ↔
    r ∈ cat.runs.rows ∧ r.analyzedGeneric = true ∧ cat.notMovie r.mediaId = true := by
  simp [ReviewCatalog.inboxRuns]

theorem latest_inbox {r : AnalysisRun} (h : r ∈ cat.latest) : r ∈ cat.inboxRuns :=
  (mem_topRanked.mp h).1

theorem latest_unique {a b : AnalysisRun} (ha : a ∈ cat.latest) (hb : b ∈ cat.latest)
    (h : a.mediaId = b.mediaId) : a = b :=
  topRanked_unique runKey_nodup ha hb h

theorem latest_nodup : (cat.latest.map AnalysisRun.mediaId).Nodup := topRanked_nodup runKey_nodup

theorem viewRuns_latest {r : AnalysisRun} (h : r ∈ cat.viewRuns view actor) : r ∈ cat.latest := by
  cases view with
  | administrator => exact h
  | ownHistory => exact List.mem_of_mem_filter h

theorem viewRuns_nodup : ((cat.viewRuns view actor).map AnalysisRun.mediaId).Nodup := by
  cases view with
  | administrator => exact latest_nodup
  | ownHistory => exact (List.filter_sublist.map AnalysisRun.mediaId).nodup latest_nodup

theorem media_found {id : MediaId} (h : id ∈ cat.media.rows.map LogicalMedia.id) :
    ∃ medium, cat.media.find? id = some medium := by
  rw [← Option.ne_none_iff_exists']
  intro hnone
  exact Table.find?_none_iff.mp hnone h

theorem run_media {r : AnalysisRun} (h : r ∈ cat.latest) :
    ∃ medium, cat.media.find? r.mediaId = some medium :=
  media_found (cat.runs_media r (mem_inboxRuns.mp (latest_inbox h)).1)

theorem ownedAsset_some {asset : XAsset} {o : OwnedAsset} :
    cat.ownedAsset? actor asset = some o ↔ o.asset = asset ∧ o.asset.mediaId = some o.mediaId ∧
      cat.xPostClaims.find? o.asset.claimId = some o.claim ∧ o.asset.state = .cataloged ∧
      o.claim.createdByLoginKey = some actor ∧ o.claim.requestedContentCategory ≠ some .movie ∧
      cat.notMovie o.mediaId = true := by
  constructor
  · intro h
    unfold ReviewCatalog.ownedAsset? at h
    cases hmedia : asset.mediaId with
    | none => simp [hmedia] at h
    | some id =>
      cases hclaim : cat.xPostClaims.find? asset.claimId with
      | none => simp [hmedia, hclaim] at h
      | some claim =>
        simp only [hmedia, hclaim, Option.ite_none_right_eq_some, Option.some.injEq, Bool.and_eq_true,
          decide_eq_true_eq] at h
        obtain ⟨⟨⟨⟨hstate, hactor⟩, hcategory⟩, hmovie⟩, rfl⟩ := h
        exact ⟨rfl, hmedia, hclaim, hstate, hactor, hcategory, hmovie⟩
  · rintro ⟨rfl, hmedia, hclaim, hstate, hactor, hcategory, hmovie⟩
    simp [ReviewCatalog.ownedAsset?, hmedia, hclaim, hstate, hactor, hcategory, hmovie]

theorem mem_ownedAssets {o : OwnedAsset} : o ∈ cat.ownedAssets actor ↔
    o.asset ∈ cat.xAssets.rows ∧ o.asset.mediaId = some o.mediaId ∧
      cat.xPostClaims.find? o.asset.claimId = some o.claim ∧ o.asset.state = .cataloged ∧
      o.claim.createdByLoginKey = some actor ∧ o.claim.requestedContentCategory ≠ some .movie ∧
      cat.notMovie o.mediaId = true := by
  rw [ReviewCatalog.ownedAssets, List.mem_filterMap]
  constructor
  · rintro ⟨asset, hasset, h⟩
    obtain ⟨rfl, hrest⟩ := ownedAsset_some.mp h
    exact ⟨hasset, hrest⟩
  · rintro ⟨hasset, hrest⟩
    exact ⟨o.asset, hasset, ownedAsset_some.mpr ⟨rfl, hrest⟩⟩

theorem ownedAsset_ext {a b : OwnedAsset} (ha : a ∈ cat.ownedAssets actor)
    (hb : b ∈ cat.ownedAssets actor) (h : a.asset.id = b.asset.id) : a = b := by
  obtain ⟨hamem, hamedia, haclaim, -⟩ := mem_ownedAssets.mp ha
  obtain ⟨hbmem, hbmedia, hbclaim, -⟩ := mem_ownedAssets.mp hb
  have hasset : a.asset = b.asset := Table.eq_of_key hamem hbmem h
  rw [hasset] at hamedia haclaim
  obtain ⟨asset, id, claim⟩ := a
  obtain ⟨asset', id', claim'⟩ := b
  simp_all

theorem ownedAssets_nodup : (cat.ownedAssets actor).Nodup := by
  have hassets : cat.xAssets.rows.Nodup := List.Nodup.of_map _ cat.xAssets.nodup
  apply hassets.filterMap
  intro a b o ha hb
  rw [← (ownedAsset_some.mp ha).1, (ownedAsset_some.mp hb).1]

theorem assetKey_nodup (p : OwnedAsset → Bool) :
    (((cat.ownedAssets actor).filter p).map assetKey).Nodup := by
  apply (ownedAssets_nodup.filter p).map_on
  intro a ha b hb h
  have hid : a.asset.id = b.asset.id := congrArg (fun k => (ofLex (OrderDual.ofDual k)).2) h
  exact ownedAsset_ext (List.mem_of_mem_filter ha) (List.mem_of_mem_filter hb) hid

theorem owned_media {o : OwnedAsset} (h : o ∈ cat.ownedAssets actor) :
    ∃ medium, cat.media.find? o.mediaId = some medium := by
  obtain ⟨hmem, hmedia, -⟩ := mem_ownedAssets.mp h
  exact media_found (cat.assets_media o.asset hmem o.mediaId hmedia)

/-- Joined with what is found for each of them, rows keep their number and order. -/
theorem joined_map {ρ μ β γ : Type} {rows : List ρ} {medium? : ρ → Option μ} {build : ρ → μ → β}
    {f : β → γ} {g : ρ → γ} (hfound : ∀ r ∈ rows, ∃ m, medium? r = some m)
    (hf : ∀ r m, f (build r m) = g r) :
    (rows.filterMap fun r => (medium? r).map (build r)).map f = rows.map g := by
  induction rows with
  | nil => rfl
  | cons r rest ih =>
    obtain ⟨m, hm⟩ := hfound r List.mem_cons_self
    have hrest := ih fun other hother => hfound other (List.mem_cons_of_mem _ hother)
    rw [List.filterMap_cons_some (b := build r m) (by rw [hm]; rfl), List.map_cons, hrest, hf,
      List.map_cons]

theorem analyzedRows_media : (cat.analyzedRows (cat.viewRuns view actor)).map HistoryRow.mediaId =
    (cat.viewRuns view actor).map AnalysisRun.mediaId :=
  joined_map (fun _ hr => run_media (viewRuns_latest hr)) fun _ _ => rfl

/-- The owned assets that are pending. -/
def ReviewCatalog.pending (cat : ReviewCatalog) (actor : String) : List OwnedAsset :=
  topRanked OwnedAsset.mediaId assetKey
    ((cat.ownedAssets actor).filter fun o => cat.latest.all fun r => r.mediaId ≠ o.mediaId)

theorem mem_pending {o : OwnedAsset} (h : o ∈ cat.pending actor) :
    o ∈ cat.ownedAssets actor ∧ ∀ r ∈ cat.latest, r.mediaId ≠ o.mediaId := by
  have hmem := (mem_topRanked.mp h).1
  simpa [List.mem_filter] using hmem

theorem pendingRows_media : (cat.pendingRows actor).map HistoryRow.mediaId =
    (cat.pending actor).map OwnedAsset.mediaId :=
  joined_map (fun _ ho => owned_media (mem_pending ho).1) fun _ _ => rfl

theorem pending_nodup : ((cat.pending actor).map OwnedAsset.mediaId).Nodup :=
  topRanked_nodup (assetKey_nodup _)

theorem mem_analyzedRows {runs : List AnalysisRun} {row : HistoryRow} :
    row ∈ cat.analyzedRows runs ↔ ∃ r ∈ runs, ∃ medium, cat.media.find? r.mediaId = some medium ∧
      cat.analyzedRow r medium = row := by
  simp [ReviewCatalog.analyzedRows]

theorem mem_pendingRows {row : HistoryRow} :
    row ∈ cat.pendingRows actor ↔ ∃ o ∈ cat.pending actor, ∃ medium,
      cat.media.find? o.mediaId = some medium ∧ cat.pendingRow o medium = row := by
  simp [ReviewCatalog.pendingRows, ReviewCatalog.pending]

/-- A row of the history is that of a latest run, or of a pending asset. -/
theorem mem_historyRows {row : HistoryRow} (h : row ∈ cat.historyRows view actor) :
    row ∈ cat.analyzedRows (cat.viewRuns view actor) ∨ row ∈ cat.pendingRows actor := by
  cases view with
  | administrator => exact Or.inl h
  | ownHistory => exact List.mem_append.mp h

/-- No medium has two rows. -/
theorem historyRows_media_nodup :
    ((cat.historyRows view actor).map HistoryRow.mediaId).Nodup := by
  have hanalyzed : ((cat.analyzedRows (cat.viewRuns view actor)).map HistoryRow.mediaId).Nodup := by
    rw [analyzedRows_media]
    exact viewRuns_nodup
  cases view with
  | administrator => exact hanalyzed
  | ownHistory =>
    have hpending : ((cat.pendingRows actor).map HistoryRow.mediaId).Nodup := by
      rw [pendingRows_media]
      exact pending_nodup
    rw [ReviewCatalog.historyRows, List.map_append, List.nodup_append]
    refine ⟨hanalyzed, hpending, ?_⟩
    rw [analyzedRows_media, pendingRows_media]
    intro a ha b hb
    obtain ⟨r, hr, rfl⟩ := List.mem_map.mp ha
    obtain ⟨o, ho, rfl⟩ := List.mem_map.mp hb
    exact (mem_pending ho).2 r (viewRuns_latest hr)

theorem historyRows_eq {a b : HistoryRow} (ha : a ∈ cat.historyRows view actor)
    (hb : b ∈ cat.historyRows view actor) (h : a.mediaId = b.mediaId) : a = b :=
  List.inj_on_of_nodup_map historyRows_media_nodup ha hb h

theorem mediaId_value {a b : MediaId} (h : a.value = b.value) : a = b := by
  cases a
  cases b
  simpa using h

/-- A row's flag and identity name its medium. -/
theorem sortId_media {a b : HistoryRow} (ha : a ∈ cat.historyRows view actor)
    (hb : b ∈ cat.historyRows view actor) (hflag : a.analyzed = b.analyzed)
    (hsort : a.sortId = b.sortId) : a.mediaId = b.mediaId := by
  obtain ha | ha := mem_historyRows ha
  · obtain ⟨r, hr, medium, -, rfl⟩ := mem_analyzedRows.mp ha
    obtain hb | hb := mem_historyRows hb
    · obtain ⟨r', hr', medium', -, rfl⟩ := mem_analyzedRows.mp hb
      have hid : r.id = r'.id := RunId.value_injective hsort
      have hruns : ∀ r ∈ cat.viewRuns view actor, r ∈ cat.runs.rows := by
        intro r hr
        exact (mem_inboxRuns.mp (latest_inbox (viewRuns_latest hr))).1
      have heq : r = r' := Table.eq_of_key (hruns r hr) (hruns r' hr') hid
      rw [heq]
      rfl
    · obtain ⟨o, ho, medium', -, rfl⟩ := mem_pendingRows.mp hb
      cases hflag
  · obtain ⟨o, ho, medium, -, rfl⟩ := mem_pendingRows.mp ha
    obtain hb | hb := mem_historyRows hb
    · obtain ⟨r, hr, medium', -, rfl⟩ := mem_analyzedRows.mp hb
      cases hflag
    · obtain ⟨o', ho', medium', -, rfl⟩ := mem_pendingRows.mp hb
      exact mediaId_value hsort

theorem rowKey_nodup : ((cat.historyRows view actor).map rowKey).Nodup := by
  have hrows : (cat.historyRows view actor).Nodup := historyRows_media_nodup.of_map _
  apply hrows.map_on
  intro a ha b hb h
  have hplace : (a.activityAtMs, toLex (a.analyzed, a.sortId)) =
      (b.activityAtMs, toLex (b.analyzed, b.sortId)) :=
    congrArg (fun k => ofLex (OrderDual.ofDual k)) h
  have hrest : (a.analyzed, a.sortId) = (b.analyzed, b.sortId) :=
    congrArg (fun k => ofLex k.2) hplace
  exact historyRows_eq ha hb
    (sortId_media ha hb (congrArg Prod.fst hrest) (congrArg Prod.snd hrest))

/-- The media of the rows are those of the view. -/
theorem historyRows_view {id : MediaId} :
    id ∈ (cat.historyRows view actor).map HistoryRow.mediaId ↔ cat.InView view actor id := by
  cases view with
  | administrator =>
    change id ∈ (cat.analyzedRows (cat.viewRuns .administrator actor)).map HistoryRow.mediaId ↔ _
    rw [analyzedRows_media, List.mem_map]
    constructor
    · rintro ⟨r, hr, rfl⟩
      exact ⟨r, latest_inbox hr, rfl⟩
    · rintro ⟨r, hr, rfl⟩
      exact exists_topRanked hr
  | ownHistory =>
    have howns : cat.owns actor id = true ↔ ∃ o ∈ cat.ownedAssets actor, o.mediaId = id := by
      simp [ReviewCatalog.owns]
    change _ ↔ cat.owns actor id = true
    rw [ReviewCatalog.historyRows, List.map_append, List.mem_append, analyzedRows_media,
      pendingRows_media, List.mem_map, List.mem_map]
    constructor
    · rintro (⟨r, hr, rfl⟩ | ⟨o, ho, rfl⟩)
      · exact (List.mem_filter.mp hr).2
      · exact howns.mpr ⟨o, (mem_pending ho).1, rfl⟩
    · intro h
      obtain ⟨o, ho, rfl⟩ := howns.mp h
      by_cases hlatest : ∃ r ∈ cat.latest, r.mediaId = o.mediaId
      · obtain ⟨r, hr, hmedia⟩ := hlatest
        exact Or.inl ⟨r, List.mem_filter.mpr ⟨hr, by rw [hmedia]; exact h⟩, hmedia⟩
      · have hmem : o ∈ (cat.ownedAssets actor).filter
            fun o => cat.latest.all fun r => r.mediaId ≠ o.mediaId := by
          rw [List.mem_filter]
          refine ⟨ho, ?_⟩
          rw [List.all_eq_true]
          intro r hr
          exact decide_eq_true fun hsame => hlatest ⟨r, hr, hsame⟩
        exact Or.inr (exists_topRanked hmem)

end Rows

section Reading
variable {lib : Metadata.Library} {d : Decoding} {cat : ReviewCatalog} {view : View} {actor : String}

/-- The item of a row, as its actor sees it. -/
def ReviewCatalog.item (cat : ReviewCatalog) (lib : Metadata.Library) (actor : String)
    (row : HistoryRow) : CompanionReviewInboxItem :=
  inboxItem lib row (cat.opened actor row.mediaId)

def HistoryRow.cursor (row : HistoryRow) : InboxCursor :=
  ⟨row.activityAtMs, row.analyzed, row.sortId⟩

/-- A key as a cursor. -/
def keyCursor (k : (Nat ×ₗ Bool ×ₗ String)ᵒᵈ) : InboxCursor :=
  let place := ofLex (OrderDual.ofDual k)
  ⟨place.1, (ofLex place.2).1, (ofLex place.2).2⟩

@[simp] theorem keyCursor_rowKey (row : HistoryRow) : keyCursor (rowKey row) = row.cursor := rfl

/-- What the rows of a history have in common. -/
structure HistoryRow.Proper (row : HistoryRow) : Prop where
  fits : row.activityAtMs < 2 ^ 63
  canonical : isUuid4Text row.sortId = true
  analyzed : row.analyzed = true → ∃ runId, row.analysisRunId = some runId ∧
    row.sortId = runId.value ∧ row.completedAtMs = some row.activityAtMs
  pending : row.analyzed = false → row.sortId = row.mediaId.value ∧
    row.activityAtMs = row.createdAtMs

theorem analyzedGeneric_completed {r : AnalysisRun} (h : r.analyzedGeneric = true) :
    ∃ ms, r.completedAtMs = some ms := by
  simp only [AnalysisRun.analyzedGeneric, Bool.and_eq_true] at h
  exact Option.isSome_iff_exists.mp h.2

theorem row_proper {row : HistoryRow} (h : row ∈ cat.historyRows view actor) : row.Proper := by
  obtain h | h := mem_historyRows h
  · obtain ⟨r, hr, medium, -, rfl⟩ := mem_analyzedRows.mp h
    have hgeneric := (mem_inboxRuns.mp (latest_inbox (viewRuns_latest hr))).2.1
    obtain ⟨ms, hms⟩ := analyzedGeneric_completed hgeneric
    have hactivity : (cat.analyzedRow r medium).activityAtMs = ms := by
      change r.completedAtMs.getD 0 = ms
      rw [hms]
      rfl
    constructor
    · rw [hactivity]
      exact r.completed_fits ms hms
    · exact r.id.canonical
    · intro _
      refine ⟨r.id, rfl, rfl, ?_⟩
      rw [hactivity]
      exact hms
    · intro hpending
      cases hpending
  · obtain ⟨o, ho, medium, -, rfl⟩ := mem_pendingRows.mp h
    constructor
    · exact medium.created_fits
    · exact o.mediaId.canonical
    · intro hanalyzed
      cases hanalyzed
    · intro _
      exact ⟨rfl, rfl⟩

/-- The cursor taken of an item is the place of its row. -/
theorem item_cursor {row : HistoryRow} (h : row.Proper) : (cat.item lib actor row).cursor = row.cursor := by
  cases hanalyzed : row.analyzed with
  | true =>
    obtain ⟨runId, hrun, hsort, hcompleted⟩ := h.analyzed hanalyzed
    simp [CompanionReviewInboxItem.cursor, ReviewCatalog.item, inboxItem, HistoryRow.cursor, hanalyzed,
      hrun, hsort, hcompleted]
  | false =>
    obtain ⟨hsort, hactivity⟩ := h.pending hanalyzed
    simp [CompanionReviewInboxItem.cursor, ReviewCatalog.item, inboxItem, HistoryRow.cursor, hanalyzed,
      hsort, hactivity]

theorem item_place {row : HistoryRow} (h : row.Proper) :
    (cat.item lib actor row).place = OrderDual.ofDual (rowKey row) := by
  rw [CompanionReviewInboxItem.place, item_cursor h]
  rfl

theorem toNat_lt {a b : Bool} : a.toNat < b.toNat ↔ a < b := by
  cases a <;> cases b <;> decide

theorem toNat_eq {a b : Bool} : a.toNat = b.toNat ↔ a = b := by
  cases a <;> cases b <;> decide

/-- The rows behind a cursor are those that come after its key. -/
theorem behind_key (k : (Nat ×ₗ Bool ×ₗ String)ᵒᵈ) (row : HistoryRow) :
    behindInboxCursor (some (keyCursor k)) row = before (some k) (rowKey row) := by
  rw [Bool.eq_iff_iff, before_some]
  change _ ↔ toLex (row.activityAtMs, toLex (row.analyzed, row.sortId)) <
    toLex ((keyCursor k).activityAtMs, toLex ((keyCursor k).analyzed, (keyCursor k).sortId))
  rw [Prod.Lex.toLex_lt_toLex, Prod.Lex.toLex_lt_toLex]
  simp only [behindInboxCursor, Bool.or_eq_true, Bool.and_eq_true, decide_eq_true_eq, toNat_lt,
    toNat_eq]
  tauto

/-- A page is a page of the rows of the history by their place. -/
theorem listHistoryPage_keyset (lib : Metadata.Library) (cat : ReviewCatalog) (view : View)
    (actor : String) (limit : Nat) (cursor : Option (Nat ×ₗ Bool ×ₗ String)ᵒᵈ) :
    (cat.listHistoryPage lib view actor limit (cursor.map keyCursor)).items =
        (keysetPage rowKey limit cursor (cat.historyRows view actor)).1.map (cat.item lib actor) ∧
      (cat.listHistoryPage lib view actor limit (cursor.map keyCursor)).nextCursor =
        (keysetPage rowKey limit cursor (cat.historyRows view actor)).2.map fun k =>
          encodeInboxCursor (keyCursor k) := by
  have hbehind : (cat.historyRows view actor).filter (behindInboxCursor (cursor.map keyCursor)) =
      (cat.historyRows view actor).filter fun row => true && before cursor (rowKey row) := by
    apply List.filter_congr
    intro row _
    cases cursor with
    | none => rfl
    | some k => simpa using behind_key k row
  have hproper : ∀ n, ∀ row ∈ (page rowKey (fun _ => true) (limit + 1) cursor
      (cat.historyRows view actor)).take n, row.Proper := by
    intro n row hrow
    exact row_proper (mem_page (List.mem_of_mem_take hrow)).1
  have hpage : cat.listHistoryPage lib view actor limit (cursor.map keyCursor) =
      let rows := page rowKey (fun _ => true) (limit + 1) cursor (cat.historyRows view actor)
      let items := (rows.take limit).map (cat.item lib actor)
      { items := items
        unopenedCount := cat.unopenedCount view actor
        nextCursor :=
          if limit < rows.length then items.getLast?.map fun last => encodeInboxCursor last.cursor
          else none } := by
    unfold ReviewCatalog.listHistoryPage
    rw [hbehind]
    rfl
  rw [hpage, keysetPage]
  generalize page rowKey (fun _ => true) (limit + 1) cursor (cat.historyRows view actor) = rows at *
  by_cases hmore : limit < rows.length
  · simp only [if_pos hmore]
    refine ⟨trivial, ?_⟩
    rw [List.getLast?_map]
    cases hlast : (rows.take limit).getLast? with
    | none => rfl
    | some row =>
      have hrow := hproper limit row (List.mem_of_getLast? hlast)
      simp [item_cursor hrow]
  · simp only [if_neg hmore]
    rw [List.take_of_length_le (by omega)]
    exact ⟨rfl, rfl⟩

/-- Following the cursors reads every row of the history once, in the order of their places. -/
theorem reads_history {limit : Nat} (hlimit : 0 < limit) :
    cat.Reads lib d view actor limit
      ((listing rowKey (cat.historyRows view actor)).map (cat.item lib actor)) := by
  have hwalk : Walk (cat.inboxPage lib d view actor limit)
      (Option.map (fun k => encodeInboxCursor (keyCursor k)) none)
      ((ahead rowKey none (cat.historyRows view actor)).map (cat.item lib actor)) := by
    apply keyset_walk rowKey_nodup hlimit
    · intro cursor hcursor
      obtain ⟨hitems, hnext⟩ := listHistoryPage_keyset lib cat view actor limit cursor
      cases cursor with
      | none =>
        simp only [Option.map_none] at hitems hnext
        simp only [Option.map_none, ReviewCatalog.inboxPage, hitems, hnext]
      | some k =>
        obtain ⟨row, hrow, rfl⟩ := List.mem_map.mp (hcursor k rfl)
        have hproper := row_proper hrow
        have hdecoded : decodeInboxCursor d (encodeInboxCursor row.cursor) = .ok row.cursor :=
          decode_encodeInboxCursor d hproper.fits hproper.canonical
        simp only [Option.map_some, keyCursor_rowKey] at hitems hnext
        simp only [Option.map_some, keyCursor_rowKey, ReviewCatalog.inboxPage, hdecoded, Except.map,
          hitems, hnext]
    · simp
  rwa [ahead_none] at hwalk

theorem reads_iff {limit : Nat} (hlimit : 0 < limit) {items : List CompanionReviewInboxItem} :
    cat.Reads lib d view actor limit items ↔
      items = (listing rowKey (cat.historyRows view actor)).map (cat.item lib actor) := by
  constructor
  · intro h
    exact Walk.unique h (reads_history hlimit)
  · rintro rfl
    exact reads_history hlimit

theorem items_media : ((listing rowKey (cat.historyRows view actor)).map (cat.item lib actor)).map
      CompanionReviewInboxItem.mediaId =
    (listing rowKey (cat.historyRows view actor)).map HistoryRow.mediaId := by
  rw [List.map_map]
  rfl

/-- The marks that the items carry are those that are counted. -/
theorem items_unopened : ((listing rowKey (cat.historyRows view actor)).map
      (cat.item lib actor)).countP CompanionReviewInboxItem.unopened =
    cat.unopenedCount view actor := by
  have hperm := (List.perm_insertionSort (fun a b : HistoryRow => rowKey a ≤ rowKey b)
    (cat.historyRows view actor)).map (cat.item lib actor)
  rw [listing, hperm.countP_eq, List.countP_map]
  have hanalyzed : ∀ runs : List AnalysisRun, (∀ r ∈ runs, r ∈ cat.latest) →
      (cat.analyzedRows runs).countP (CompanionReviewInboxItem.unopened ∘ cat.item lib actor) =
        runs.countP fun r => cat.opened actor r.mediaId ≠ some r.id := by
    intro runs hruns
    have hmarks : (cat.analyzedRows runs).map (CompanionReviewInboxItem.unopened ∘ cat.item lib actor) =
        runs.map fun r => decide (cat.opened actor r.mediaId ≠ some r.id) := by
      apply joined_map
      · intro r hr
        exact run_media (hruns r hr)
      · intro r m
        simp [ReviewCatalog.item, inboxItem, ReviewCatalog.analyzedRow]
    have hcount := congrArg (List.countP id) hmarks
    rw [List.countP_map, List.countP_map] at hcount
    exact hcount
  have hlatest : ∀ r ∈ cat.viewRuns view actor, r ∈ cat.latest := fun r hr => viewRuns_latest hr
  cases view with
  | administrator => exact hanalyzed _ hlatest
  | ownHistory =>
    have hpending : (cat.pendingRows actor).countP
        (CompanionReviewInboxItem.unopened ∘ cat.item lib actor) = 0 := by
      rw [List.countP_eq_zero]
      intro row hrow
      obtain ⟨o, -, medium, -, rfl⟩ := mem_pendingRows.mp hrow
      simp [ReviewCatalog.item, inboxItem, ReviewCatalog.pendingRow]
    rw [ReviewCatalog.historyRows, List.countP_append, hpending, Nat.add_zero]
    exact hanalyzed _ hlatest

end Reading
section Opened
variable {lib : Metadata.Library} {d : Decoding} {cat : ReviewCatalog} {view : View} {actor : String}
  {r : AnalysisRun}

theorem runOrderKey_run (hr : r ∈ cat.runs.rows) (hgeneric : r.analyzedGeneric = true) :
    cat.runOrderKey r.id = some r.place := by
  obtain ⟨ms, hms⟩ := analyzedGeneric_completed hgeneric
  have hfound : cat.runs.find? r.id = some r := Table.mem_find? hr
  simp [ReviewCatalog.runOrderKey, hfound, hms, AnalysisRun.place]

/-- The opened run of a medium is not after its latest one. -/
theorem opened_place (hr : r ∈ cat.latest) {other : String} {runId : RunId}
    (h : cat.opened other r.mediaId = some runId) :
    ∃ key, cat.runOrderKey runId = some key ∧ key ≤ r.place := by
  obtain ⟨s, hfound, rfl⟩ := Option.map_eq_some_iff.mp h
  obtain ⟨run, hrun, hid, hmedia, hgeneric⟩ := cat.opened_run s (Table.find?_mem hfound)
  have hsame : run.mediaId = r.mediaId := by
    rw [hmedia]
    exact congrArg Prod.snd (Table.find?_key hfound)
  have hmovie : cat.notMovie run.mediaId = true := by
    rw [hsame]
    exact (mem_inboxRuns.mp (latest_inbox hr)).2.2
  have hinbox : run ∈ cat.inboxRuns := mem_inboxRuns.mpr ⟨hrun, hgeneric, hmovie⟩
  refine ⟨run.place, ?_, ?_⟩
  · rw [← hid]
    exact runOrderKey_run hrun hgeneric
  · exact OrderDual.toDual_le_toDual.mp ((mem_topRanked.mp hr).2 run hinbox hsame)

theorem keepsCurrent_latest (hr : r ∈ cat.latest) : cat.keepsCurrent actor r = none := by
  rw [ReviewCatalog.keepsCurrent, Option.filter_eq_none_iff]
  intro current hcurrent
  have hopened : cat.opened actor r.mediaId = some current.openedRunId := by
    rw [ReviewCatalog.opened, hcurrent]
    rfl
  obtain ⟨key, hkey, hle⟩ := opened_place hr hopened
  rw [hkey]
  simpa using hle

theorem latestRunId_latest (hr : r ∈ cat.latest) : cat.latestRunId r.mediaId = some r.id := by
  rw [ReviewCatalog.latestRunId]
  cases hfound : cat.latest.find? fun other => other.mediaId = r.mediaId with
  | none => exact absurd (by simp) (List.find?_eq_none.mp hfound r hr)
  | some found =>
    have hsame : found.mediaId = r.mediaId := by simpa using List.find?_some hfound
    rw [latest_unique (List.mem_of_find?_eq_some hfound) hr hsame]
    rfl

theorem owns_catalogedX {id : MediaId} (h : cat.owns actor id = true) :
    cat.ownsCatalogedX actor id = true := by
  obtain ⟨o, ho, hid⟩ := List.any_eq_true.mp h
  obtain ⟨hasset, hmedia, hclaim, hstate, hactor, -⟩ := mem_ownedAssets.mp ho
  rw [ReviewCatalog.ownsCatalogedX, List.any_eq_true]
  refine ⟨o.asset, hasset, ?_⟩
  have hmedium : o.mediaId = id := of_decide_eq_true hid
  simp [hmedia, hmedium, hstate, hclaim, hactor]

theorem requireEligibleRun_run (hr : r ∈ cat.inboxRuns)
    (hschema : r.resultSchemaVersion = some Analysis.resultSchemaVersion) :
    cat.requireEligibleRun r.mediaId r.id = .ok r := by
  obtain ⟨hmem, hgeneric, hmovie⟩ := mem_inboxRuns.mp hr
  have hfound : cat.runs.find? r.id = some r := Table.mem_find? hmem
  simp [ReviewCatalog.requireEligibleRun, hfound, hgeneric, hmovie, hschema]

theorem requireEligibleRun_other (hr : r ∈ cat.inboxRuns)
    (hschema : r.resultSchemaVersion ≠ some Analysis.resultSchemaVersion) :
    cat.requireEligibleRun r.mediaId r.id = .error .runNotEligible := by
  have hfound : cat.runs.find? r.id = some r := Table.mem_find? (mem_inboxRuns.mp hr).1
  simp [ReviewCatalog.requireEligibleRun, hfound, hschema]

/-- Nothing but the run's schema version stands before the opening of a latest run. -/
theorem markOpened_run (hr : r ∈ cat.viewRuns view actor) {requireOwner : Bool}
    (howner : view = .administrator → requireOwner = false) :
    (require (!requireOwner || cat.ownsCatalogedX actor r.mediaId) Refusal.mediaNotFound = .ok ()) ∧
      cat.requireNonMovie r.mediaId = .ok () := by
  have hlatest := viewRuns_latest hr
  have howns : (!requireOwner || cat.ownsCatalogedX actor r.mediaId) = true := by
    cases view with
    | administrator =>
      rw [howner rfl]
      rfl
    | ownHistory =>
      rw [owns_catalogedX (List.mem_filter.mp hr).2]
      simp
  obtain ⟨medium, hmedium⟩ := run_media hlatest
  have hmovie := (mem_inboxRuns.mp (latest_inbox hlatest)).2.2
  rw [howns]
  refine ⟨rfl, ?_⟩
  simp [ReviewCatalog.requireNonMovie, hmedium, hmovie, require]
  rfl

theorem markOpened_refused (hr : r ∈ cat.viewRuns view actor) (nowMs : Nat) {requireOwner : Bool}
    (howner : view = .administrator → requireOwner = false)
    (hschema : r.resultSchemaVersion ≠ some Analysis.resultSchemaVersion) :
    cat.markOpened actor r.mediaId r.id nowMs requireOwner = .error .runNotEligible := by
  obtain ⟨howns, hmovie⟩ := markOpened_run hr howner
  have hrefused := requireEligibleRun_other (latest_inbox (viewRuns_latest hr)) hschema
  unfold ReviewCatalog.markOpened
  rw [howns, hmovie]
  change (match h : cat.requireEligibleRun r.mediaId r.id with
    | .error e => _
    | .ok requested => _) = _
  split
  · rename_i e h
    rw [hrefused] at h
    cases h
    rfl
  · rename_i requested h
    rw [hrefused] at h
    cases h

theorem markOpened_latest (hr : r ∈ cat.viewRuns view actor) (nowMs : Nat) {requireOwner : Bool}
    (howner : view = .administrator → requireOwner = false)
    (hschema : r.resultSchemaVersion = some Analysis.resultSchemaVersion) :
    ∃ hmem hgeneric, cat.markOpened actor r.mediaId r.id nowMs requireOwner =
      .ok (⟨r.mediaId, r.id, nowMs, false⟩, cat.upsertOpenState actor r nowMs hmem hgeneric) := by
  have hlatest := viewRuns_latest hr
  obtain ⟨hmem, hgeneric, -⟩ := mem_inboxRuns.mp (latest_inbox hlatest)
  obtain ⟨howns, hmovie⟩ := markOpened_run hr howner
  have heligible := requireEligibleRun_run (latest_inbox hlatest) hschema
  refine ⟨hmem, hgeneric, ?_⟩
  unfold ReviewCatalog.markOpened
  rw [howns, hmovie]
  change (match h : cat.requireEligibleRun r.mediaId r.id with
    | .error e => _
    | .ok requested => _) = _
  split
  · rename_i e h
    rw [heligible] at h
    cases h
  · rename_i requested h
    have hsame : r = requested := Except.ok.inj (heligible.symm.trans h)
    subst hsame
    rw [keepsCurrent_latest hlatest]
    simp [latestRunId_latest hlatest]

theorem find_openRows {s : OpenState} {rows : List OpenState} (key : String × MediaId) :
    (openRows s rows).find? (fun other => other.key = key) =
      if s.key = key then some s else rows.find? fun other => other.key = key := by
  rw [openRows, List.find?_cons]
  by_cases hkey : s.key = key
  · simp [hkey]
  · rw [if_neg hkey, decide_eq_false hkey]
    simp only [List.find?_filter]
    congr 1
    funext other
    by_cases hother : other.key = key
    · simp [hother, Ne.symm hkey]
    · simp [hother]

variable {hmem : r ∈ cat.runs.rows} {hgeneric : r.analyzedGeneric = true} {nowMs : Nat}

/-- What is opened after an opening: the run at its place, and everywhere else what was. -/
theorem opened_upsert (other : String) (id : MediaId) :
    (cat.upsertOpenState actor r nowMs hmem hgeneric).opened other id =
      if (actor, r.mediaId) = (other, id) then some r.id else cat.opened other id := by
  change ((openRows ⟨actor, r.mediaId, r.id, nowMs⟩ cat.openStates.rows).find? _).map _ = _
  rw [find_openRows]
  change Option.map _ (if (actor, r.mediaId) = (other, id) then _ else _) = _
  by_cases hplace : (actor, r.mediaId) = (other, id)
  · rw [if_pos hplace, if_pos hplace]
    rfl
  · rw [if_neg hplace, if_neg hplace]
    rfl

theorem historyRows_upsert (view : View) (other : String) :
    (cat.upsertOpenState actor r nowMs hmem hgeneric).historyRows view other =
      cat.historyRows view other := rfl

/-- The items of a view after an opening: one mark is cleared. -/
theorem item_upsert {row : HistoryRow} (hr : r ∈ cat.viewRuns view actor)
    (hrow : row ∈ cat.historyRows view actor) :
    (cat.upsertOpenState actor r nowMs hmem hgeneric).item lib actor row =
      (cat.item lib actor row).cleared r.mediaId := by
  unfold ReviewCatalog.item
  rw [opened_upsert]
  by_cases hmedia : row.mediaId = r.mediaId
  · have hrun : ∃ medium, cat.media.find? r.mediaId = some medium ∧
        cat.analyzedRow r medium ∈ cat.historyRows view actor := by
      obtain ⟨medium, hmedium⟩ := run_media (viewRuns_latest hr)
      have hanalyzed : cat.analyzedRow r medium ∈ cat.analyzedRows (cat.viewRuns view actor) :=
        mem_analyzedRows.mpr ⟨r, hr, medium, hmedium, rfl⟩
      refine ⟨medium, hmedium, ?_⟩
      cases view with
      | administrator => exact hanalyzed
      | ownHistory => exact List.mem_append_left _ hanalyzed
    obtain ⟨medium, -, hin⟩ := hrun
    have hsame : row = cat.analyzedRow r medium := historyRows_eq hrow hin hmedia
    subst hsame
    simp [CompanionReviewInboxItem.cleared, inboxItem, ReviewCatalog.analyzedRow]
  · simp [CompanionReviewInboxItem.cleared, inboxItem, hmedia, Ne.symm hmedia]

/-- The counter goes down by one. -/
theorem unopened_upsert (hr : r ∈ cat.viewRuns view actor)
    (hunopened : cat.opened actor r.mediaId ≠ some r.id) :
    (cat.upsertOpenState actor r nowMs hmem hgeneric).unopenedCount view actor + 1 =
      cat.unopenedCount view actor := by
  have hnodup : (cat.viewRuns view actor).Nodup := viewRuns_nodup.of_map _
  have hunique : ∀ other ∈ cat.viewRuns view actor, other.mediaId = r.mediaId → other = r :=
    fun other hother h => latest_unique (viewRuns_latest hother) (viewRuns_latest hr) h
  change (cat.viewRuns view actor).countP _ + 1 = (cat.viewRuns view actor).countP _
  have hcount : ∀ runs : List AnalysisRun, runs.Nodup → r ∈ runs →
      (∀ other ∈ runs, other.mediaId = r.mediaId → other = r) →
      (runs.countP fun run =>
        (cat.upsertOpenState actor r nowMs hmem hgeneric).opened actor run.mediaId ≠ some run.id) + 1 =
        runs.countP fun run => cat.opened actor run.mediaId ≠ some run.id := by
    intro runs hruns hin hsingle
    obtain ⟨front, back, rfl⟩ := List.append_of_mem hin
    have hdistinct : ∀ run ∈ front ++ back, run.mediaId ≠ r.mediaId := by
      intro run hrun hmedia
      have hrest : run ∈ front ++ r :: back := by
        rw [List.mem_append] at hrun ⊢
        exact hrun.imp_right (List.mem_cons_of_mem _)
      obtain rfl := hsingle run hrest hmedia
      have hout : run ∉ front ++ back := (List.nodup_middle.mp hruns).notMem
      exact hout hrun
    have hkept : ∀ run ∈ front ++ back,
        (cat.upsertOpenState actor r nowMs hmem hgeneric).opened actor run.mediaId =
          cat.opened actor run.mediaId := by
      intro run hrun
      rw [opened_upsert, if_neg]
      intro h
      exact hdistinct run hrun (congrArg Prod.snd h).symm
    have hfront : ∀ part : List AnalysisRun, (∀ run ∈ part, run ∈ front ++ back) →
        (part.countP fun run =>
          (cat.upsertOpenState actor r nowMs hmem hgeneric).opened actor run.mediaId ≠ some run.id) =
          part.countP fun run => cat.opened actor run.mediaId ≠ some run.id := by
      intro part hpart
      apply List.countP_congr
      intro run hrun
      rw [hkept run (hpart run hrun)]
    have hcleared : (cat.upsertOpenState actor r nowMs hmem hgeneric).opened actor r.mediaId =
        some r.id := by
      rw [opened_upsert, if_pos rfl]
    rw [List.countP_append, List.countP_append, List.countP_cons, List.countP_cons,
      hfront front fun run hrun => List.mem_append_left _ hrun,
      hfront back fun run hrun => List.mem_append_right _ hrun]
    simp [hcleared, hunopened]
    omega
  exact hcount _ hnodup hr hunique

/-- Opening the latest run of an item whose mark is set does what an opening is for. -/
theorem opens_upsert (hr : r ∈ cat.viewRuns view actor)
    (hunopened : cat.opened actor r.mediaId ≠ some r.id) :
    Opens lib d cat view actor r.mediaId (cat.upsertOpenState actor r nowMs hmem hgeneric) := by
  constructor
  · intro limit hlimit items hitems
    have hlisting := (reads_iff hlimit).mp hitems
    rw [reads_iff hlimit, hlisting, historyRows_upsert, List.map_map]
    apply List.map_congr_left
    intro row hrow
    exact (item_upsert hr (mem_listing.mp hrow)).symm
  · exact unopened_upsert hr hunopened
  · intro other hother view' limit cursor
    have hsame : ∀ id, (cat.upsertOpenState actor r nowMs hmem hgeneric).opened other id =
        cat.opened other id := by
      intro id
      rw [opened_upsert, if_neg]
      intro h
      exact hother (congrArg Prod.fst h).symm
    have hcount : (cat.upsertOpenState actor r nowMs hmem hgeneric).unopenedCount view' other =
        cat.unopenedCount view' other := by
      change (cat.viewRuns view' other).countP _ = (cat.viewRuns view' other).countP _
      apply List.countP_congr
      intro run _
      rw [hsame]
    unfold ReviewCatalog.listHistoryPage
    rw [historyRows_upsert, hcount]
    simp only [hsame]
  · intro other medium runId hopened
    have hkeys : ∀ run, (cat.upsertOpenState actor r nowMs hmem hgeneric).runOrderKey run =
        cat.runOrderKey run := fun _ => rfl
    rw [opened_upsert]
    by_cases hplace : (actor, r.mediaId) = (other, medium)
    · obtain ⟨rfl, rfl⟩ := Prod.mk.inj hplace
      obtain ⟨key, hkey, hle⟩ := opened_place (viewRuns_latest hr) hopened
      rw [if_pos rfl]
      exact ⟨r.id, rfl, key, r.place, hkey, by rw [hkeys]; exact runOrderKey_run hmem hgeneric, hle⟩
    · obtain ⟨s, hfound, rfl⟩ := Option.map_eq_some_iff.mp hopened
      obtain ⟨run, hrun, hid, -, hfinished⟩ := cat.opened_run s (Table.find?_mem hfound)
      have hkey : cat.runOrderKey s.openedRunId = some run.place := by
        rw [← hid]
        exact runOrderKey_run hrun hfinished
      rw [if_neg hplace]
      exact ⟨s.openedRunId, hopened, run.place, run.place, hkey, hkey, le_rfl⟩

end Opened

section Consistent
variable {lib : Metadata.Library} {d : Decoding} {cat : ReviewCatalog} {view : View} {actor : String}

/-- An item with a mark is that of a latest run that its actor has not opened. -/
theorem unopened_item {row : HistoryRow} (hrow : row ∈ cat.historyRows view actor)
    (h : (cat.item lib actor row).unopened = true) :
    ∃ r ∈ cat.viewRuns view actor, cat.opened actor r.mediaId ≠ some r.id ∧
      (cat.item lib actor row).mediaId = r.mediaId ∧
      (cat.item lib actor row).analysisRunId = some r.id := by
  obtain hrow | hrow := mem_historyRows hrow
  · obtain ⟨r, hr, medium, -, rfl⟩ := mem_analyzedRows.mp hrow
    have hmark : cat.opened actor r.mediaId ≠ some r.id := of_decide_eq_true h
    exact ⟨r, hr, hmark, rfl, rfl⟩
  · obtain ⟨o, -, medium, -, rfl⟩ := mem_pendingRows.mp hrow
    simp [ReviewCatalog.item, inboxItem, ReviewCatalog.pendingRow] at h

/-- A latest run that its actor has not opened has its item, with a mark. -/
theorem item_unopened (lib : Metadata.Library) {r : AnalysisRun} (hr : r ∈ cat.viewRuns view actor)
    (h : cat.opened actor r.mediaId ≠ some r.id) :
    ∃ row ∈ cat.historyRows view actor, (cat.item lib actor row).unopened = true ∧
      (cat.item lib actor row).mediaId = r.mediaId ∧
      (cat.item lib actor row).analysisRunId = some r.id := by
  obtain ⟨medium, hmedium⟩ := run_media (viewRuns_latest hr)
  have hanalyzed : cat.analyzedRow r medium ∈ cat.analyzedRows (cat.viewRuns view actor) :=
    mem_analyzedRows.mpr ⟨r, hr, medium, hmedium, rfl⟩
  refine ⟨cat.analyzedRow r medium, ?_, ?_, rfl, rfl⟩
  · cases view with
    | administrator => exact hanalyzed
    | ownHistory => exact List.mem_append_left _ hanalyzed
  · exact decide_eq_true h

/-- Where an inbox is consistent, its latest runs can be opened. -/
theorem consistent_schema (h : cat.Consistent lib d view actor) {r : AnalysisRun}
    (hr : r ∈ cat.viewRuns view actor) (hmark : cat.opened actor r.mediaId ≠ some r.id) :
    r.resultSchemaVersion = some Analysis.resultSchemaVersion := by
  obtain ⟨items, hreads, -, -, -, -, hopen⟩ := h 1 one_pos
  obtain rfl := (reads_iff one_pos).mp hreads
  obtain ⟨row, hrow, hunopened, hmedia, hrun⟩ := item_unopened lib hr hmark
  have hitem : cat.item lib actor row ∈
      (listing rowKey (cat.historyRows view actor)).map (cat.item lib actor) :=
    List.mem_map_of_mem (mem_listing.mpr hrow)
  obtain ⟨runId, hsome, result, cat', hok, -⟩ := hopen _ hitem hunopened 0 false fun _ => rfl
  rw [hrun] at hsome
  obtain rfl := Option.some.inj hsome
  by_contra hschema
  have hrefused : cat.markOpened actor r.mediaId r.id 0 false = .error .runNotEligible :=
    markOpened_refused hr 0 (fun _ => rfl) hschema
  rw [hmedia, hrefused] at hok
  cases hok

/-- The inbox of a view is consistent when, and only when, every latest run in it that the actor
has not opened has the result schema version that opening asks for: the list and the counter ask
for none. -/
theorem inbox_consistent_iff (lib : Metadata.Library) (d : Decoding) (cat : ReviewCatalog)
    (view : View) (actor : String) : cat.Consistent lib d view actor ↔
      ∀ r ∈ cat.viewRuns view actor, cat.opened actor r.mediaId ≠ some r.id →
        r.resultSchemaVersion = some Analysis.resultSchemaVersion := by
  constructor
  · intro h r hr hmark
    exact consistent_schema h hr hmark
  · intro h limit hlimit
    have hascending : (listing rowKey (cat.historyRows view actor)).Pairwise
        fun a b => rowKey a < rowKey b := listing_ascending rowKey_nodup
    refine ⟨_, reads_history hlimit, ?_, ?_, ?_, ?_, ?_⟩
    · rw [items_media]
      exact ((List.perm_insertionSort _ _).map _).nodup_iff.mpr historyRows_media_nodup
    · intro id
      rw [items_media, ← historyRows_view, List.mem_map, List.mem_map]
      simp only [mem_listing]
    · rw [List.pairwise_map]
      apply hascending.imp_of_mem
      intro a b ha hb hlt
      rw [item_place (row_proper (mem_listing.mp ha)), item_place (row_proper (mem_listing.mp hb))]
      exact OrderDual.ofDual_lt_ofDual.mpr hlt
    · intro cursor
      rw [items_unopened]
      rfl
    · intro item hitem hunopened nowMs requireOwner howner
      obtain ⟨row, hrow, rfl⟩ := List.mem_map.mp hitem
      obtain ⟨r, hr, hmark, hmedia, hrun⟩ := unopened_item (mem_listing.mp hrow) hunopened
      obtain ⟨hmem, hgeneric, hok⟩ := markOpened_latest hr nowMs howner (h r hr hmark)
      rw [hmedia]
      exact ⟨r.id, hrun, _, _, hok, rfl, opens_upsert hr hmark⟩

end Consistent

section Outdated

/-- A finished generic run whose result was stored under another schema version. -/
def outdatedRun : AnalysisRun where
  id := ⟨"11111111-1111-4111-8111-111111111111", ones_canonical⟩
  mediaId := undescribedId
  analysisDefinition := automaticPostCatalogAnalysisDefinition
  state := .analyzed
  analysisProfile := some .genericMedia
  resultSchemaVersion := some "framenest-media-suggestion-result-v0"
  resultJson := some "\x7b\x7d"
  completedAtMs := some 9
  completed_fits := by decide

/- `json.loads` of its result is the empty object. -/
def outdatedLibrary : Metadata.Library := { sampleLibrary with loads := fun _ => .value (.obj []) }

/-- A catalog of one medium, analyzed by that run. -/
def outdatedCatalog : ReviewCatalog where
  media := ⟨[⟨undescribedId, .image, 7, 7, seven_fits⟩], by decide⟩
  metadata := .empty
  runs := ⟨[outdatedRun], by decide⟩
  openStates := .empty
  xAssets := .empty
  xPostClaims := .empty
  runs_media := by decide
  assets_media := by simp [Table.empty]
  opened_run := by simp [Table.empty]

/-- The mark of its item can never be cleared. -/
theorem outdated_result_stays_unopened :
    ¬outdatedCatalog.Consistent outdatedLibrary ⟨0, fun _ => false⟩ .administrator "a@example.org" := by
  intro h
  have hlatest : outdatedCatalog.viewRuns .administrator "a@example.org" = [outdatedRun] := by
    decide +kernel
  have hschema := consistent_schema h (r := outdatedRun) (by rw [hlatest]; exact List.mem_cons_self)
    (by decide +kernel)
  exact absurd hschema (by decide +kernel)

end Outdated
end FrameNest.Gallery
