import FrameNest.Metadata.Runs

/-! The derived collection state and the provenance of metadata rows, over every history. -/
namespace FrameNest.Metadata
open Relational
variable {lib : Library} {event : Event lib} {past history : List (Event lib)} {mediaId : String}
  {m m' : Medium}

section Collection

/-- What an event does to the collection state, by the tags before and after it. -/
structure Collected (nowMs : Option Int) (m m' : Medium) : Prop where
  key : m'.collectionKey = if m'.tagKeys = [] then none else some .processed
  processed : m'.processedAtMs =
    if m'.tagKeys = [] then none else if m.tagKeys = [] then nowMs else m.processedAtMs

theorem MetadataRow.paired {row : MetadataRow} (h : row.check = true) :
    row.collectionKey.isSome = row.processedAtMs.isSome := by
  simp only [MetadataRow.check, Bool.and_eq_true, decide_eq_true_eq] at h
  exact h.1.1.1.1.1.2

theorem MetadataRow.creator_paired {row : MetadataRow} (h : row.check = true) :
    row.creator.kind = none ↔ row.creator.stableId = none ∧ row.creator.handle = none ∧
      row.creator.displayName = none := by
  have hcheck : row.creator.check = true := by
    simp only [MetadataRow.check, Bool.and_eq_true] at h
    exact h.1.1.1.1.1.1
  unfold Creator.check at hcheck
  cases hkind : row.creator.kind with
  | none =>
    rw [hkind] at hcheck
    simpa [and_assoc] using hcheck
  | some kind =>
    rw [hkind] at hcheck
    simp only [Bool.and_eq_true, Bool.or_eq_true] at hcheck
    obtain ⟨⟨⟨hsome, -⟩, -⟩, -⟩ := hcheck
    refine ⟨fun hnone => (nomatch hnone), ?_⟩
    rintro ⟨hid, hhandle, hname⟩
    simp [hid, hhandle, hname] at hsome

theorem processed_key (key : MediaCollectionKey) : key = .processed := by cases key; rfl

namespace Medium.Consistent

theorem paired (h : m.Consistent) : m.collectionKey.isSome = m.processedAtMs.isSome := by
  unfold Medium.collectionKey Medium.processedAtMs
  cases hrow : m.metadata with
  | none => rfl
  | some row => exact MetadataRow.paired (h.checked row hrow)

theorem key_of_tags (h : m.Consistent) :
    m.collectionKey = if m.tagKeys = [] then none else some .processed := by
  by_cases htags : m.tagKeys = []
  · have hno : ¬m.collectionKey.isSome = true := fun hsome => h.collected.mp hsome htags
    simpa [htags] using hno
  · obtain ⟨key, hkey⟩ := Option.isSome_iff_exists.mp (h.collected.mpr htags)
    simp [htags, hkey, processed_key key]

theorem processed_of_tags (h : m.Consistent) (htags : m.tagKeys = []) : m.processedAtMs = none := by
  have hkey := h.key_of_tags
  rw [if_pos htags] at hkey
  have hpaired := h.paired
  rw [hkey] at hpaired
  simpa using hpaired.symm

end Medium.Consistent

/-- A derived state is collected, whatever wrote it. -/
theorem collected_of_derived {state : CollectionState} {hasTags : Bool} {nowMs : Int}
    (hm : m.Consistent) (hhas : hasTags = true ↔ m'.tagKeys ≠ [])
    (hderived : deriveCollectionState m.collectionKey m.processedAtMs hasTags nowMs = .ok state)
    (hkey : m'.collectionKey = state.collectionKey)
    (hprocessed : m'.processedAtMs = state.processedAtMs) : Collected (some nowMs) m m' := by
  obtain ⟨hkey', hprocessed'⟩ := deriveCollectionState_ok hderived
  rw [hm.key_of_tags] at hkey' hprocessed'
  constructor
  · rw [hkey, hkey']
    by_cases htags : m'.tagKeys = []
    · have hno : hasTags = false := by simpa [htags] using hhas
      simp [htags, hno]
    · have hyes : hasTags = true := hhas.mpr htags
      by_cases hbefore : m.tagKeys = [] <;> simp [htags, hyes, hbefore]
  · rw [hprocessed, hprocessed']
    by_cases htags : m'.tagKeys = []
    · have hno : hasTags = false := by simpa [htags] using hhas
      simp [htags, hno]
    · have hyes : hasTags = true := hhas.mpr htags
      by_cases hbefore : m.tagKeys = [] <;> simp [htags, hyes, hbefore]

theorem collected_refl (hm : m.Consistent) (nowMs : Option Int) : Collected nowMs m m := by
  refine ⟨hm.key_of_tags, ?_⟩
  by_cases htags : m.tagKeys = []
  · simp [htags, hm.processed_of_tags htags]
  · simp [htags]

theorem Moved.collected (hm : m.Consistent) (h : Moved event mediaId m m') :
    Collected event.call.nowMs m m' := by
  cases h with
  | still hsame =>
    subst hsame
    exact collected_refl hm _
  | saved request hcall hsaved =>
    obtain ⟨current, resolved, derived, createdAtMs, -, -, hderived, hrow, -, -⟩ := hsaved.row
    rw [hcall]
    refine collected_of_derived hm ?_ hderived ?_ ?_
    · rw [hsaved.holds.tagKeys]
      simp
    · simp [Medium.collectionKey, hrow, savedRow]
    · simp [Medium.processedAtMs, hrow, savedRow]
  | applied request reviewed hcall happlied =>
    obtain ⟨row, hrow, -, hkey, hprocessed, -⟩ := happlied.row
    have hkey' : m'.collectionKey = reviewed.collectionKey := by
      simp [Medium.collectionKey, hrow, hkey]
    have hprocessed' : m'.processedAtMs = reviewed.processedAtMs := by
      simp [Medium.processedAtMs, hrow, hprocessed]
    have hkeys : m'.tagKeys = reviewed.tagKeys := happlied.holds.tagKeys
    rw [hcall]
    obtain ⟨-, -, -, state, hderived, hstate, hstate'⟩ | ⟨hsame, -, hsame', hsame''⟩ :=
      happlied.tags
    · refine collected_of_derived hm ?_ hderived (hkey'.trans hstate) (hprocessed'.trans hstate')
      rw [hkeys]
      simp
    · obtain ⟨hkept, hkept'⟩ := collected_refl hm (some request.nowMs)
      constructor
      · rw [hkey', hsame', hkeys, hsame]
        exact hkept
      · rw [hprocessed', hsame'', hkeys, hsame]
        exact hkept'
  | committed accepted metadata hcall hnew hcommitted =>
    subst hnew
    obtain ⟨collection, hderived, hrow, -⟩ := hcommitted.row
    rw [hcall]
    refine collected_of_derived hm ?_ hderived ?_ ?_
    · rw [hcommitted.holds.tagKeys]
      simp
    · simp [Medium.collectionKey, hrow, committedRow]
    · simp [Medium.processedAtMs, hrow, committedRow]

end Collection

theorem Moved.consistent (hm : m.Consistent) (h : Moved event mediaId m m') : m'.Consistent := by
  have hcollected : m'.collectionKey.isSome = true ↔ m'.tagKeys ≠ [] := by
    rw [(h.collected hm).key]
    by_cases htags : m'.tagKeys = [] <;> simp [htags]
  cases h with
  | still hsame =>
    subst hsame
    exact hm
  | saved request hcall hsaved =>
    obtain ⟨current, resolved, derived, createdAtMs, -, -, -, hrow, hcheck, hgenres⟩ := hsaved.row
    have hkeys := hsaved.holds.tagKeys
    refine ⟨hkeys ▸ hsaved.holds, by simpa [hkeys] using hsaved.few, fun row hfound => ?_,
      hcollected, fun hne => ⟨_, hrow, hgenres hne⟩⟩
    rw [hrow] at hfound
    cases hfound
    exact hcheck
  | applied request reviewed hcall happlied =>
    obtain ⟨row, hrow, hcheck, -, -, -, hold⟩ := happlied.row
    have hkeys := happlied.holds.tagKeys
    refine ⟨hkeys ▸ happlied.holds, by simpa [hkeys] using happlied.few, fun found hfound => ?_,
      hcollected, fun hne => ?_⟩
    · rw [hrow] at hfound
      cases hfound
      exact hcheck
    · rw [happlied.genres] at hne
      obtain ⟨old, hmetadata, hmovie⟩ := hm.genres hne
      exact ⟨row, hrow, (hold old hmetadata).1.trans hmovie⟩
  | committed accepted metadata hcall hnew hcommitted =>
    obtain ⟨collection, -, hrow, hcheck⟩ := hcommitted.row
    have hkeys := hcommitted.holds.tagKeys
    refine ⟨hkeys ▸ hcommitted.holds, by simpa [hkeys] using hcommitted.few, fun row hfound => ?_,
      hcollected, fun hne => absurd hcommitted.genres hne⟩
    rw [hrow] at hfound
    cases hfound
    exact hcheck

theorem mediumAfter_consistent (history : List (Event lib)) (mediaId : String) :
    (mediumAfter history mediaId).Consistent := by
  induction history with
  | nil => exact Medium.new_consistent
  | cons event past ih => exact (mediumAfter_cons ih).consistent ih

theorem moved (event : Event lib) (past : List (Event lib)) (mediaId : String) :
    Moved event mediaId (mediumAfter past mediaId) (mediumAfter (event :: past) mediaId) :=
  mediumAfter_cons (mediumAfter_consistent past mediaId)

/- The clock value of the last change from no tags to some tags. -/
def lastTagged (mediaId : String) : List (Event lib) → Option Int
  | [] => none
  | event :: past =>
    if (mediumAfter past mediaId).tagKeys = [] ∧ (mediumAfter (event :: past) mediaId).tagKeys ≠ []
    then event.call.nowMs
    else lastTagged mediaId past

/-- A medium with tags was processed when it last got its first one. -/
theorem processedAtMs_after (history : List (Event lib)) (mediaId : String)
    (htags : (mediumAfter history mediaId).tagKeys ≠ []) :
    (mediumAfter history mediaId).processedAtMs = lastTagged mediaId history := by
  induction history with
  | nil => exact absurd rfl htags
  | cons event past ih =>
    have hmoved := (moved event past mediaId).collected (mediumAfter_consistent past mediaId)
    rw [hmoved.processed, if_neg htags, lastTagged]
    by_cases hbefore : (mediumAfter past mediaId).tagKeys = []
    · simp [hbefore, htags]
    · simp [hbefore, ih hbefore]

section Source

theorem resolveXSourceField_ok {α : Type} [DecidableEq α] {field : String} {current x : Option α}
    {provided : Omittable α} (h : resolveXSourceField field current provided = .ok x) :
    x = current := by
  cases provided with
  | omitted => exact (Except.ok.inj h).symm
  | null =>
    simp only [resolveXSourceField] at h
    split at h
    · rename_i hnone
      rw [Option.isNone_iff_eq_none.mp hnone]
      exact (Except.ok.inj h).symm
    · cases h
  | value a =>
    simp only [resolveXSourceField] at h
    split at h
    · exact (Except.ok.inj h).symm
    · cases h

theorem resolveXCreator_ok {current creator : Creator} {request : SaveRequest}
    (h : resolveXCreator current request = .ok creator) : creator = current := by
  obtain ⟨kind, hkind, h⟩ := bind_eq_ok.mp h
  obtain ⟨stableId, hstableId, h⟩ := bind_eq_ok.mp h
  obtain ⟨handle, hhandle, h⟩ := bind_eq_ok.mp h
  obtain ⟨displayName, hdisplayName, h⟩ := bind_eq_ok.mp h
  rw [← Except.ok.inj h, resolveXSourceField_ok hkind, resolveXSourceField_ok hstableId,
    resolveXSourceField_ok hhandle, resolveXSourceField_ok hdisplayName]

/-- A stored source is never replaced, and neither is the creator of an X medium. -/
theorem resolve_ok {current : MediaMetadataSnapshot} {request : SaveRequest} {resolved : Resolved}
    (h : resolve current request = .ok resolved) :
    (current.persisted = false → resolved.acquisitionSource =
        request.acquisitionSource.getD .unknown ∧ resolved.creator = request.creator) ∧
      (current.persisted = true → resolved.acquisitionSource = current.acquisitionSource ∧
        (current.acquisitionSource = .xManualClaim → resolved.creator = current.creator)) := by
  unfold resolve at h
  split at h
  · rename_i hpersisted
    obtain ⟨-, h⟩ := require_bind_eq_ok.mp h
    refine ⟨fun hno => absurd (hpersisted.symm.trans hno) (by simp), fun _ => ?_⟩
    split at h
    · obtain ⟨creator, hcreator, h⟩ := bind_eq_ok.mp h
      have hresolved := Except.ok.inj h
      subst hresolved
      exact ⟨rfl, fun _ => resolveXCreator_ok hcreator⟩
    · rename_i hother
      have hresolved := Except.ok.inj h
      subst hresolved
      exact ⟨rfl, fun hx => absurd hx hother⟩
  · rename_i hpersisted
    have hresolved := Except.ok.inj h
    subst hresolved
    exact ⟨fun _ => ⟨rfl, rfl⟩, fun hyes => absurd hyes hpersisted⟩

/-- The creator of an X medium is in its normal form. -/
def NormalX (lib : Library) (m : Medium) : Prop :=
  ∀ row, m.metadata = some row → row.acquisitionSource = .xManualClaim → row.creator.Normal lib

/-- A save that creates the row of an X medium is given creator values in their normal form. -/
def GivesNormalX (event : Event lib) (past : List (Event lib)) : Prop :=
  ∀ mediaId request, event.call = .save mediaId request →
    (mediumAfter past mediaId).metadata = none →
    request.acquisitionSource = some .xManualClaim → request.creator.Normal lib

/-- A row stays, with its source, and with its creator if it is a normal X row. -/
theorem Moved.row (h : Moved event mediaId m m') {old : MetadataRow}
    (hold : m.metadata = some old) : ∃ row, m'.metadata = some row ∧
      row.acquisitionSource = old.acquisitionSource ∧
      (old.acquisitionSource = .xManualClaim → old.creator.Normal lib →
        row.creator = old.creator) := by
  cases h with
  | still hsame =>
    subst hsame
    exact ⟨old, hold, rfl, fun _ _ => rfl⟩
  | saved request hcall hsaved =>
    obtain ⟨current, resolved, derived, createdAtMs, hcurrent, hresolved, -, hrow, -, -⟩ :=
      hsaved.row
    obtain ⟨-, -, -, hloaded⟩ := loadMetadataSnapshot_ok hcurrent
    obtain ⟨hpersisted, hsource, hcreator⟩ := hloaded old hold
    obtain ⟨hsource', hx⟩ := (resolve_ok hresolved).2 hpersisted
    refine ⟨_, hrow, hsource'.trans hsource, fun hold_x hnormal => ?_⟩
    rw [hnormal] at hcreator
    exact (hx (hsource.trans hold_x)).trans (Except.ok.inj hcreator).symm
  | applied request reviewed hcall happlied =>
    obtain ⟨row, hrow, -, -, -, -, hkept⟩ := happlied.row
    exact ⟨row, hrow, (hkept old hold).2.1, fun _ _ => (hkept old hold).2.2⟩
  | committed accepted metadata hcall hnew hcommitted =>
    rw [hnew] at hold
    cases hold

theorem Moved.normalX (hgives : GivesNormalX event past)
    (h : Moved event mediaId (mediumAfter past mediaId) m')
    (hnormal : NormalX lib (mediumAfter past mediaId)) : NormalX lib m' := by
  intro row hrow hx
  cases hmetadata : (mediumAfter past mediaId).metadata with
  | some old =>
    obtain ⟨found, hfound, hsource, hcreator⟩ := h.row hmetadata
    rw [hfound] at hrow
    cases hrow
    have hold := hnormal old hmetadata (hsource ▸ hx)
    rw [hcreator (hsource ▸ hx) hold]
    exact hold
  | none =>
    cases h with
    | still hsame =>
      rw [hsame, hmetadata] at hrow
      cases hrow
    | saved request hcall hsaved =>
      obtain ⟨current, resolved, derived, createdAtMs, hcurrent, hresolved, -, hstored, -, -⟩ :=
        hsaved.row
      obtain ⟨-, -, hnone, -⟩ := loadMetadataSnapshot_ok hcurrent
      obtain ⟨hsource, hcreator⟩ := (resolve_ok hresolved).1 (hnone hmetadata)
      rw [hstored] at hrow
      cases hrow
      change resolved.acquisitionSource = .xManualClaim at hx
      change resolved.creator.Normal lib
      rw [hcreator]
      refine hgives mediaId request hcall hmetadata ?_
      rw [hsource] at hx
      cases hrequested : request.acquisitionSource with
      | none =>
        rw [hrequested] at hx
        cases hx
      | some source =>
        rw [hrequested] at hx
        exact congrArg some hx
    | applied request reviewed hcall happlied =>
      obtain ⟨found, hfound, -, -, -, hnew, -⟩ := happlied.row
      rw [hfound] at hrow
      cases hrow
      rw [(hnew hmetadata).1] at hx
      cases hx
    | committed accepted metadata hcall hnew hcommitted =>
      obtain ⟨collection, -, hstored, -⟩ := hcommitted.row
      rw [hstored] at hrow
      cases hrow
      exact metadata.normal

/-- Every event of a history that creates an X row by a save gives it a normal creator. -/
def AllGiveNormalX : List (Event lib) → Prop
  | [] => True
  | event :: past => GivesNormalX event past ∧ AllGiveNormalX past

theorem normalX_after (h : AllGiveNormalX history) (mediaId : String) :
    NormalX lib (mediumAfter history mediaId) := by
  induction history with
  | nil => simp [NormalX, mediumAfter, after, Medium.new]
  | cons event past ih => exact (moved event past mediaId).normalX h.1 (ih h.2)

/-- From an earlier moment of a history on, a row keeps its source and an X row its creator. -/
theorem row_after {earlier : List (Event lib)} (hearlier : earlier <:+ history)
    (hnormal : AllGiveNormalX history) {old : MetadataRow}
    (hold : (mediumAfter earlier mediaId).metadata = some old) :
    ∃ row, (mediumAfter history mediaId).metadata = some row ∧
      row.acquisitionSource = old.acquisitionSource ∧
      (old.acquisitionSource = .xManualClaim → row.creator = old.creator) := by
  induction history with
  | nil =>
    rw [List.suffix_nil.mp hearlier] at hold
    exact ⟨old, hold, rfl, fun _ => rfl⟩
  | cons event past ih =>
    obtain rfl | hpast := List.suffix_cons_iff.mp hearlier
    · exact ⟨old, hold, rfl, fun _ => rfl⟩
    · obtain ⟨middle, hmiddle, hsource, hcreator⟩ := ih hpast hnormal.2
      obtain ⟨row, hrow, hsource', hcreator'⟩ := (moved event past mediaId).row hmiddle
      refine ⟨row, hrow, hsource'.trans hsource, fun hx => ?_⟩
      have hx' : middle.acquisitionSource = .xManualClaim := hsource.trans hx
      have hmiddleNormal := normalX_after hnormal.2 mediaId middle hmiddle hx'
      exact (hcreator' hx' hmiddleNormal).trans (hcreator hx)

end Source

/-- What holds of a metadata row after a history. -/
structure ProcessedAndProvenance (history : List (Event lib)) (mediaId : String)
    (row : MetadataRow) : Prop where
  collection : row.collectionKey = some .processed ↔
    (mediumAfter history mediaId).tags.rows ≠ []
  processed : row.processedAtMs.isSome = true ↔ (mediumAfter history mediaId).tags.rows ≠ []
  since : (mediumAfter history mediaId).tags.rows ≠ [] →
    row.processedAtMs = lastTagged mediaId history
  fixed : ∀ event past, history = event :: past → (mediumAfter past mediaId).tags.rows ≠ [] →
    (mediumAfter history mediaId).tags.rows ≠ [] →
    row.processedAtMs = (mediumAfter past mediaId).processedAtMs
  positions : (mediumAfter history mediaId).tags.rows.map TagAssignment.position =
    List.range (mediumAfter history mediaId).tags.rows.length
  few : (mediumAfter history mediaId).tags.rows.length ≤ 32
  nodup : ((mediumAfter history mediaId).tags.rows.map TagAssignment.tagKey).Nodup
  genres : (mediumAfter history mediaId).genres.rows ≠ [] → row.contentCategory = .movie
  source : ∀ earlier old, earlier <:+ history →
    (mediumAfter earlier mediaId).metadata = some old →
    row.acquisitionSource = old.acquisitionSource ∧
      (old.acquisitionSource = .xManualClaim → row.creator = old.creator)
  creator : row.creator.kind = none ↔ row.creator.stableId = none ∧ row.creator.handle = none ∧
    row.creator.displayName = none

/-- Saves, applies and commits in any order, with any clock: if each save that creates an X row
is given creator values in their normal form, every row keeps its promises. -/
theorem metadata_rows_keep_their_promises (history : List (Event lib))
    (hnormal : AllGiveNormalX history) (mediaId : String) (row : MetadataRow)
    (hrow : (mediumAfter history mediaId).metadata = some row) :
    ProcessedAndProvenance history mediaId row := by
  have hm := mediumAfter_consistent history mediaId
  have hholds := hm.holds
  have htags : (mediumAfter history mediaId).tags.rows ≠ [] ↔
      (mediumAfter history mediaId).tagKeys ≠ [] := not_congr hholds.nil_iff
  have hcollected : row.collectionKey.isSome = true ↔
      (mediumAfter history mediaId).tags.rows ≠ [] := by
    rw [htags, ← hm.collected]
    simp [Medium.collectionKey, hrow]
  have hprocessed : (mediumAfter history mediaId).processedAtMs = row.processedAtMs := by
    simp [Medium.processedAtMs, hrow]
  refine ⟨?_, ?_, fun hne => ?_, ?_, ?_, ?_, ?_, fun hne => ?_, fun earlier old hearlier hold => ?_,
    MetadataRow.creator_paired (hm.checked row hrow)⟩
  · rw [← hcollected]
    cases hkey : row.collectionKey with
    | none => simp
    | some key => simp [processed_key key]
  · rw [← MetadataRow.paired (hm.checked row hrow)]
    exact hcollected
  · rw [← hprocessed]
    exact processedAtMs_after history mediaId (htags.mp hne)
  · rintro event past rfl hbefore hne
    have hbefore' : (mediumAfter past mediaId).tagKeys ≠ [] := fun hnil =>
      hbefore ((mediumAfter_consistent past mediaId).holds.nil_iff.mpr hnil)
    have hmoved := (moved event past mediaId).collected (mediumAfter_consistent past mediaId)
    rw [← hprocessed, hmoved.processed, if_neg (htags.mp hne), if_neg hbefore']
  · rw [hholds, positioned_positions, length_positioned, List.range_eq_range']
  · rw [hholds, length_positioned]
    exact hm.few
  · exact (mediumAfter history mediaId).tags.nodup
  · obtain ⟨found, hfound, hmovie⟩ := hm.genres hne
    rw [hrow] at hfound
    cases hfound
    exact hmovie
  · obtain ⟨found, hfound, hkept⟩ := row_after hearlier hnormal hold
    rw [hrow] at hfound
    cases hfound
    exact hkept

section Sample

/- The standard library, on ASCII texts. -/
def sampleLibrary : Library where
  lower s := String.ofList (s.toList.map Char.toLower)
  nfc := id
  casefold s := String.ofList (s.toList.map Char.toLower)
  loads _ := .notJson
  sha256 := String.ofList

def sampleMediaId : String := "0b8f7d1e-5a0c-4c2b-9a53-3d1f6f1f2c10"

def sampleSave (title : Option MediaDisplayTitle) (nowMs : Int)
    (acquisitionSource : Option AcquisitionSource) (kind : Omittable CreatorAttributionKind)
    (stableId : Omittable String) : SaveRequest :=
  ⟨title, none, [], nowMs, .omitted, acquisitionSource, [], kind, stableId, .omitted, .omitted⟩

/- A logical medium is registered, saved as an X acquisition and given a title later. -/
def sampleHistory (stableId : String) : List (Event sampleLibrary) :=
  [⟨⟨[], []⟩, .save sampleMediaId
      (sampleSave (some ⟨"Title", by decide⟩) 20 none .omitted .omitted)⟩,
    ⟨⟨[], []⟩, .save sampleMediaId
      (sampleSave none 10 (some .xManualClaim) (.value .xAuthor) (.value stableId))⟩,
    ⟨⟨[], []⟩, .register sampleMediaId⟩]

def sampleRow (title : Option String) (stableId : String) (updatedAtMs : Int) : MetadataRow :=
  ⟨title, none, .general, .xManualClaim, ⟨some .xAuthor, some stableId, none, none⟩, none, none, 10,
    updatedAtMs⟩

theorem metadata_rows_keep_their_promises_titled :
    ProcessedAndProvenance (sampleHistory "42") sampleMediaId (sampleRow (some "Title") "42" 20) := by
  refine metadata_rows_keep_their_promises (sampleHistory "42") ⟨?_, ?_, ?_, trivial⟩ sampleMediaId
    _ (by decide +kernel)
  · intro mediaId request hcall _ hx
    cases hcall
    cases hx
  · intro mediaId request hcall _ _
    cases hcall
    decide +kernel
  · intro mediaId request hcall
    cases hcall

/-- A stable id with blanks around it is stored as it was given and trimmed by a later save of
the title. -/
theorem later_save_trims_x_creator : ¬∀ (lib : Library) (history : List (Event lib))
    (mediaId : String) (row : MetadataRow), (mediumAfter history mediaId).metadata = some row →
    ProcessedAndProvenance history mediaId row := by
  intro h
  have hend : (mediumAfter (sampleHistory " 42 ") sampleMediaId).metadata =
      some (sampleRow (some "Title") "42" 20) := by decide +kernel
  have hearlier : (mediumAfter (sampleHistory " 42 ").tail sampleMediaId).metadata =
      some (sampleRow none " 42 " 10) := by decide +kernel
  have hkept := ((h _ _ _ _ hend).source _ _ (List.tail_suffix _) hearlier).2 rfl
  exact absurd hkept (by decide)

end Sample
end FrameNest.Metadata
