import FrameNest.Metadata.Provenance

/-! Whose addition a tag source names, and whose value a shown receipt names, over every
history. -/
namespace FrameNest.Metadata
open Relational
variable {lib : Library} {event : Event lib} {past history : List (Event lib)} {mediaId : String}

/-- The call of the event returned. -/
def Event.Succeeds (event : Event lib) (past : List (Event lib)) : Prop :=
  ∃ w, event.operation (after past) = .ok ((), w)

theorem mediumAfter_failed (h : ¬event.Succeeds past) :
    mediumAfter (event :: past) mediaId = mediumAfter past mediaId := by
  obtain hsame | ⟨_, hdone⟩ := transaction_cases (after past) event.operation
  · simp only [mediumAfter, after, Event.step, hsame]
  · exact absurd ⟨_, hdone⟩ h

section TagSources

/- The event that last added a key to the tags of a medium. -/
def lastAddition (mediaId key : String) : List (Event lib) → Option (Event lib)
  | [] => none
  | event :: past =>
    if key ∉ (mediumAfter past mediaId).tagKeys ∧ key ∈ (mediumAfter (event :: past) mediaId).tagKeys
    then some event
    else lastAddition mediaId key past

/-- The source a tag should have: that of the apply which added it last. -/
def AppliedBy (history : List (Event lib)) (mediaId key : String) (row : TagSourceRow) : Prop :=
  key ∈ (mediumAfter history mediaId).tagKeys ∧ ∃ event request,
    lastAddition mediaId key history = some event ∧ event.call = .apply mediaId request ∧
    row = tagSourceRow request key

theorem appliedBy_kept {key : String} {row : TagSourceRow}
    (hbefore : key ∈ (mediumAfter past mediaId).tagKeys)
    (hafter : key ∈ (mediumAfter (event :: past) mediaId).tagKeys) :
    AppliedBy (event :: past) mediaId key row ↔ AppliedBy past mediaId key row := by
  simp [AppliedBy, lastAddition, hbefore, hafter]

theorem appliedBy_added {key : String} {row : TagSourceRow}
    (hbefore : key ∉ (mediumAfter past mediaId).tagKeys)
    (hafter : key ∈ (mediumAfter (event :: past) mediaId).tagKeys) :
    AppliedBy (event :: past) mediaId key row ↔
      ∃ request, event.call = .apply mediaId request ∧ row = tagSourceRow request key := by
  simp [AppliedBy, lastAddition, hbefore, hafter]

theorem appliedBy_gone {key : String} {row : TagSourceRow}
    (hafter : key ∉ (mediumAfter history mediaId).tagKeys) : ¬AppliedBy history mediaId key row :=
  fun h => hafter h.1

theorem mem_appendedKeys {current submitted : List String} {key : String} :
    key ∈ appendedKeys current submitted ↔ key ∈ submitted ∧ key ∉ current := by
  simp [appendedKeys]

/-- One event keeps the tag sources those of the applies that added the tags. -/
theorem tagSource_step {key : String} {row : TagSourceRow}
    (ih : ∀ row, (mediumAfter past mediaId).tagSources.find? key = some row ↔
      AppliedBy past mediaId key row) :
    (mediumAfter (event :: past) mediaId).tagSources.find? key = some row ↔
      AppliedBy (event :: past) mediaId key row := by
  have hnone : key ∉ (mediumAfter past mediaId).tagKeys →
      (mediumAfter past mediaId).tagSources.find? key = none := by
    intro hno
    cases hfind : (mediumAfter past mediaId).tagSources.find? key with
    | none => rfl
    | some found => exact absurd ((ih found).mp hfind) (appliedBy_gone hno)
  have hstill : (mediumAfter (event :: past) mediaId).tagKeys = (mediumAfter past mediaId).tagKeys →
      (mediumAfter (event :: past) mediaId).tagSources.find? key =
        (mediumAfter past mediaId).tagSources.find? key →
      ((mediumAfter (event :: past) mediaId).tagSources.find? key = some row ↔
        AppliedBy (event :: past) mediaId key row) := by
    intro hkeys hsources
    by_cases hbefore : key ∈ (mediumAfter past mediaId).tagKeys
    · rw [hsources, ih, appliedBy_kept hbefore (hkeys ▸ hbefore)]
    · rw [hsources, hnone hbefore]
      have hgone : ¬AppliedBy (event :: past) mediaId key row :=
        appliedBy_gone (hkeys ▸ hbefore)
      simpa using hgone
  cases moved event past mediaId with
  | still hsame => exact hstill (by rw [hsame]) (by rw [hsame])
  | saved request hcall hsaved =>
    have hkeys := hsaved.holds.tagKeys
    rw [hsaved.tagSources]
    by_cases hafter : key ∈ request.tagKeys.map CanonicalTagKey.value
    · rw [if_pos hafter]
      rw [← hkeys] at hafter
      by_cases hbefore : key ∈ (mediumAfter past mediaId).tagKeys
      · rw [ih, appliedBy_kept hbefore hafter]
      · rw [hnone hbefore, appliedBy_added hbefore hafter, hcall]
        simp
    · rw [if_neg hafter]
      rw [← hkeys] at hafter
      simpa using appliedBy_gone hafter
  | applied request reviewed hcall happlied =>
    have hkeys := happlied.holds.tagKeys
    obtain ⟨-, hnew, happended, -⟩ | ⟨hsame, hempty, -⟩ := happlied.tags
    · have hmem : key ∈ (mediumAfter (event :: past) mediaId).tagKeys ↔
          key ∈ (mediumAfter past mediaId).tagKeys ∨ key ∈ reviewed.appended := by
        rw [hkeys, hnew, happended, preserveAppendTagKeys, List.mem_append]
      rw [happlied.tagSources]
      by_cases hbefore : key ∈ (mediumAfter past mediaId).tagKeys
      · have hno : key ∉ reviewed.appended := by
          rw [happended, mem_appendedKeys]
          exact fun h => h.2 hbefore
        rw [if_neg fun h => hno h.1, ih, appliedBy_kept hbefore (hmem.mpr (Or.inl hbefore))]
      · by_cases hadded : key ∈ reviewed.appended
        · rw [if_pos ⟨hadded, hnone hbefore⟩,
            appliedBy_added hbefore (hmem.mpr (Or.inr hadded)), hcall]
          simp [eq_comm]
        · rw [if_neg fun h => hadded h.1, hnone hbefore]
          have hafter : key ∉ (mediumAfter (event :: past) mediaId).tagKeys := by
            rw [hmem]
            tauto
          simpa using appliedBy_gone hafter
    · refine hstill (hkeys.trans hsame) ?_
      rw [happlied.tagSources, hempty]
      simp
  | committed accepted metadata hcall hnew hcommitted =>
    rw [hcommitted.tagSources]
    by_cases hafter : key ∈ (mediumAfter (event :: past) mediaId).tagKeys
    · have hbefore : key ∉ (mediumAfter past mediaId).tagKeys := by
        rw [hnew, Medium.Holds.new.tagKeys]
        simp
      rw [appliedBy_added hbefore hafter, hcall]
      simp
    · simpa using appliedBy_gone hafter

theorem tagSource_iff (history : List (Event lib)) (mediaId key : String) (row : TagSourceRow) :
    (mediumAfter history mediaId).tagSources.find? key = some row ↔
      AppliedBy history mediaId key row := by
  induction history generalizing row with
  | nil => simp [AppliedBy, lastAddition, mediumAfter, after, Medium.new]
  | cons event past ih => exact tagSource_step ih

end TagSources

section FieldSources

/-- A receipt is the one an apply that returned wrote for the value it left. -/
def WrittenBy (history : List (Event lib)) (mediaId : String) (field : ReviewField)
    (row : FieldSourceRow) : Prop :=
  ∃ event past request, event :: past <:+ history ∧ event.Succeeds past ∧
    event.call = .apply mediaId request ∧ field ∈ request.fields ∧
    row = fieldSourceRow lib request field ((mediumAfter (event :: past) mediaId).value field)

theorem WrittenBy.later {field : ReviewField} {row : FieldSourceRow}
    (h : WrittenBy past mediaId field row) : WrittenBy (event :: past) mediaId field row := by
  obtain ⟨writer, earlier, request, hsuffix, hrest⟩ := h
  exact ⟨writer, earlier, request, hsuffix.trans (List.suffix_cons event past), hrest⟩

theorem fieldSource_written (history : List (Event lib)) (mediaId : String) (field : ReviewField)
    (row : FieldSourceRow) (h : (mediumAfter history mediaId).fieldSources.find? field = some row) :
    WrittenBy history mediaId field row := by
  induction history generalizing row with
  | nil => cases h
  | cons event past ih =>
    by_cases hsucceeds : event.Succeeds past
    · cases moved event past mediaId with
      | still hsame =>
        rw [hsame] at h
        exact (ih row h).later
      | saved request hcall hsaved => exact (ih row (hsaved.fieldSources field row h)).later
      | applied request reviewed hcall happlied =>
        rw [happlied.fieldSources] at h
        by_cases hfield : field ∈ request.fields
        · rw [if_pos hfield] at h
          refine ⟨event, past, request, List.suffix_rfl, hsucceeds, hcall, hfield, ?_⟩
          rw [happlied.values]
          exact (Option.some.inj h).symm
        · rw [if_neg hfield] at h
          exact (ih row h).later
      | committed accepted metadata hcall hnew hcommitted =>
        rw [hcommitted.fieldSources] at h
        cases h
    · rw [mediumAfter_failed hsucceeds] at h
      exact (ih row h).later

/-- The canonical text of a field determines its value. -/
theorem json_injective {a b : FieldValue} (h : Json.dumps a.json = Json.dumps b.json) : a = b := by
  have htext : ∀ {s : Option String} {keys : List String},
      Json.dumps (FieldValue.text s).json ≠ Json.dumps (FieldValue.tags keys).json := by
    intro s keys hsame
    cases s <;> simp [FieldValue.json, Json.dumps, Json.quote] at hsame
  cases a with
  | text s =>
    cases b with
    | text t =>
      cases s with
      | none =>
        cases t with
        | none => rfl
        | some t => simp [FieldValue.json, Json.dumps, Json.quote] at h
      | some s =>
        cases t with
        | none => simp [FieldValue.json, Json.dumps, Json.quote] at h
        | some t =>
          have hquoted : Json.quote s ++ [] = Json.quote t ++ [] := by
            simpa [FieldValue.json, Json.dumps] using h
          rw [(Json.quote_append_injective hquoted).1]
    | tags keys => exact absurd h htext
  | tags keys =>
    cases b with
    | text t => exact absurd h.symm htext
    | tags keys' => rw [Json.dumps_strings_injective h]

/-- A current receipt was written for the current value. -/
theorem value_of_currentDigest (hsha : Function.Injective lib.sha256) {m : Medium}
    {field : ReviewField} {written : FieldValue}
    (h : currentDigest lib (loadApplyCanonical m).displayTitle (loadApplyCanonical m).description
      (loadApplyCanonical m).tagKeys field = some (canonicalFieldDigest lib written)) :
    m.value field = written := by
  have hsame : ∀ {a : FieldValue}, canonicalFieldDigest lib a = canonicalFieldDigest lib written →
      a = written := fun hdigest => json_injective (hsha hdigest)
  cases field with
  | displayTitle =>
    obtain ⟨s, hs, hdigest⟩ := Option.map_eq_some_iff.mp h
    rw [Medium.value, hs]
    exact hsame hdigest
  | description =>
    obtain ⟨s, hs, hdigest⟩ := Option.map_eq_some_iff.mp h
    rw [Medium.value, hs]
    exact hsame hdigest
  | tags =>
    rw [Medium.value, ← (loadApplyCanonical_collection m).2.2]
    exact hsame (Option.some.inj h)

theorem shownSource_some {outside : Outside} {analysisRunId : String} {appliedAtMs : Int}
    {shown : CompanionReviewFieldSource}
    (h : shownSource outside analysisRunId appliedAtMs = some shown) :
    shown.analysisRunId = analysisRunId ∧ shown.appliedAtMs = appliedAtMs := by
  obtain ⟨run, hrun, rfl⟩ := Option.map_eq_some_iff.mp h
  have hid := List.find?_some hrun
  exact ⟨by simpa using hid, rfl⟩

end FieldSources

/-- What the AI attribution of a medium says is true of its history. -/
structure AttributionTruthful (history : List (Event lib)) (mediaId : String) : Prop where
  tagSource : ∀ key row, (mediumAfter history mediaId).tagSources.find? key = some row ↔
    key ∈ (mediumAfter history mediaId).tagKeys ∧ ∃ event request,
      lastAddition mediaId key history = some event ∧ event.call = .apply mediaId request ∧
      row = tagSourceRow request key
  receipt : ∀ outside field shown,
    loadFieldSource lib outside (mediumAfter history mediaId) field = some shown →
    ∃ event past request, event :: past <:+ history ∧ event.Succeeds past ∧
      event.call = .apply mediaId request ∧ field ∈ request.fields ∧
      shown.analysisRunId = request.analysisRunId ∧ shown.appliedAtMs = request.nowMs ∧
      (mediumAfter history mediaId).value field =
        (mediumAfter (event :: past) mediaId).value field

/-- AI attribution is truthful after every history of saves, applies and commits. -/
theorem attribution_truthful (hsha : Function.Injective lib.sha256) (history : List (Event lib))
    (mediaId : String) : AttributionTruthful history mediaId := by
  refine ⟨tagSource_iff history mediaId, fun outside field shown hshown => ?_⟩
  obtain ⟨row, hrow, hshown⟩ := Option.bind_eq_some_iff.mp hshown
  split at hshown
  · rename_i hcurrent
    obtain ⟨event, past, request, hsuffix, hsucceeds, hcall, hfield, rfl⟩ :=
      fieldSource_written history mediaId field row hrow
    obtain ⟨hrun, happlied⟩ := shownSource_some hshown
    exact ⟨event, past, request, hsuffix, hsucceeds, hcall, hfield, hrun, happlied,
      value_of_currentDigest hsha hcurrent⟩
  · cases hshown

section Sample

def sampleResult : String :=
  "\x7b\"title\":\"Sunrise\",\"description\":\"A sunrise.\",\"tags\":[\"sunrise\"]\x7d"

def sampleDigest : String := "1c93d60fee6d9820cb41e9aad6a7415e0bf1316a34bc91ea46350a76a8130767"

/- SHA-256 and JSON decoding of the texts that occur here. -/
def reviewLibrary : Library := { sampleLibrary with
  loads text := if text = sampleResult then
      .value (.obj [("title", .str "Sunrise"), ("description", .str "A sunrise."),
        ("tags", .arr [.str "sunrise"])])
    else .notJson
  sha256 text := if text = Json.quote "Sunrise" then sampleDigest else String.ofList ('.' :: text) }

theorem reviewLibrary_injective : Function.Injective reviewLibrary.sha256 := by
  have hdigest : ∀ text, String.ofList ('.' :: text) ≠ sampleDigest := by
    intro text h
    have hhead := congrArg (fun s : String => s.toList.head?) h
    simp [sampleDigest] at hhead
  intro a b h
  simp only [reviewLibrary] at h
  split at h
  · split at h
    · simp_all
    · exact absurd h.symm (hdigest b)
  · split at h
    · exact absurd h (hdigest a)
    · have hlists := congrArg String.toList h
      simpa using hlists

def sampleRun : String := "5d3c1c7e-90d1-4bb6-8a50-1f2f5c1de001"

/- One analyzed run for one medium, applied with its title. -/
def reviewOutside : Outside :=
  ⟨[], [⟨sampleRun, sampleMediaId, true, sampleResult, 5, "provider", "model"⟩]⟩

def reviewHistory : List (Event reviewLibrary) :=
  [⟨reviewOutside, .apply sampleMediaId ⟨"admin@example.org", sampleRun, [.displayTitle], [], 30⟩⟩,
    ⟨reviewOutside, .register sampleMediaId⟩]

theorem attribution_truthful_applied : AttributionTruthful reviewHistory sampleMediaId ∧
    loadFieldSource reviewLibrary reviewOutside (mediumAfter reviewHistory sampleMediaId)
      .displayTitle = some ⟨sampleRun, 5, "provider", "model", 30⟩ :=
  ⟨attribution_truthful reviewLibrary_injective reviewHistory sampleMediaId, by decide +kernel⟩

end Sample
end FrameNest.Metadata
