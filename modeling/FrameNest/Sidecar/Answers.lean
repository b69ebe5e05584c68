import FrameNest.Sidecar.RoundTrip

/-! What `decode_media_sidecar` answers to any bytes, and what it answers to the bytes of a
document. -/
namespace FrameNest.Sidecar
open Metadata Relational PyStr PyJson
variable {u : Unicode} {v : PyJson} {f : SidecarFields} {d : SidecarDocument u}

section Payload

theorem format_surrogates (h : requireFormat v = .ok ()) : surrogates v = false := by
  cases v with
  | str s =>
    have hmem : s ∈ acceptedSidecarFormats := by simpa [requireFormat, require_eq_ok] using h
    simp only [acceptedSidecarFormats, List.mem_cons, List.not_mem_nil, or_false] at hmem
    rcases hmem with rfl | rfl
    · exact hasSurrogate_ofChars _
    · exact hasSurrogate_ofChars _
  | _ => cases h

theorem version_surrogates (h : requireVersion v = .ok ()) : surrogates v = false := by
  cases v with
  | int n => rfl
  | _ => cases h

/-- The payload holds a surrogate just when what was read holds one. -/
theorem payload_surrogates (horderly : orderly v = true) (h : Accepted v f) :
    surrogates (sidecarPayload f) = surrogates v := by
  have hmember := orderly_valueOf horderly
  have hformat := format_surrogates h.formatText
  have hversion := version_surrogates h.versionNumber
  have hwriter : surrogates (text SidecarFormat.framenest.value) = false := hasSurrogate_ofChars _
  have hnumber : surrogates (.int sidecarSchemaVersion) = false := rfl
  have hmedia := (field_identity _).surrogates (hmember _) h.read.mediaId
  have hkind := (field_enum mediaKinds (by decide)).surrogates (hmember _) h.read.mediaKind
  have htitle := (field_optionalForm _).surrogates (hmember _) h.read.displayTitle
  have hdescription := (field_optionalForm _).surrogates (hmember _) h.read.description
  have hkeys := field_tagKey.list.surrogates (hmember _) h.read.tagKeys
  have hdefinitions := field_tagDefinition.list.surrogates (hmember _) h.read.tagDefinitions
  have hcategory := (field_enum contentCategories (by decide)).surrogates (hmember _)
    h.read.contentCategory
  have hsource := (field_enum acquisitionSources (by decide)).surrogates (hmember _)
    h.read.acquisitionSource
  have hgenres := field_genres.surrogates (hmember _) h.read.genreKeys
  have hcreatorKind := field_creatorKind.surrogates (hmember _) h.read.creatorKind
  have hstableId := field_creatorText.surrogates (hmember _) h.read.creatorStableId
  have hhandle := field_creatorText.surrogates (hmember _) h.read.creatorHandle
  have hdisplayName := field_creatorText.surrogates (hmember _) h.read.creatorDisplayName
  have hprocessed := field_processed?.surrogates (hmember _) h.read.processed
  have hcreated := field_time.surrogates (hmember _) h.read.createdAtMs
  have hupdated := field_time.surrogates (hmember _) h.read.updatedAtMs
  have hlocation := field_location.surrogates (hmember _) h.read.location
  rw [surrogates_closed horderly h.closed, sidecarPayload, surrogates_dict]
  simp only [sidecarMembers, rootFields, List.any_cons, List.any_nil, hformat, hversion, hwriter,
    hnumber, hmedia, hkind, htitle, hdescription, hkeys, hdefinitions, hcategory, hsource, hgenres,
    hcreatorKind, hstableId, hhandle, hdisplayName, hprocessed, hcreated, hupdated, hlocation]

theorem writable_optionalText (a : Option PyStr) : writable (encodeOptional .str a) = true := by
  cases a <;> rfl

/-- What was read within the digit limit is written within it. -/
theorem payload_writable (horderly : orderly v = true) (h : Accepted v f) (creator : SidecarCreator)
    (hkind : creator.creatorAttributionKind = f.creator.creatorAttributionKind) :
    writable (sidecarPayload { f with creator }) = true := by
  have hmember := orderly_valueOf horderly
  have hmedia := (field_identity _).writable (hmember _) h.read.mediaId
  have hmediaKind := (field_enum mediaKinds (by decide)).writable (hmember _) h.read.mediaKind
  have htitle := (field_optionalForm _).writable (hmember _) h.read.displayTitle
  have hdescription := (field_optionalForm _).writable (hmember _) h.read.description
  have hkeys := field_tagKey.list.writable (hmember _) h.read.tagKeys
  have hdefinitions := field_tagDefinition.list.writable (hmember _) h.read.tagDefinitions
  have hcategory := (field_enum contentCategories (by decide)).writable (hmember _)
    h.read.contentCategory
  have hsource := (field_enum acquisitionSources (by decide)).writable (hmember _)
    h.read.acquisitionSource
  have hgenres := field_genres.writable (hmember _) h.read.genreKeys
  have hcreatorKind := field_creatorKind.writable (hmember _) h.read.creatorKind
  rw [← hkind] at hcreatorKind
  have hprocessed := field_processed?.writable (hmember _) h.read.processed
  have hcreated := field_time.writable (hmember _) h.read.createdAtMs
  have hupdated := field_time.writable (hmember _) h.read.updatedAtMs
  have hlocation := field_location.writable (hmember _) h.read.location
  have hwriter : writable (text SidecarFormat.framenest.value) = true := rfl
  have hnumber : writable (.int sidecarSchemaVersion) = true := by decide
  rw [sidecarPayload, writable_dict]
  simp only [sidecarMembers, List.all_cons, List.all_nil, hwriter, hnumber, hmedia, hmediaKind,
    htitle, hdescription, hkeys, hdefinitions, hcategory, hsource, hgenres, hcreatorKind,
    writable_optionalText, hprocessed, hcreated, hupdated, hlocation, Bool.and_self]

theorem surrogates_optionalText (a : Option PyStr) :
    surrogates (encodeOptional .str a) = a.any hasSurrogate := by
  cases a <;> rfl

/-- Normalizing the creator changes nothing about surrogates. -/
theorem creator_surrogates {creator : SidecarCreator}
    (h : validateCreatorAttributionFields u f.creator = some creator) :
    surrogates (sidecarPayload { f with creator }) = surrogates (sidecarPayload f) := by
  obtain ⟨hstable, hhandle, hdisplay, hkind, -⟩ := validateCreator_some u h
  have hstableS := normalizeCreator_surrogate settling_stableId hstable
  have hhandleS := normalizeCreator_surrogate (settling_handle u) hhandle
  have hdisplayS := normalizeCreator_surrogate (settling_displayName u) hdisplay
  rw [sidecarPayload, sidecarPayload, surrogates_dict, surrogates_dict]
  simp only [sidecarMembers, List.any_cons, List.any_nil, surrogates_optionalText, hstableS,
    hhandleS, hdisplayS, hkind]

theorem creatorText_light {a : Option PyStr} {limit : Nat} (h : ∀ s ∈ a, s.length ≤ limit) :
    weight (encodeOptional .str a) ≤ 6 * limit + 4 := by
  have hlight := field_creatorText.light a (writable_optionalText a)
  cases a with
  | none =>
    change 4 ≤ _
    omega
  | some s =>
    have hs := h s rfl
    change weight (encodeOptional .str (some s)) ≤ 6 * s.length + 2 at hlight
    omega

/-- No document is too large, if only its numbers can be written. -/
theorem payload_light (d : SidecarDocument u)
    (h : writable (sidecarPayload d.toSidecarFields) = true) :
    weight (sidecarPayload d.toSidecarFields) ≤ 160000 := by
  have hvalid := d.isValid
  simp only [SidecarFields.valid, fewTags, fewGenres, Bool.and_eq_true, decide_eq_true_eq] at hvalid
  obtain ⟨⟨⟨⟨htags, -⟩, haligned⟩, ⟨hfew, -⟩, -⟩, -⟩ := hvalid
  have hdefs : d.tagDefinitions.length ≤ maxMediaTags := by
    rw [← haligned, List.length_map] at htags
    exact htags
  obtain ⟨hstable, hhandle, hdisplay, -, -⟩ := validateCreator_some u d.normal
  have hstableL := creatorText_light (normalizeCreator_short hstable)
  have hhandleL := creatorText_light (normalizeCreator_short hhandle)
  have hdisplayL := creatorText_light (normalizeCreator_short hdisplay)
  rw [sidecarPayload, writable_dict] at h
  simp only [sidecarMembers, List.all_cons, List.all_nil, Bool.and_true, Bool.and_eq_true] at h
  obtain ⟨-, -, hmediaW, hkindW, htitleW, hdescriptionW, hkeysW, hdefinitionsW, hcategoryW, hsourceW,
    hgenresW, hcreatorW, -, -, -, hprocessedW, hcreatedW, hupdatedW, hlocationW⟩ := h
  have hmedia := (field_identity _).light _ hmediaW
  have hkind := (field_enum mediaKinds (by decide)).light _ hkindW
  have htitle := (field_optionalForm _).light _ htitleW
  have hdescription := (field_optionalForm _).light _ hdescriptionW
  have hkeys := field_tagKey.list.light _ hkeysW
  have hdefinitions := field_tagDefinition.list.light _ hdefinitionsW
  have hcategory := (field_enum contentCategories (by decide)).light _ hcategoryW
  have hsource := (field_enum acquisitionSources (by decide)).light _ hsourceW
  have hgenres := field_genres.light _ hgenresW
  have hcreator := field_creatorKind.light _ hcreatorW
  have hprocessed := field_processed?.light _ hprocessedW
  have hcreated := field_time.light _ hcreatedW
  have hupdated := field_time.light _ hupdatedW
  have hlocation := field_location.light _ hlocationW
  have hformat : weight (text SidecarFormat.framenest.value) = 140 := by decide
  have hnumber : weight (.int sidecarSchemaVersion) = 2 := by decide
  have hkeysLong : rootFields.map (fun key => key.toList.length) =
      [6, 14, 8, 10, 13, 11, 8, 15, 16, 18, 10, 24, 17, 14, 20, 9, 13, 13, 8] := by decide
  simp only [rootFields, List.map_cons, List.map_nil, List.cons.injEq] at hkeysLong
  have htitleLimit : mediaDisplayTitle.limit = 240 := rfl
  have hdescriptionLimit : mediaDescription.limit = 10000 := rfl
  have hdigits : maxStrDigits = 4300 := rfl
  have htagsLimit : maxMediaTags = 32 := rfl
  have hgenresLimit : maxMediaGenres = 8 := rfl
  have hstableLimit : maxCreatorStableIdCodePoints = 128 := rfl
  have hhandleLimit : maxCreatorHandleCodePoints = 64 := rfl
  have hdisplayLimit : maxCreatorDisplayNameCodePoints = 200 := rfl
  rw [sidecarPayload, weight_dict]
  simp only [sidecarMembers, List.map_cons, List.map_nil, List.sum_cons, List.sum_nil, hkeysLong]
  omega

end Payload

section Encoding

/-- The document in the spelling of the writer. -/
def SidecarDocument.normalised (d : SidecarDocument u) : SidecarDocument u :=
  ⟨{ d.toSidecarFields with format := .framenest }, d.isValid, d.normal⟩

/- The characters that a document is written as, and their bytes. -/
theorem encode_bytes {b : Utf8.Bytes} (h : encodeMediaSidecar d = .ok b) :
    writable (sidecarPayload d.toSidecarFields) = true ∧
      ∃ l, print false (sidecarPayload d.toSidecarFields) = ofChars l ∧
        b = (l ++ ['\n']).flatMap Utf8.encodeChar ∧ b.length ≤ maxSidecarBytes := by
  unfold encodeMediaSidecar at h
  cases hwritten : (dumps false (sidecarPayload d.toSidecarFields)).bind Utf8.encode with
  | none =>
    rw [hwritten] at h
    cases h
  | some written =>
    simp only [hwritten] at h
    split at h
    · rename_i hsize
      cases h
      obtain ⟨t, ht, hencode⟩ := Option.bind_eq_some_iff.mp hwritten
      unfold dumps at ht
      split at ht
      · rename_i hwritable
        cases ht
        obtain ⟨l, hl, rfl⟩ := Option.map_eq_some_iff.mp hencode
        have hnewline : Utf8.encodeChar '\n' = [0x0a] := by decide
        refine ⟨hwritable, l, chars?_some hl, ?_, hsize⟩
        rw [List.flatMap_append, List.flatMap_singleton, hnewline]
      · cases ht
    · cases h

/-- A document is written just when its numbers are short and it holds no lone surrogate. -/
theorem encode_ok_iff (d : SidecarDocument u) : (∃ b, encodeMediaSidecar d = .ok b) ↔
    writable (sidecarPayload d.toSidecarFields) = true ∧
      surrogates (sidecarPayload d.toSidecarFields) = false := by
  constructor
  · rintro ⟨b, h⟩
    obtain ⟨hwritable, l, hl, -⟩ := encode_bytes h
    refine ⟨hwritable, ?_⟩
    rw [← surrogate_print, hl, hasSurrogate_ofChars]
  · rintro ⟨hwritable, hnone⟩
    rw [← surrogate_print] at hnone
    have hchars : ∃ w, Utf8.encode (print false (sidecarPayload d.toSidecarFields)) = some w := by
      cases hw : Utf8.encode (print false (sidecarPayload d.toSidecarFields)) with
      | some w => exact ⟨w, rfl⟩
      | none =>
        rw [Utf8.encode_none.mp hw] at hnone
        cases hnone
    obtain ⟨w, hw⟩ := hchars
    have hsize : (w ++ [0x0a]).length ≤ maxSidecarBytes := by
      have hlength := Utf8.size_encode hw
      have hprint := size_print (sidecarPayload d.toSidecarFields)
      have hlight := payload_light d hwritable
      have hmax : maxSidecarBytes = 262144 := rfl
      rw [List.length_append, List.length_singleton]
      omega
    refine ⟨w ++ [0x0a], ?_⟩
    unfold encodeMediaSidecar dumps
    rw [if_pos hwritable, Option.bind_some, hw]
    exact if_pos hsize

theorem textOf_bytes {l : List Char} {c : Char} {rest : List Char} (hl : l = c :: rest)
    (hc : c = '\x7b') (hsize : (l.flatMap Utf8.encodeChar).length ≤ maxSidecarBytes) :
    textOf (l.flatMap Utf8.encodeChar) = .ok (ofChars l) := by
  subst hl hc
  have hfirst : Utf8.encodeChar '\x7b' = [0x7b] := by decide
  have hbytes : ('\x7b' :: rest).flatMap Utf8.encodeChar = 0x7b :: rest.flatMap Utf8.encodeChar := by
    rw [List.flatMap_cons, hfirst]
    rfl
  have hbom : utf8Bom.isPrefixOf (0x7b :: rest.flatMap Utf8.encodeChar) = false := rfl
  refine require_bind_eq_ok.mpr ⟨?_, ?_⟩
  · rw [hbytes] at hsize ⊢
    simpa using hsize
  refine require_bind_eq_ok.mpr ⟨?_, ?_⟩
  · rw [hbytes, hbom]
    rfl
  exact bind_eq_ok.mpr ⟨_, orMalformed_ok.mpr (Utf8.decodeStrict_encode _), rfl⟩

theorem payload_shaped (d : SidecarDocument u) (room : Nat) :
    shaped false (sidecarPayload d.toSidecarFields) (room + 3) = true := by
  refine shaped_dict (sidecarMembers_nodup _) fun m hm => ?_
  simp only [sidecarMembers, List.mem_cons, List.not_mem_nil, or_false] at hm
  rcases hm with rfl | rfl | rfl | rfl | rfl | rfl | rfl | rfl | rfl | rfl | rfl | rfl | rfl | rfl |
    rfl | rfl | rfl | rfl | rfl
  · exact shaped_text _ _
  · rfl
  · exact (field_identity _).shaped d.mediaId (room + 2)
  · exact (field_enum mediaKinds (by decide)).shaped d.mediaKind (room + 2)
  · exact (field_optionalForm _).shaped d.displayTitle (room + 2)
  · exact (field_optionalForm _).shaped d.description (room + 2)
  · exact field_tagKey.list.shaped d.tagKeys (room + 1)
  · exact field_tagDefinition.list.shaped d.tagDefinitions room
  · exact (field_enum contentCategories (by decide)).shaped d.contentCategory (room + 2)
  · exact (field_enum acquisitionSources (by decide)).shaped d.acquisitionSource (room + 2)
  · exact field_genres.shaped d.genreKeys (room + 1)
  · exact field_creatorKind.shaped d.creator.creatorAttributionKind (room + 2)
  · exact field_creatorText.shaped d.creator.creatorStableId (room + 2)
  · exact field_creatorText.shaped d.creator.creatorHandle (room + 2)
  · exact field_creatorText.shaped d.creator.creatorDisplayName (room + 2)
  · exact field_processed?.shaped d.processed (room + 1)
  · exact field_time.shaped d.createdAtMs (room + 2)
  · exact field_time.shaped d.updatedAtMs (room + 2)
  · exact field_location.shaped d.location (room + 1)

/-- What was written is read back. -/
theorem decode_encode {nesting : Nat} (hnesting : 3 ≤ nesting) {b : Utf8.Bytes}
    (h : encodeMediaSidecar d = .ok b) : decodeMediaSidecar u nesting b = .ok d.normalised := by
  obtain ⟨hwritable, l, hl, rfl, hsize⟩ := encode_bytes h
  obtain ⟨room, rfl⟩ := Nat.exists_eq_add_of_le' hnesting
  have hopen : ∃ rest, l = '\x7b' :: rest := by
    cases l with
    | nil => cases hl
    | cons c rest =>
      have hc : CodePoint.char '\x7b' = .char c := congrArg (fun s => s.headD (.char c)) hl
      exact ⟨rest, by rw [char_injective hc]⟩
  obtain ⟨rest, hrest⟩ := hopen
  have htext : textOf ((l ++ ['\n']).flatMap Utf8.encodeChar) = .ok (ofChars (l ++ ['\n'])) := by
    have hcons : l ++ ['\n'] = '\x7b' :: (rest ++ ['\n']) := by
      rw [hrest]
      rfl
    exact textOf_bytes hcons rfl hsize
  have hfits : JsonReader.fits false (sidecarPayload d.toSidecarFields) (room + 3) = true := by
    rw [fits_iff, payload_shaped, hwritable]
    rfl
  have hread : readText (room + 3) (ofChars (l ++ ['\n'])) =
      .ok (sidecarPayload d.toSidecarFields) := by
    have happend : ofChars (l ++ ['\n']) =
        print false (sidecarPayload d.toSidecarFields) ++ [.char '\n'] := by
      rw [hl]
      exact List.map_append
    have hloads := (JsonReader.loads_print ⟨room + 3, true⟩ hfits).2
    rw [readText, happend, hloads]
  refine bind_eq_ok.mpr ⟨_, htext, bind_eq_ok.mpr ⟨_, hread, ?_⟩⟩
  exact decodeTree_ok.mpr ⟨_, payload_accepted d.isValid, d.normalised.make_fields⟩

end Encoding

section Decoding
variable {nesting : Nat} {b : Utf8.Bytes} {x : SidecarFault}

theorem parseFields_polite (h : parseFields v = .error x) : x = .malformed := by
  refine bind_polite h (fun e he => ?_) fun tagKeys e he => ?_
  · refine bind_polite he (fun e he => field_tagKey.list.polite he) fun keys e he => ?_
    exact bind_polite he (fun e he => require_malformed he) fun _ e he => by cases he
  refine bind_polite he (fun e he => field_tagDefinition.list.polite he) fun _ e he => ?_
  refine bind_polite he (fun e he => require_malformed he) fun _ e he => ?_
  refine bind_polite he (fun e he => (field_enum contentCategories (by decide)).polite he)
    fun _ e he => ?_
  refine bind_polite he (fun e he => (field_identity _).polite he) fun _ e he => ?_
  refine bind_polite he (fun e he => (field_enum mediaKinds (by decide)).polite he) fun _ e he => ?_
  refine bind_polite he (fun e he => (field_optionalForm _).polite he) fun _ e he => ?_
  refine bind_polite he (fun e he => (field_optionalForm _).polite he) fun _ e he => ?_
  refine bind_polite he (fun e he => (field_enum acquisitionSources (by decide)).polite he)
    fun _ e he => ?_
  refine bind_polite he (fun e he => ?_) fun _ e he => ?_
  · refine bind_polite he (fun e he => field_genres.polite he) fun _ e he => ?_
    exact bind_polite he (fun e he => require_malformed he) fun _ e he => by cases he
  refine bind_polite he (fun e he => field_creatorKind.polite he) fun _ e he => ?_
  refine bind_polite he (fun e he => field_creatorText.polite he) fun _ e he => ?_
  refine bind_polite he (fun e he => field_creatorText.polite he) fun _ e he => ?_
  refine bind_polite he (fun e he => field_creatorText.polite he) fun _ e he => ?_
  refine bind_polite he (fun e he => field_processed?.polite he) fun _ e he => ?_
  refine bind_polite he (fun e he => field_time.polite he) fun _ e he => ?_
  refine bind_polite he (fun e he => field_time.polite he) fun _ e he => ?_
  exact bind_polite he (fun e he => field_location.polite he) fun _ e he => by cases he

def isContainer : PyJson → Bool
  | .arr _ | .obj _ => true
  | _ => false

/-- A root object with nothing wrong before its format is looked up, which is a list or a dict. -/
def hashesFormat (v : PyJson) : Bool :=
  isClosed rootFields v && !hasForeignVersion v && isContainer (valueOf "format" v)

/-- The root object is a sidecar in all of its fields. -/
def IsSidecar (u : Unicode) (v : PyJson) : Prop :=
  ∃ f, Accepted v f ∧ (SidecarDocument.make u f).isSome = true

theorem isSidecar_iff : IsSidecar u v ↔ ∃ d : SidecarDocument u, decodeTree u v = .ok d := by
  constructor
  · rintro ⟨f, h, hmake⟩
    obtain ⟨d, hd⟩ := Option.isSome_iff_exists.mp hmake
    exact ⟨d, decodeTree_ok.mpr ⟨f, h, hd⟩⟩
  · rintro ⟨d, h⟩
    obtain ⟨f, hf, hd⟩ := decodeTree_ok.mp h
    exact ⟨f, hf, by rw [hd]; rfl⟩

theorem container_format (h : isContainer (valueOf "format" v) = true) :
    hasForeignFormat v = false := by
  unfold valueOf at h
  unfold hasForeignFormat
  cases hfield : field "format" v with
  | none => rfl
  | some w =>
    rw [hfield] at h
    cases w with
    | str s => cases h
    | _ => rfl

/-- The one way in which a tree is not answered by the codec's own error. -/
theorem decodeTree_escaped :
    decodeTree u v = .error .escaped ↔ hashesFormat v = true := by
  constructor
  · intro h
    unfold decodeTree at h
    cases hobject : v.asObj.isSome with
    | false =>
      rw [hobject] at h
      cases h
    | true =>
      cases hforeign : !hasForeignFormat v && !hasForeignVersion v with
      | false =>
        rw [hobject, hforeign] at h
        cases h
      | true =>
        cases hclosed : isClosed rootFields v with
        | false =>
          rw [hobject, hforeign, hclosed] at h
          cases h
        | true =>
          rw [hobject, hforeign, hclosed] at h
          have hversion := (Bool.and_eq_true_iff.mp hforeign).2
          cases hcontainer : isContainer (valueOf "format" v) with
          | true => simp [hashesFormat, hclosed, hversion, hcontainer]
          | false =>
            exfalso
            have hpolite : ∀ e, requireFormat (valueOf "format" v) = .error e → e = .malformed := by
              intro e he
              cases hvalue : valueOf "format" v with
              | arr items =>
                rw [hvalue] at hcontainer
                cases hcontainer
              | obj members =>
                rw [hvalue] at hcontainer
                cases hcontainer
              | str s =>
                rw [hvalue] at he
                exact require_malformed he
              | _ =>
                rw [hvalue] at he
                cases he
                rfl
            have hnone : SidecarFault.escaped = .malformed := by
              refine bind_polite h (fun e he => by cases he) fun _ e he => ?_
              refine bind_polite he (fun e he => by cases he) fun _ e he => ?_
              refine bind_polite he (fun e he => by cases he) fun _ e he => ?_
              refine bind_polite he hpolite fun _ e he => ?_
              refine bind_polite he (fun e he => require_malformed he) fun _ e he => ?_
              exact bind_polite he (fun e he => parseFields_polite he) fun _ e he =>
                orMalformed_error he
            cases hnone
  · intro h
    simp only [hashesFormat, Bool.and_eq_true] at h
    obtain ⟨⟨hclosed, hversion⟩, hcontainer⟩ := h
    have hobject : v.asObj.isSome = true := by
      cases v with
      | obj members => rfl
      | _ => cases hclosed
    have hforeign : (!hasForeignFormat v && !hasForeignVersion v) = true := by
      simp [container_format hcontainer, hversion]
    have hformat : requireFormat (valueOf "format" v) = .error .escaped := by
      cases hvalue : valueOf "format" v with
      | arr items => rfl
      | obj members => rfl
      | _ =>
        rw [hvalue] at hcontainer
        cases hcontainer
    unfold decodeTree
    rw [hobject, hforeign, hclosed, hformat]
    rfl

theorem parseOptional_ok {α : Type} {parse : PyJson → Except SidecarFault α} {a : Option α}
    (h : parseOptional parse v = .ok a) (hne : v ≠ .null) : ∃ b, parse v = .ok b := by
  cases v with
  | null => exact absurd rfl hne
  | _ =>
    obtain ⟨b, hb, -⟩ := map_eq_ok.mp h
    exact ⟨b, hb⟩

/-- A closed object with closed objects in its places. -/
structure Closed (v : PyJson) : Prop where
  root : isClosed rootFields v = true
  tagDefinitions : ∀ items, valueOf "tag_definitions" v = .arr items →
    ∀ item ∈ items, isClosed tagDefinitionFields item = true
  processed : valueOf "processed" v ≠ .null →
    isClosed processedFields (valueOf "processed" v) = true
  location : isClosed locationFields (valueOf "location" v) = true

theorem Accepted.closedEverywhere (h : Accepted v f) : Closed v where
  root := h.closed
  tagDefinitions items hitems item hitem := by
    have hread := h.read.tagDefinitions
    rw [hitems] at hread
    have hall := parseItems_ok hread
    clear hitems hread
    generalize f.tagDefinitions = definitions at hall
    induction hall with
    | nil => cases hitem
    | cons hfirst hrest ih =>
      rcases List.mem_cons.mp hitem with rfl | hitem
      · exact (parseTagDefinition_ok hfirst).1
      · exact ih hitem
  processed hne := by
    obtain ⟨state, hstate⟩ := parseOptional_ok h.read.processed hne
    exact (parseProcessedState_ok hstate).1
  location := (parseLocation_ok h.read.location).1

/-- No number that may be none, and no object with a key twice. -/
theorem Accepted.plain (horderly : orderly v = true) (h : Accepted v f) :
    shaped false v 3 = true := by
  have hmember := orderly_valueOf horderly
  have hformat : shaped false (valueOf "format" v) 2 = true := by
    have hrequire := h.formatText
    cases hvalue : valueOf "format" v with
    | str s => rfl
    | _ =>
      rw [hvalue] at hrequire
      cases hrequire
  have hversion : shaped false (valueOf "schema_version" v) 2 = true := by
    have hrequire := h.versionNumber
    cases hvalue : valueOf "schema_version" v with
    | int n => rfl
    | _ =>
      rw [hvalue] at hrequire
      cases hrequire
  apply shaped_closed horderly h.closed
  simp only [rootFields, List.forall_mem_cons]
  exact ⟨hformat, hversion, (field_identity _).plain (hmember _) h.read.mediaId 2,
    (field_enum mediaKinds (by decide)).plain (hmember _) h.read.mediaKind 2,
    (field_optionalForm _).plain (hmember _) h.read.displayTitle 2,
    (field_optionalForm _).plain (hmember _) h.read.description 2,
    field_tagKey.list.plain (hmember _) h.read.tagKeys 1,
    field_tagDefinition.list.plain (hmember _) h.read.tagDefinitions 0,
    (field_enum contentCategories (by decide)).plain (hmember _) h.read.contentCategory 2,
    (field_enum acquisitionSources (by decide)).plain (hmember _) h.read.acquisitionSource 2,
    field_genres.plain (hmember _) h.read.genreKeys 1,
    field_creatorKind.plain (hmember _) h.read.creatorKind 2,
    field_creatorText.plain (hmember _) h.read.creatorStableId 2,
    field_creatorText.plain (hmember _) h.read.creatorHandle 2,
    field_creatorText.plain (hmember _) h.read.creatorDisplayName 2,
    field_processed?.plain (hmember _) h.read.processed 1,
    field_time.plain (hmember _) h.read.createdAtMs 2,
    field_time.plain (hmember _) h.read.updatedAtMs 2,
    field_location.plain (hmember _) h.read.location 1, by simp⟩

theorem readText_ok {s : PyStr} :
    readText nesting s = .ok v ↔ JsonReader.loads ⟨nesting, true⟩ s = .ok v := by
  unfold readText
  cases hloads : JsonReader.loads ⟨nesting, true⟩ s with
  | ok w => simp
  | error e => cases e <;> simp

theorem readText_escaped {s : PyStr} :
    readText nesting s = .error .escaped ↔ JsonReader.loads ⟨nesting, true⟩ s = .error .raised := by
  unfold readText
  cases hloads : JsonReader.loads ⟨nesting, true⟩ s with
  | ok w => simp
  | error e => cases e <;> simp

/-- What has to be refused wherever it stands: an object with a key twice, and a number that is
infinite or none, as `NaN` is and `1e999` is read. -/
def Forbidden : PyJson → Prop
  | .obj members => ¬(members.map Prod.fst).Nodup
  | .constant _ | .float _ => True
  | _ => False

theorem shaped_permitted {room : Nat} (h : shaped false v room = true) : ¬Forbidden v := by
  cases v with
  | obj members =>
    intro hforbidden
    simp only [shaped, Bool.and_eq_true, decide_eq_true_eq] at h
    exact hforbidden h.1.2
  | float literal => cases h
  | constant name => cases h
  | _ => exact id

/-- Bytes that have to be refused. -/
def Faulty (nesting : Nat) (b : Utf8.Bytes) : Prop :=
  utf8Bom.isPrefixOf b = true ∨
    ∃ chars v, Utf8.decodeStrict b = some chars ∧
      JsonReader.loads ⟨nesting, false⟩ (ofChars chars) = .ok v ∧
      ((∃ w, Within w v ∧ Forbidden w) ∨ ¬Closed v)

/-- The bytes are answered with a document that can be written and read again, or refused with
an error of the codec. -/
structure AnswersWell (u : Unicode) (nesting : Nat) (b : Utf8.Bytes) : Prop where
  document : ∀ d, decodeMediaSidecar u nesting b = .ok d →
    ∃ e, encodeMediaSidecar d = .ok e ∧ decodeMediaSidecar u nesting e = .ok d
  error : ∀ x, decodeMediaSidecar u nesting b = .error x → x ≠ .escaped
  strict : Faulty nesting b → ∃ x, decodeMediaSidecar u nesting b = .error x

/-- The reader raises nothing but its own error on the text, and the tree it returns neither has
a list or a dict for its format nor is a sidecar with a lone surrogate. -/
def Harmless (u : Unicode) (nesting : Nat) (b : Utf8.Bytes) : Prop :=
  ∀ s, textOf b = .ok s → JsonReader.loads ⟨nesting, true⟩ s ≠ .error .raised ∧
    ∀ v, JsonReader.loads ⟨nesting, true⟩ s = .ok v →
      hashesFormat v = false ∧ (IsSidecar u v → surrogates v = false)

theorem textOf_ok {s : PyStr} (h : textOf b = .ok s) :
    utf8Bom.isPrefixOf b = false ∧ ∃ chars, Utf8.decodeStrict b = some chars ∧ s = ofChars chars := by
  obtain ⟨-, h⟩ := require_bind_eq_ok.mp h
  obtain ⟨hbom, h⟩ := require_bind_eq_ok.mp h
  obtain ⟨chars, hchars, h⟩ := bind_eq_ok.mp h
  cases h
  exact ⟨by simpa using hbom, chars, orMalformed_ok.mp hchars, rfl⟩

theorem textOf_polite (h : textOf b = .error x) : x = .malformed := by
  refine bind_polite h (fun e he => require_malformed he) fun _ e he => ?_
  refine bind_polite he (fun e he => require_malformed he) fun _ e he => ?_
  exact bind_polite he (fun e he => orMalformed_error he) fun _ e he => by cases he

/-- No document comes of bytes that have to be refused. -/
theorem decode_strict (h : decodeMediaSidecar u nesting b = .ok d) : ¬Faulty nesting b := by
  obtain ⟨s, htext, hdecode⟩ := bind_eq_ok.mp h
  obtain ⟨v, hread, htree⟩ := bind_eq_ok.mp hdecode
  obtain ⟨hbom, chars, hchars, rfl⟩ := textOf_ok htext
  obtain ⟨hplain, horderly⟩ := JsonReader.loads_checked (readText_ok.mp hread)
  obtain ⟨f, haccepted, -⟩ := decodeTree_ok.mp htree
  rintro (hfaulty | ⟨chars', v', hchars', hplain', hfaulty⟩)
  · rw [hbom] at hfaulty
    cases hfaulty
  · rw [hchars] at hchars'
    cases hchars'
    rw [hplain] at hplain'
    cases hplain'
    rcases hfaulty with ⟨w, hwithin, hforbidden⟩ | hopen
    · obtain ⟨room, hw⟩ := shaped_within hwithin (haccepted.plain horderly)
      exact shaped_permitted hw hforbidden
    · exact hopen haccepted.closedEverywhere

/-- What a tree is read as is in the spelling of the writer, and is written again unless it holds
a lone surrogate. -/
theorem decodeTree_writes (horderly : orderly v = true) (h : decodeTree u v = .ok d) :
    d.normalised = d ∧ ((∃ e, encodeMediaSidecar d = .ok e) ↔ surrogates v = false) := by
  obtain ⟨f, haccepted, hmake⟩ := decodeTree_ok.mp h
  obtain ⟨creator, hcreator, hfields⟩ := SidecarDocument.make_some hmake
  obtain ⟨-, -, -, hkind, -⟩ := validateCreator_some u hcreator
  have hformat : d.format = .framenest := by
    rw [hfields]
    exact haccepted.read.format
  constructor
  · apply SidecarDocument.ext
    change { d.toSidecarFields with format := .framenest } = d.toSidecarFields
    rw [← hformat]
  · rw [encode_ok_iff, hfields, creator_surrogates hcreator, payload_surrogates horderly haccepted,
      payload_writable horderly haccepted creator hkind.symm]
    simp

/-- The case of texts that are in lower case and in their normal form already. -/
def Unicode.settled : Unicode where
  nfc s := s
  lower s := s
  nfc_nfc _ := rfl
  nfc_snug _ h := h
  nfc_calm _ h := h
  nfc_surrogate _ := rfl
  lower_lower _ := rfl
  lower_snug _ h := h
  lower_at _ h := h
  lower_calm _ h := h
  lower_surrogate _ := rfl

/-- A bracket more than the reader may open. -/
theorem feed_deep {settings : JsonReader.Settings} (n : Nat) {first : Bool}
    {stack : List JsonReader.Frame} (h : settings.nesting < stack.length + n)
    (hstack : stack.length ≤ settings.nesting) :
    JsonReader.feed settings (.value first, stack) (ofChars (List.replicate n '[')) =
      .error .raised := by
  induction n generalizing first stack with
  | zero => omega
  | succ n ih =>
    have hstep : JsonReader.step settings (.value first, stack) (.char '[') =
        JsonReader.openFrame settings (.value true) (.array []) stack := by
      cases first <;> rfl
    rw [List.replicate_succ]
    change (JsonReader.step settings (.value first, stack) (.char '[')).bind _ = _
    rw [hstep, JsonReader.openFrame]
    by_cases hfull : settings.nesting ≤ stack.length
    · rw [if_pos hfull]
      rfl
    · rw [if_neg hfull]
      apply ih
      · rw [List.length_cons]
        omega
      · rw [List.length_cons]
        omega

/-- Brackets that nest deeper than the interpreter allows end with its own error. -/
theorem decode_deep (u : Unicode) {n nesting : Nat} (h : nesting < n) (hn : n ≤ maxSidecarBytes) :
    decodeMediaSidecar u nesting (List.replicate n 0x5b) = .error .escaped := by
  have hbytes : List.replicate n (0x5b : UInt8) = (List.replicate n '[').flatMap Utf8.encodeChar := by
    clear h hn
    induction n with
    | zero => rfl
    | succ n ih =>
      have hchar : Utf8.encodeChar '[' = [0x5b] := by decide
      rw [List.replicate_succ, List.replicate_succ, List.flatMap_cons, ← ih, hchar]
      rfl
  have htext : textOf (List.replicate n 0x5b) = .ok (ofChars (List.replicate n '[')) := by
    obtain ⟨m, rfl⟩ := Nat.exists_eq_add_of_lt h
    refine require_bind_eq_ok.mpr ⟨by simpa using hn, ?_⟩
    refine require_bind_eq_ok.mpr ⟨by rfl, ?_⟩
    refine bind_eq_ok.mpr ⟨_, orMalformed_ok.mpr ?_, rfl⟩
    rw [hbytes, Utf8.decodeStrict_encode]
  have hread : readText nesting (ofChars (List.replicate n '[')) = .error .escaped :=
    readText_escaped.mpr (feed_deep n (by simpa using h) (Nat.zero_le _))
  unfold decodeMediaSidecar
  rw [htext]
  change (readText nesting _ >>= decodeTree u) = _
  rw [hread]
  rfl

end Decoding
end FrameNest.Sidecar
