import FrameNest.Records.Approvals

/-! What an approval writes can be read back. JSON is printed with sorted keys, so that a value
comes back with its members in their order; Python's `==` does not see the difference. -/
namespace FrameNest.Records
open Plain Research

/- `json.loads` of what was printed. -/
def Tool.Reads (t : Tool) (v : Parsed) : Prop := t.loads (t.dumps v) = .value v.sorted
def Tool.ReadsAscii (t : Tool) (v : Parsed) : Prop := t.loads (t.dumpsAscii v) = .value v.sorted

/-- The texts of a document are read as they were printed. -/
structure ReadsDocument (t : Tool) (d : CompletedDocument) : Prop where
  citations : t.Reads (citationsValue d.citations)
  evidence : t.ReadsAscii (evidenceValue d.evidence)

structure ReadsProjection (t : Tool) (p : ApprovalProjection) : Prop where
  payload : t.Reads p.payload
  document : ∀ d, p.document = some d → ReadsDocument t d

def ApprovedLocationSnapshot.sorted (l : ApprovedLocationSnapshot) : ApprovedLocationSnapshot :=
  { l with
    observedSizeBytes := l.observedSizeBytes.sorted
    observedMtimeNs := l.observedMtimeNs.sorted }

/-- The projection with the members of its values in the order of their keys. -/
def ApprovalProjection.sorted (p : ApprovalProjection) : ApprovalProjection :=
  { p with
    analysisRunId := p.analysisRunId.sorted
    mediaId := p.mediaId.sorted
    displayTitle := p.displayTitle.sorted
    description := p.description.sorted
    contentCategory := p.contentCategory.sorted
    acquisitionSource := p.acquisitionSource.sorted
    creatorAttributionKind := p.creatorAttributionKind.sorted
    creatorStableId := p.creatorStableId.sorted
    creatorHandle := p.creatorHandle.sorted
    creatorDisplayName := p.creatorDisplayName.sorted
    coverArtifactDigest := p.coverArtifactDigest.sorted
    locations := p.locations.map (·.sorted)
    analysisResult := p.analysisResult.sorted }

/- `==`. -/
def ApprovalProjection.Same (p q : ApprovalProjection) : Prop := p.sorted = q.sorted

section Documents
variable {t : Tool}

theorem citation?_self (c : ResearchCitation) : citation? c.url c.title = some c := by
  have hvalid : (c.url ≠ "" ∧ c.url.toList.any isSpace = false) ∧
      c.url.utf8ByteSize ≤ maxCitationUrlBytes ∧ c.title.utf8ByteSize ≤ maxCitationTitleBytes :=
    ⟨c.url_plain, c.url_bounded, c.title_bounded⟩
  rw [citation?, dif_pos hvalid]

theorem citationOf_object (c : ResearchCitation) : citationOf (citationObject c) = some c :=
  citation?_self c

theorem mapM_some {α β : Type} {f : α → Option β} {g : β → α} (h : ∀ x, f (g x) = some x)
    (l : List β) : (l.map g).mapM f = some l := by
  induction l with
  | nil => rfl
  | cons x rest ih => simp [h, ih]

theorem sorted_citations (citations : List ResearchCitation) :
    (citationsValue citations).sorted = citationsValue citations := by
  have hobject : ∀ c, (citationObject c).sorted = citationObject c := by
    intro c
    rw [citationObject, Parsed.sorted_obj (by simp)]
    rfl
  rw [citationsValue, Parsed.sorted_arr, List.map_map]
  congr 1
  exact List.map_congr_left fun c _ => hobject c

theorem sorted_evidence (e : CompletionEvidence) : (evidenceValue e).sorted = evidenceValue e := by
  rw [evidenceValue, Parsed.sorted_obj (by simp)]
  rfl

theorem citationsFromJson_json {citations : List ResearchCitation}
    (hfew : citations.length ≤ maxCitationCount) (h : t.Reads (citationsValue citations)) :
    citationsFromJson t (citationsJson t citations) = some citations := by
  have hloads : t.loads (citationsJson t citations) = .value (citationsValue citations) := by
    rw [citationsJson, h, sorted_citations]
  have hlength : ¬ maxCitationCount < (citations.map citationObject).length := by
    rw [List.length_map]
    omega
  unfold citationsFromJson
  rw [hloads]
  simp only [citationsValue, hlength, if_false, mapM_some citationOf_object, if_true]

theorem evidenceFromJson_json {e : CompletionEvidence} (h : t.ReadsAscii (evidenceValue e)) :
    evidenceFromJson t (evidenceJson t e) = some e := by
  have hloads : t.loads (evidenceJson t e) = .value (evidenceValue e) := by
    rw [evidenceJson, h, sorted_evidence]
  have hkeys : Parsed.keysAre evidenceKeys [("answer_complete", .bool e.answerComplete),
      ("incomplete_marker", .bool e.incompleteMarker),
      ("provider_terminal", .bool e.providerTerminal),
      ("refusal_marker", .bool e.refusalMarker),
      ("web_search_executed", .bool e.webSearchExecuted)] = true := rfl
  unfold evidenceFromJson
  rw [hloads]
  simp only [evidenceValue, hkeys, if_true]
  exact if_pos rfl

theorem kind_value (kind : RecordKind) : RecordKind.ofParsed? (.str kind.value) = some kind := by
  cases kind <;> rfl

theorem recordKind_document (kind : ResearchOperationKind) :
    (recordKind kind).document? = some kind := by
  cases kind <;> rfl

/-- A document is rebuilt from its columns. -/
theorem documentFromStorage_columns {d : CompletedDocument} (hbuilt : Built t d)
    (h : ReadsDocument t d) : documentFromStorage t (columns t d) = some d := by
  have hkind : (RecordKind.ofParsed? (columns t d).kind).bind RecordKind.document? =
      some d.kind := by
    rw [columns, kind_value]
    exact recordKind_document d.kind
  have hcitations : citationsFromJson t (columns t d).citationsJson = some d.citations :=
    citationsFromJson_json d.citations_bounded h.citations
  have hevidence : evidenceFromJson t (columns t d).completionEvidenceJson = some d.evidence :=
    evidenceFromJson_json h.evidence
  have hidentity : ¬ (isUuid4Text (text (columns t d).documentId) = false ∨
      parseOperationToken t.casefold (text (columns t d).operationId) = false) := by
    rintro (hfalse | hfalse)
    · exact absurd hbuilt.identity (by simpa [columns, text, Parsed.asStr] using hfalse)
    · exact absurd hbuilt.operation (by simpa [columns, text, Parsed.asStr] using hfalse)
  unfold documentFromStorage
  rw [hkind, hcitations, hevidence]
  dsimp only
  rw [if_neg hidentity, dif_pos ⟨d.question_nonblank, d.answer_nonblank, d.citations_bounded,
    d.evidence_complete, d.created_nonneg, d.completed_after⟩]
  rfl

/-- What is read back was checked as the constructor checks it. -/
theorem documentFromStorage_built {c : DocumentColumns} {d : CompletedDocument}
    (h : documentFromStorage t c = some d) : Built t d := by
  unfold documentFromStorage at h
  split at h
  · split at h
    · cases h
    · rename_i hvalid
      simp only [not_or, Bool.not_eq_false] at hvalid
      split at h
      · cases h
        exact ⟨hvalid.1, hvalid.2⟩
      · cases h
  · cases h

end Documents

section Projections
variable {t : Tool} {p : ApprovalProjection}

theorem documentOf_value {d : CompletedDocument} (hbuilt : Built t d) (h : ReadsDocument t d) :
    documentOf t (documentValue d) = some (some d) := by
  have hdocument : documentFromStorage t (columns t d) = some d :=
    documentFromStorage_columns hbuilt h
  show (documentFromStorage t (columns t d)).map some = some (some d)
  rw [hdocument]
  rfl

theorem tagOf_value (tag : ApprovedTagSnapshot) : tagOf t (tagValue tag) = some tag := rfl

theorem locationOf_value (l : ApprovedLocationSnapshot) : locationOf t (locationValue l) = some l :=
  rfl

theorem sorted_tag (tag : ApprovedTagSnapshot) : (tagValue tag).sorted = tagValue tag := by
  rw [tagValue, Parsed.sorted_obj (by simp)]
  rfl

theorem sorted_location (l : ApprovedLocationSnapshot) :
    (locationValue l).sorted = locationValue l.sorted := by
  rw [locationValue, Parsed.sorted_obj (by simp)]
  rfl

theorem sorted_document (d : CompletedDocument) : (documentValue d).sorted = documentValue d := by
  rw [documentValue, Parsed.sorted_obj (by simp)]
  simp only [List.map_cons, List.map_nil, sorted_citations, sorted_evidence]
  rfl

/-- The text is that of the projection with its members in order. -/
theorem sorted_payload (p : ApprovalProjection) : p.payload.sorted = p.sorted.payload := by
  have htags : (Parsed.arr (p.tags.map tagValue)).sorted = .arr (p.tags.map tagValue) := by
    rw [Parsed.sorted_arr, List.map_map]
    congr 1
    exact List.map_congr_left fun tag _ => sorted_tag tag
  have hlocations : (Parsed.arr (p.locations.map locationValue)).sorted =
      .arr (p.sorted.locations.map locationValue) := by
    rw [Parsed.sorted_arr, List.map_map]
    simp only [ApprovalProjection.sorted, List.map_map]
    congr 1
    exact List.map_congr_left fun l _ => sorted_location l
  have hdocument : (p.document.elim .null documentValue).sorted =
      p.document.elim .null documentValue := by
    cases p.document with
    | none => rfl
    | some d => exact sorted_document d
  rw [ApprovalProjection.payload, Parsed.sorted_obj (by simp)]
  simp only [List.map_cons, List.map_nil, htags, hlocations, hdocument]
  rfl

theorem canonicalJson_sorted (t : Tool) (p : ApprovalProjection) :
    p.sorted.canonicalJson t = p.canonicalJson t := by
  rw [ApprovalProjection.canonicalJson, ← sorted_payload]
  exact Parsed.dumps_sorted t.float false p.payload

theorem sorted_sorted (p : ApprovalProjection) : p.sorted.sorted = p.sorted := by
  have hlocation : ∀ l : ApprovedLocationSnapshot, l.sorted.sorted = l.sorted := by
    intro l
    simp only [ApprovedLocationSnapshot.sorted, Parsed.sorted_sorted]
  simp only [ApprovalProjection.sorted, Parsed.sorted_sorted, List.map_map]
  congr 1
  exact List.map_congr_left fun l _ => hlocation l

/-- A projection is read from its own payload. -/
theorem projectionOf_payload {members : List (String × Parsed)} (hmembers : p.payload = .obj members)
    (hdocument : ∀ d, p.document = some d → Built t d ∧ ReadsDocument t d) :
    projectionOf t members = some p := by
  have hread : documentOf t (p.document.elim .null documentValue) = some p.document := by
    cases hd : p.document with
    | none => rfl
    | some d => exact documentOf_value (hdocument d hd).1 (hdocument d hd).2
  have htags : (p.tags.map tagValue).mapM (tagOf t) = some p.tags := mapM_some tagOf_value p.tags
  have hlocations : (p.locations.map locationValue).mapM (locationOf t) = some p.locations :=
    mapM_some locationOf_value p.locations
  have hgetDocument : documentOf t (get members "document") = some p.document := by
    cases hmembers
    exact hread
  have hgetTags : (items? (get members "tags")).bind (·.mapM (tagOf t)) = some p.tags := by
    cases hmembers
    exact htags
  have hgetLocations :
      (items? (get members "locations")).bind (·.mapM (locationOf t)) = some p.locations := by
    cases hmembers
    exact hlocations
  have hgetSchema : (members.lookup "schema_version").bind t.asInt = some p.schemaVersion := by
    cases hmembers
    rfl
  have hgetKind : (members.lookup "record_kind").bind RecordKind.ofParsed? = some p.recordKind := by
    cases hmembers
    exact kind_value p.recordKind
  have hgetVersion : (members.lookup "record_version").bind t.asInt = some p.recordVersion := by
    cases hmembers
    rfl
  unfold projectionOf
  rw [hgetDocument, hgetTags, hgetLocations, hgetSchema, hgetKind, hgetVersion]
  cases hmembers
  rfl

/-- Whatever can be printed and loaded is read back as it was. -/
theorem projectionFromStorage_canonical (hread : ReadsProjection t p)
    (hbuilt : ∀ d, p.document = some d → Built t d) :
    projectionFromStorage t (p.canonicalJson t) = some p.sorted := by
  have hnonempty : p.canonicalJson t ≠ "" := by
    intro hempty
    have hchars := congrArg String.toList hempty
    rw [ApprovalProjection.canonicalJson, Tool.dumps, Parsed.dumps, sorted_payload] at hchars
    simp [ApprovalProjection.payload, Parsed.print] at hchars
  have hloads : t.loads (p.canonicalJson t) = .value p.sorted.payload := by
    rw [ApprovalProjection.canonicalJson, hread.payload, sorted_payload]
  have hprojection : ∀ members, p.sorted.payload = .obj members →
      projectionOf t members = some p.sorted := fun members hmembers =>
    projectionOf_payload hmembers fun d hd => ⟨hbuilt d hd, hread.document d hd⟩
  unfold projectionFromStorage
  rw [if_neg hnonempty, hloads]
  obtain ⟨members, hmembers⟩ : ∃ members, p.sorted.payload = .obj members := ⟨_, rfl⟩
  rw [hmembers]
  dsimp only
  rw [hprojection members hmembers]
  simp [canonicalJson_sorted]

end Projections

theorem buildProjection_built {t : Tool} {c : Catalogue} {row : RecordRow} {p : ApprovalProjection}
    (h : buildProjection t c row = some p) : ∀ d, p.document = some d → Built t d := by
  intro d hd
  unfold buildProjection at h
  split at h
  · cases h
  · unfold mediaProjection at h
    dsimp only at h
    split at h
    · cases h
    · split at h
      · split at h
        · cases h
        · split at h
          · cases h
          · split at h
            · cases h
            · obtain ⟨analysis, -, rfl⟩ := Option.map_eq_some_iff.mp h
              cases hd
      · cases h
  · cases h
  · rename_i documentId hcolumns
    split at h
    · cases h
    · rename_i document hdocument
      obtain ⟨stored, -, hstored⟩ := Option.bind_eq_some_iff.mp hdocument
      split at h
      · cases h
      · split at h
        · cases h
        · cases h
          cases hd
          exact documentFromStorage_built hstored

/-- What approve writes is read back with the same text, so with the same digest; text that is
accepted is the text of what is returned; and a document is rebuilt from its columns. -/
theorem approval_round_trip (t : Tool) :
    (∀ c row p, buildProjection t c row = some p → ReadsProjection t p →
      ∃ q, projectionFromStorage t (p.canonicalJson t) = some q ∧ q.Same p ∧
        q.canonicalJson t = p.canonicalJson t) ∧
    (∀ value q, projectionFromStorage t value = some q → q.canonicalJson t = value) ∧
    ∀ d, Built t d → ReadsDocument t d → documentFromStorage t (columns t d) = some d := by
  refine ⟨fun c row p hp hread => ?_, fun value q hq => ?_, fun d hbuilt hread => ?_⟩
  · exact ⟨p.sorted, projectionFromStorage_canonical hread (buildProjection_built hp),
      sorted_sorted p, canonicalJson_sorted t p⟩
  · unfold projectionFromStorage at hq
    split at hq
    · cases hq
    · split at hq
      · obtain ⟨-, hsame⟩ := Option.filter_eq_some_iff.mp hq
        exact of_decide_eq_true hsame
      · cases hq
  · exact documentFromStorage_columns hbuilt hread

namespace Stored

/-- A search that was answered with one citation. -/
def document : CompletedDocument where
  documentId := "00000000-0000-4000-8000-000000000001"
  operationId := "op-1"
  kind := .search
  questionText := "Which boat?"
  answerText := "The red one."
  citations := [⟨"https://example.org/boat", "Boats", by decide, by decide, by decide⟩]
  evidence := ⟨true, true, true, false, false⟩
  createdAtMs := 5
  completedAtMs := 9
  question_nonblank := by decide
  answer_nonblank := by decide
  citations_bounded := by decide
  evidence_complete := by decide
  created_nonneg := by decide
  completed_after := by decide

def row : RecordRow := ⟨.search, 1, some 9, some "document", some "op-1", none, none⟩

def projection : ApprovalProjection where
  schemaVersion := 1
  recordKind := .search
  recordVersion := 1
  analysisRunId := .null
  mediaId := .null
  displayTitle := .null
  description := .null
  contentCategory := .null
  acquisitionSource := .null
  creatorAttributionKind := .null
  creatorStableId := .null
  creatorHandle := .null
  creatorDisplayName := .null
  coverArtifactDigest := .null
  tags := []
  locations := []
  analysisResult := .null
  document := some document

def noFloat (_ : Option ℚ) : List Char := []

/- The three texts that are printed. -/
def citationsText : String := Parsed.dumps noFloat false (citationsValue document.citations)
def evidenceText : String := Parsed.dumps noFloat true (evidenceValue document.evidence)
def payloadText : String := Parsed.dumps noFloat false projection.payload

def tool : Tool where
  casefold s := s
  loads s :=
    if s = citationsText then .value (citationsValue document.citations).sorted
    else if s = evidenceText then .value (evidenceValue document.evidence).sorted
    else if s = payloadText then .value projection.payload.sorted
    else .notJson
  float := noFloat
  str _ := ""
  int _ := none

def catalogue : Catalogue where
  document _ := some (columns tool document)
  run _ := none
  metadata _ := none
  tags _ := []
  locations _ := []
  cover _ := none

theorem texts_differ : evidenceText ≠ citationsText ∧ payloadText ≠ citationsText ∧
    payloadText ≠ evidenceText := by decide +kernel

theorem loads_text (s : String) : tool.loads s =
    if s = citationsText then .value (citationsValue document.citations).sorted
    else if s = evidenceText then .value (evidenceValue document.evidence).sorted
    else if s = payloadText then .value projection.payload.sorted
    else .notJson := rfl

theorem reads : ReadsDocument tool document ∧ tool.Reads projection.payload := by
  obtain ⟨hevidence, hcitations, hpayload⟩ := texts_differ
  have hfirst : tool.dumps (citationsValue document.citations) = citationsText := by
    unfold Tool.dumps citationsText
    rfl
  have hsecond : tool.dumpsAscii (evidenceValue document.evidence) = evidenceText := by
    unfold Tool.dumpsAscii evidenceText
    rfl
  have hthird : tool.dumps projection.payload = payloadText := by
    unfold Tool.dumps payloadText
    rfl
  refine ⟨⟨?_, ?_⟩, ?_⟩
  · rw [Tool.Reads, hfirst, loads_text, if_pos rfl]
  · rw [Tool.ReadsAscii, hsecond, loads_text, if_neg hevidence, if_pos rfl]
  · rw [Tool.Reads, hthird, loads_text, if_neg hcitations, if_neg hpayload, if_pos rfl]

theorem reads_projection : ReadsProjection tool projection := by
  refine ⟨reads.2, fun d hd => ?_⟩
  have hsame : document = d := Option.some.inj hd
  rw [← hsame]
  exact reads.1

theorem built : Built tool document := ⟨by decide, by decide⟩

theorem approved : buildProjection tool catalogue row = some projection := by
  have hdocument : (catalogue.document "document").bind (documentFromStorage tool) =
      some document := by
    have hread : documentFromStorage tool (columns tool document) = some document :=
      documentFromStorage_columns built reads.1
    dsimp only [catalogue, Option.bind_some]
    exact hread
  have hoperation : ¬ (some document.operationId ≠ row.finalOperationId ∨
      recordKind document.kind ≠ .search) := by decide
  have hcompleted : ¬ document.completedAtMs ≠ 9 := by decide
  unfold buildProjection
  dsimp only [row] at hoperation ⊢
  rw [hdocument]
  dsimp only
  exact (if_neg hoperation).trans ((if_neg hcompleted).trans rfl)

end Stored

open Stored in
theorem approval_round_trip_search :
    (∃ q, projectionFromStorage tool (projection.canonicalJson tool) = some q ∧
      q.Same projection ∧ q.canonicalJson tool = projection.canonicalJson tool) ∧
    documentFromStorage tool (columns tool document) = some document := by
  obtain ⟨hprojections, -, hdocuments⟩ := approval_round_trip tool
  refine ⟨?_, ?_⟩
  · exact hprojections catalogue row projection approved reads_projection
  · exact hdocuments document built reads.1

end FrameNest.Records
