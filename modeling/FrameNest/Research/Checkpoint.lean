import FrameNest.Text.Json
import FrameNest.Research.Values

/-! The validating checkpoint: an accepted answer as JSON, and back. -/
namespace FrameNest.Research
open Plain

def citationJson (citation : ResearchCitation) : Json :=
  .obj [("title", .str citation.title), ("url", .str citation.url)]

def evidenceJson (evidence : CompletionEvidence) : Json :=
  .obj [("answer_complete", .bool evidence.answerComplete),
    ("incomplete_marker", .bool evidence.incompleteMarker),
    ("provider_terminal", .bool evidence.providerTerminal),
    ("refusal_marker", .bool evidence.refusalMarker),
    ("web_search_executed", .bool evidence.webSearchExecuted)]

def usageJson : Option ResearchUsage → Json
  | none => .null
  | some usage =>
    .obj [("cache_write_input_tokens", match usage.cacheWriteInputTokens with
        | none => .null
        | some n => .int n),
      ("cached_input_tokens", .int usage.cachedInputTokens),
      ("input_tokens", .int usage.inputTokens),
      ("output_tokens", .int usage.outputTokens),
      ("reasoning_tokens", .int usage.reasoningTokens),
      ("web_tool_calls", .int usage.webToolCalls)]

def answerCheckpoint (answer : ResearchAnswer) : Json :=
  .obj [("citations", .arr (answer.citations.map citationJson)),
    ("evidence", evidenceJson answer.evidence),
    ("text", .str answer.text),
    ("usage", usageJson answer.usage)]

def ResearchCitation.make? (url title : String) : Option ResearchCitation :=
  if h : (url ≠ "" ∧ url.toList.any isSpace = false) ∧ url.utf8ByteSize ≤ maxCitationUrlBytes ∧
      title.utf8ByteSize ≤ maxCitationTitleBytes then some ⟨url, title, h.1, h.2.1, h.2.2⟩
  else none

def ResearchUsage.make? (inputTokens cachedInputTokens outputTokens reasoningTokens
    webToolCalls : Nat) (cacheWriteInputTokens : Option Nat) : Option ResearchUsage :=
  if h : cachedInputTokens ≤ inputTokens ∧ reasoningTokens ≤ outputTokens ∧
      cacheWriteInputTokens.all (fun n => decide (cachedInputTokens + n ≤ inputTokens)) = true then
    some ⟨inputTokens, cachedInputTokens, outputTokens, reasoningTokens, webToolCalls,
      cacheWriteInputTokens, h.1, h.2.1, fun n hn => by simpa [hn] using h.2.2⟩
  else none

def ResearchAnswer.make? (text : String) (citations : List ResearchCitation)
    (evidence : CompletionEvidence) (usage : Option ResearchUsage) : Option ResearchAnswer :=
  if h : text ≠ "" ∧ text.utf8ByteSize ≤ maxAnswerUtf8Bytes ∧
      citations.length ≤ maxCitationCount then
    some ⟨text, citations, evidence, usage, h.1, h.2.1, h.2.2⟩
  else none

/- `str(x)`, `int(x)` and `bool(x)` of a parsed value. The column holds what
   `answerCheckpoint` wrote, so `str` is only read at strings. -/
def asStr : Json → Option String
  | .str s => some s
  | _ => none

def asInt : Json → Option Nat
  | .int n => if 0 ≤ n then some n.toNat else none
  | .bool b => some b.toNat
  | _ => none

def asBool : Json → Bool
  | .null => false
  | .bool b => b
  | .int n => n ≠ 0
  | .str s => s ≠ ""
  | .arr items => !items.isEmpty
  | .obj members => !members.isEmpty

def citationFromJson (item : Json) : Option ResearchCitation := do
  let url ← asStr (← item.get? "url")
  let title ← asStr (← item.get? "title")
  ResearchCitation.make? url title

def evidenceFromJson (evidence : Json) : Option CompletionEvidence := do
  return {
    providerTerminal := asBool (← evidence.get? "provider_terminal")
    answerComplete := asBool (← evidence.get? "answer_complete")
    webSearchExecuted := asBool (← evidence.get? "web_search_executed")
    refusalMarker := asBool (← evidence.get? "refusal_marker")
    incompleteMarker := asBool (← evidence.get? "incomplete_marker") }

def usageFromJson (payload : Json) : Option ResearchUsage := do
  let inputTokens ← asInt (← payload.get? "input_tokens")
  let cachedInputTokens ← asInt (← payload.get? "cached_input_tokens")
  let outputTokens ← asInt (← payload.get? "output_tokens")
  let reasoningTokens ← asInt (← payload.get? "reasoning_tokens")
  let webToolCalls ← asInt (← payload.get? "web_tool_calls")
  let make := ResearchUsage.make? inputTokens cachedInputTokens outputTokens reasoningTokens
    webToolCalls
  match payload.get? "cache_write_input_tokens" with
  | none | some .null => make none
  | some n => make (some (← asInt n))

/- `none` for everything the source catches: a missing key, a wrong type, a value
   that its constructor refuses. -/
def answerFromCheckpoint (data : Json) : Option ResearchAnswer := do
  let citations ← match data.get? "citations" with
    | none => some []
    | some (.arr items) => items.mapM citationFromJson
    | some _ => none
  let evidence ← evidenceFromJson (← data.get? "evidence")
  let usage ← match data.get? "usage" with
    | none | some .null => some none
    | some payload => (usageFromJson payload).map some
  ResearchAnswer.make? (← asStr (← data.get? "text")) citations evidence usage

theorem ResearchCitation.make?_self (c : ResearchCitation) :
    ResearchCitation.make? c.url c.title = some c := by
  rw [ResearchCitation.make?, dif_pos ⟨c.url_plain, c.url_bounded, c.title_bounded⟩]

theorem ResearchAnswer.make?_self (a : ResearchAnswer) :
    ResearchAnswer.make? a.text a.citations a.evidence a.usage = some a := by
  rw [ResearchAnswer.make?, dif_pos ⟨a.text_nonempty, a.text_bounded, a.citations_bounded⟩]

theorem ResearchUsage.make?_self (u : ResearchUsage) :
    ResearchUsage.make? u.inputTokens u.cachedInputTokens u.outputTokens u.reasoningTokens
      u.webToolCalls u.cacheWriteInputTokens = some u := by
  have hwrite : u.cacheWriteInputTokens.all
      (fun n => decide (u.cachedInputTokens + n ≤ u.inputTokens)) = true := by
    cases hn : u.cacheWriteInputTokens with
    | none => rfl
    | some n => simpa using u.cacheWrite_le n hn
  rw [ResearchUsage.make?, dif_pos ⟨u.cached_le, u.reasoning_le, hwrite⟩]

theorem citationFromJson_citationJson (c : ResearchCitation) :
    citationFromJson (citationJson c) = some c := by
  simpa [citationFromJson, citationJson, Json.get?, List.lookup_cons, asStr] using c.make?_self

theorem citations_roundTrip (citations : List ResearchCitation) :
    citations.mapM (citationFromJson ∘ citationJson) = some citations := by
  induction citations with
  | nil => rfl
  | cons c citations ih => simp [citationFromJson_citationJson, ih]

theorem evidence_roundTrip (e : CompletionEvidence) :
    evidenceFromJson (evidenceJson e) = some e := by
  simp [evidenceFromJson, evidenceJson, Json.get?, List.lookup_cons, asBool]

theorem usage_roundTrip (u : ResearchUsage) : usageFromJson (usageJson (some u)) = some u := by
  have h := u.make?_self
  cases hn : u.cacheWriteInputTokens with
  | none =>
    rw [hn] at h
    simpa [usageFromJson, usageJson, Json.get?, List.lookup_cons, asInt, hn] using h
  | some n =>
    rw [hn] at h
    simpa [usageFromJson, usageJson, Json.get?, List.lookup_cons, asInt, hn] using h

/-- Whatever answer was accepted, its checkpoint reads back as that answer. -/
theorem answerFromCheckpoint_answerCheckpoint (a : ResearchAnswer) :
    answerFromCheckpoint (answerCheckpoint a) = some a := by
  have h := a.make?_self
  cases hu : a.usage with
  | none =>
    rw [hu] at h
    simpa [answerFromCheckpoint, answerCheckpoint, Json.get?, List.lookup_cons, citations_roundTrip,
      evidence_roundTrip, usageJson, asStr, hu] using h
  | some u =>
    have hu' := usage_roundTrip u
    rw [hu] at h
    obtain ⟨j, hj⟩ : ∃ j, usageJson (some u) = .obj j := ⟨_, rfl⟩
    rw [hj] at hu'
    simpa [answerFromCheckpoint, answerCheckpoint, Json.get?, List.lookup_cons, citations_roundTrip,
      evidence_roundTrip, hj, hu', asStr, hu] using h

end FrameNest.Research
