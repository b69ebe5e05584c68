import FrameNest.Research.Runs

/-! How long the checkpoint of an answer is, and which of the answers that the domain admits can
be stored at all: the domain bounds the bytes of the text, the column the characters of the
whole JSON value. -/
namespace FrameNest.Research
open Plain Json

section Width

def decimalWidth (n : Nat) : Nat := (toString (n : Int)).toList.length

def citationWidth (citation : ResearchCitation) : Nat :=
  17 + quotedWidth citation.title + quotedWidth citation.url

def usageWidth : Option ResearchUsage → Nat
  | none => 4
  | some usage =>
    123 + (match usage.cacheWriteInputTokens with
      | none => 4
      | some n => decimalWidth n) +
    decimalWidth usage.cachedInputTokens + decimalWidth usage.inputTokens +
    decimalWidth usage.outputTokens + decimalWidth usage.reasoningTokens +
    decimalWidth usage.webToolCalls

/-- The length of the checkpoint of an answer whose evidence is complete: the escaped text, the
citations with a comma between two, the usage, and what is always there. -/
def checkpointWidth (answer : ResearchAnswer) : Nat :=
  170 + quotedWidth answer.text + (answer.citations.map citationWidth).sum +
    (answer.citations.length - 1) + usageWidth answer.usage

example : checkpointWidth Sample.answer = 183 := by decide +kernel

theorem length_citationJson (citation : ResearchCitation) :
    (citationJson citation).dumps.length = citationWidth citation := by
  have htitle : quotedWidth "title" = 7 := by decide +kernel
  have hurl : quotedWidth "url" = 5 := by decide +kernel
  simp only [citationJson, length_dumps_obj, length_dumps_str, List.map_cons, List.map_nil,
    List.sum_cons, List.sum_nil, List.length_cons, List.length_nil, htitle, hurl, citationWidth]
  omega

theorem length_dumps_int (n : Nat) : (Json.dumps (.int n)).length = decimalWidth n := by
  simp only [Json.dumps, decimalWidth]

theorem length_dumps_null : (Json.dumps .null).length = 4 := by decide +kernel

theorem length_usageJson (usage : Option ResearchUsage) :
    (usageJson usage).dumps.length = usageWidth usage := by
  cases usage with
  | none => exact length_dumps_null
  | some u =>
    have hkeys : quotedWidth "cache_write_input_tokens" = 26 ∧
        quotedWidth "cached_input_tokens" = 21 ∧ quotedWidth "input_tokens" = 14 ∧
        quotedWidth "output_tokens" = 15 ∧ quotedWidth "reasoning_tokens" = 18 ∧
        quotedWidth "web_tool_calls" = 16 := by decide +kernel
    obtain ⟨h1, h2, h3, h4, h5, h6⟩ := hkeys
    cases hw : u.cacheWriteInputTokens with
    | none =>
      simp only [usageJson, hw, length_dumps_obj, List.map_cons, List.map_nil, List.sum_cons,
        List.sum_nil, List.length_cons, List.length_nil, h1, h2, h3, h4, h5, h6, length_dumps_int,
        length_dumps_null, usageWidth]
      omega
    | some n =>
      simp only [usageJson, hw, length_dumps_obj, List.map_cons, List.map_nil, List.sum_cons,
        List.sum_nil, List.length_cons, List.length_nil, h1, h2, h3, h4, h5, h6, length_dumps_int,
        usageWidth]
      omega

theorem completionError_none_iff {evidence : CompletionEvidence} :
    completionError evidence = none ↔ evidence = ⟨true, true, true, false, false⟩ := by
  obtain ⟨a, b, c, d, e⟩ := evidence
  cases a <;> cases b <;> cases c <;> cases d <;> cases e <;> simp [completionError]

theorem length_evidenceJson {evidence : CompletionEvidence} (h : completionError evidence = none) :
    (evidenceJson evidence).dumps.length = 125 := by
  rw [completionError_none_iff.mp h]
  decide +kernel

/-- The checkpoint is as long as its width says. -/
theorem length_answerCheckpoint {answer : ResearchAnswer}
    (h : completionError answer.evidence = none) :
    (answerCheckpoint answer).dumps.length = checkpointWidth answer := by
  have hkeys : quotedWidth "citations" = 11 ∧ quotedWidth "evidence" = 10 ∧
      quotedWidth "text" = 6 ∧ quotedWidth "usage" = 7 := by decide +kernel
  obtain ⟨h1, h2, h3, h4⟩ := hkeys
  have hcitations : (answer.citations.map citationJson).map (fun j => j.dumps.length) =
      answer.citations.map citationWidth := by
    rw [List.map_map]
    exact List.map_congr_left fun c _ => length_citationJson c
  simp only [answerCheckpoint, length_dumps_obj, List.map_cons, List.map_nil, List.sum_cons,
    List.sum_nil, List.length_cons, List.length_nil, h1, h2, h3, h4, length_dumps_arr, hcitations,
    List.length_map, length_evidenceJson h, length_dumps_str, length_usageJson, checkpointWidth]
  omega

end Width

section Storage
variable {casefold : String → String} {answer : ResearchAnswer} {row : ResearchRequestRow}
  {sha documentId : String} {nowMs completedAtMs : Int}

/-- A validating row and its document whose other columns are as they must be. -/
structure ReadyToStore (casefold : String → String) (row : ResearchRequestRow) (sha documentId : String)
    (nowMs completedAtMs : Int) : Prop where
  sha : isLowerHex64 sha = true
  recordId : (row.recordId.all fun id => sqlLength id.toList = 36) = true
  times : { row with updatedAtMs := nowMs }.timesAccepted = true
  operationId : parseOperationToken casefold row.operationId = true
  operationColumn : isUuidText row.operationId = false
  question : nonblankText row.record.prompt maxPromptUtf8Bytes = true
  questionColumn : 0 < sqlLength (sqlTrim row.record.prompt.toList)
  documentId : sqlLength documentId.toList = 36
  created : 0 ≤ row.createdAtMs
  completed : row.createdAtMs ≤ completedAtMs

/-- The checkpoint row and the document of an answer meet every constraint. -/
structure AnswerStored (casefold : String → String) (answer : ResearchAnswer) (row : ResearchRequestRow)
    (handle : ProviderHandle) (sha documentId : String) (nowMs completedAtMs : Int) : Prop where
  checkpoint : (row.validating handle (answerCheckpoint answer) sha nowMs).updateAccepted = true
  document : ∃ document, CompletedDocument.make? casefold documentId row.operationId
      row.record.kind row.record.prompt answer row.createdAtMs completedAtMs = some document ∧
    document.columnsAccepted = true

theorem checkpoint_accepted_iff (h : ReadyToStore casefold row sha documentId nowMs completedAtMs)
    (he : completionError answer.evidence = none) (handle : ProviderHandle) :
    (row.validating handle (answerCheckpoint answer) sha nowMs).updateAccepted = true ↔
      checkpointWidth answer ≤ maxAnswerUtf8Bytes := by
  have hlow : 2 ≤ checkpointWidth answer := by
    unfold checkpointWidth
    omega
  have htimes : (row.validating handle (answerCheckpoint answer) sha nowMs).timesAccepted = true :=
    h.times
  have hrecord : ((row.validating handle (answerCheckpoint answer) sha nowMs).recordId.all
      fun id => sqlLength id.toList = 36) = true := h.recordId
  simp only [ResearchRequestRow.updateAccepted, ResearchRequestRow.checkpointAccepted,
    Bool.and_eq_true, htimes, hrecord, and_true]
  simp [ResearchRequestRow.validating, length_answerCheckpoint he, h.sha, hlow]

theorem document_accepted_iff (h : ReadyToStore casefold row sha documentId nowMs completedAtMs)
    (he : completionError answer.evidence = none) :
    (∃ document, CompletedDocument.make? casefold documentId row.operationId
        row.record.kind row.record.prompt answer row.createdAtMs completedAtMs = some document ∧
      document.columnsAccepted = true) ↔
      isBlank answer.text = false ∧ 0 < sqlLength (sqlTrim answer.text.toList) := by
  have hop := h.operationId
  have hquestion := h.question
  have hbytes : bytesWithin answer.text 1 maxAnswerUtf8Bytes = true := by
    have hpos : 1 ≤ answer.text.utf8ByteSize := by
      have hne : answer.text.utf8ByteSize ≠ 0 := by
        intro hzero
        exact answer.text_nonempty (String.utf8ByteSize_eq_zero_iff.mp hzero)
      omega
    simp [bytesWithin, blobLength, hpos, answer.text_bounded]
  have hopBytes : bytesWithin row.operationId 1 128 = true := by
    simp only [parseOperationToken, Bool.and_eq_true] at hop
    exact hop.2
  have hquestionBytes : bytesWithin row.record.prompt 1 maxPromptUtf8Bytes = true := by
    simp only [nonblankText, Bool.and_eq_true] at hquestion
    exact hquestion.2
  by_cases hblank : isBlank answer.text = false
  · have hanswer : nonblankText answer.text maxAnswerUtf8Bytes = true := by
      simp [nonblankText, hblank, hbytes]
    have hall : parseOperationToken casefold row.operationId = true ∧
        nonblankText row.record.prompt maxPromptUtf8Bytes = true ∧
        nonblankText answer.text maxAnswerUtf8Bytes = true ∧
        completionError answer.evidence = none ∧ 0 ≤ row.createdAtMs ∧
        row.createdAtMs ≤ completedAtMs :=
      ⟨hop, hquestion, hanswer, he, h.created, h.completed⟩
    rw [CompletedDocument.make?, dif_pos hall]
    simp [CompletedDocument.columnsAccepted, h.documentId, hopBytes, h.operationColumn,
      hquestionBytes, h.questionColumn, hbytes, hblank]
  · have hnone : ¬ (parseOperationToken casefold row.operationId = true ∧
        nonblankText row.record.prompt maxPromptUtf8Bytes = true ∧
        nonblankText answer.text maxAnswerUtf8Bytes = true ∧
        completionError answer.evidence = none ∧ 0 ≤ row.createdAtMs ∧
        row.createdAtMs ≤ completedAtMs) := by
      rintro ⟨-, -, hanswer, -⟩
      simp only [nonblankText, Bool.and_eq_true, Bool.not_eq_true'] at hanswer
      exact hblank hanswer.1
    rw [CompletedDocument.make?, dif_neg hnone]
    simp [hblank]

/-- Of every answer with complete evidence: its checkpoint and its document can be stored exactly
when the JSON value fits the column, the text is not blank, and what follows its leading spaces
does not begin with a NUL. -/
theorem answer_stored_iff (h : ReadyToStore casefold row sha documentId nowMs completedAtMs)
    (he : completionError answer.evidence = none) (handle : ProviderHandle) :
    AnswerStored casefold answer row handle sha documentId nowMs completedAtMs ↔
      checkpointWidth answer ≤ maxAnswerUtf8Bytes ∧ isBlank answer.text = false ∧
        0 < sqlLength (sqlTrim answer.text.toList) := by
  constructor
  · intro hs
    have hdocument := (document_accepted_iff h he).mp hs.document
    exact ⟨(checkpoint_accepted_iff h he handle).mp hs.checkpoint, hdocument.1, hdocument.2⟩
  · rintro ⟨hwidth, htext⟩
    exact ⟨(checkpoint_accepted_iff h he handle).mpr hwidth, (document_accepted_iff h he).mpr htext⟩

end Storage

section Longest

theorem utf8ByteSize_replicate (n : Nat) :
    (String.ofList (List.replicate n 'a')).utf8ByteSize = n := by
  induction n with
  | zero => decide
  | succ n ih =>
    rw [List.replicate_succ, ← List.singleton_append, String.ofList_append,
      String.utf8ByteSize_append, ih]
    have hone : (String.ofList ['a']).utf8ByteSize = 1 := by decide
    omega

/-- An answer as long as the domain admits, without a citation. -/
def longestAnswer : ResearchAnswer where
  text := String.ofList (List.replicate maxAnswerUtf8Bytes 'a')
  citations := []
  evidence := ⟨true, true, true, false, false⟩
  usage := none
  text_nonempty := by
    intro h
    have hsize := utf8ByteSize_replicate maxAnswerUtf8Bytes
    rw [h] at hsize
    exact absurd hsize (by decide)
  text_bounded := (utf8ByteSize_replicate maxAnswerUtf8Bytes).le
  citations_bounded := Sample.uncited

theorem checkpointWidth_plain {answer : ResearchAnswer} (hc : answer.citations = [])
    (hu : answer.usage = none) : checkpointWidth answer = 174 + quotedWidth answer.text := by
  simp only [checkpointWidth, hc, hu, usageWidth, List.map_nil, List.sum_nil, List.length_nil]
  omega

theorem quotedWidth_replicate (n : Nat) :
    quotedWidth (String.ofList (List.replicate n 'a')) = n + 2 := by
  have hescape : escapeWidth 'a' = 1 := by decide
  simp only [quotedWidth, String.toList_ofList, List.map_replicate, hescape,
    List.sum_replicate_nat, Nat.mul_one]

theorem longestAnswer_width : checkpointWidth longestAnswer = 174 + (maxAnswerUtf8Bytes + 2) := by
  rw [checkpointWidth_plain rfl rfl]
  exact congrArg (174 + ·) (quotedWidth_replicate maxAnswerUtf8Bytes)

/- The row of a running request. -/
def runningRow : ResearchRequestRow :=
  (admissionRow
    { operationId := "op-1", kind := .search, prompt := "why", profile := Sample.profile
      deadlineSeconds := 180, resourceLimits := Sample.limits, state := .running
      cleanupState := .notRequired, accountingState := .reserved
      remoteHandle := some Sample.handle, errorCode := none
      operationId_token := Sample.token_op, prompt_nonblank := Sample.question_asked
      deadline_bounded := Sample.deadline_allowed }
    "ana" "c1" "" 1700000000000)

def storedSha : String := String.ofList (List.replicate 64 '0')

theorem runningRow_ready : ReadyToStore (fun s => s) runningRow storedSha
    "00000000-0000-4000-8000-000000000001" 1700000000000 1700000000000 := by
  constructor <;> decide +kernel

/-- The domain admits it, and its evidence is complete, but its checkpoint cannot be stored. -/
theorem longest_answer_not_stored : completionError longestAnswer.evidence = none ∧
    ¬ AnswerStored (fun s => s) longestAnswer runningRow Sample.handle storedSha
      "00000000-0000-4000-8000-000000000001" 1700000000000 1700000000000 := by
  have he : completionError longestAnswer.evidence = none := rfl
  refine ⟨he, fun h => ?_⟩
  have hwidth := (checkpoint_accepted_iff runningRow_ready he Sample.handle).mp h.checkpoint
  rw [longestAnswer_width] at hwidth
  omega

theorem short_answer_stored : AnswerStored (fun s => s) Sample.answer runningRow Sample.handle
    storedSha "00000000-0000-4000-8000-000000000001" 1700000000000 1700000000000 :=
  (answer_stored_iff runningRow_ready rfl Sample.handle).mpr
    ⟨by decide +kernel, by decide +kernel, by decide +kernel⟩

end Longest

end FrameNest.Research
