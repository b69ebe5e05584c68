import FrameNest.Research.Invariants

/-! Whole runs: what an effect does when nothing refuses it, and a small deployment
whose scripted runs can be computed. -/
namespace FrameNest.Research
open Concurrent

section Effects
variable {rt : ResearchRuntime} {env : Env} {s : ResearchState}

theorem answer_eq (h : env.fault = false) (value : α) : env.answer value s = (.ok value, s) := by
  simp [Env.answer, h]

theorem transact_eq (h : env.fault = false) {t : Transaction α} {value : α} {s' : ResearchState}
    (ht : t s = .ok (value, s')) : env.transact t s = (.ok value, s') := by
  simp [Env.transact, h, ht]

/-- A save goes through wherever its row is stored and the columns accept it. -/
theorem exec_save (h : env.fault = false) {row stored : ResearchRequestRow}
    (hst : s.request? row.operationId = some stored)
    (hacc : (stored.overwrite row).updateAccepted = true) :
    rt.exec env (.save row) s = (.ok row, savedState s row) := by
  have ht : saveRequest row s = .ok (row, savedState s row) := by
    simp only [saveRequest, hst, hacc, if_true]
    rfl
  exact transact_eq h ht

theorem exec_save_ok {row saved : ResearchRequestRow} (h : (rt.exec env (.save row) s).1 = .ok saved) :
    saved = row ∧ (∃ stored, s.request? row.operationId = some stored) ∧
      (rt.exec env (.save row) s).2 = savedState s row := by
  obtain ⟨rfl, stored, hst, -, hstate⟩ := saveRequest_ok (Env.transact_ok h)
  exact ⟨rfl, ⟨stored, hst⟩, hstate⟩

theorem exec_reconcile_request? (rt : ResearchRuntime) (env : Env) (r : BudgetReconciliation)
    (s : ResearchState) (op : String) :
    (rt.exec env (.reconcile r) s).2.request? op = s.request? op := by
  refine transact_keeps env (fun s : ResearchState => s.request? op) fun hold s' h => ?_
  obtain ⟨holds, -, rfl⟩ := reconcileTransaction_ok h
  rfl

end Effects

/- Every interleaving, with nothing asked of it. -/
def always (_ : Memory) (_ : Env) (_ : Effect) (_ : ResearchState) : Prop := True

theorem always_permits (rt : ResearchRuntime) (mayCrash : Bool) (g : Memory) (env : Env)
    (e : Effect) (s : ResearchState) : (rt.system always mayCrash).permits g env e s := trivial

abbrev Script := List (Move Call Env)

abbrev Deployment := World Effect Effect.Result Failure ResearchState Memory CallResult

/-- The deployment a script leaves, started on empty tables. -/
def ResearchRuntime.after (rt : ResearchRuntime) (script : Script) : Deployment :=
  script.foldl (World.move (rt.system always true)) ⟨.empty, []⟩

theorem ResearchRuntime.after_reachable (rt : ResearchRuntime) (script : Script) :
    Reachable (rt.system always true) .empty (rt.after script) :=
  World.moves_reach script _ (World.allowed_of_forall (always_permits rt true) _ _)

theorem ResearchRuntime.after_append (rt : ResearchRuntime) (script rest : Script) :
    Relation.ReflTransGen (Step (rt.system always true)) (rt.after script)
      (rt.after (script ++ rest)) := by
  unfold ResearchRuntime.after
  rw [List.foldl_append]
  exact World.moves_reach rest _ (World.allowed_of_forall (always_permits rt true) _ _)

theorem ResearchRuntime.after_crash (rt : ResearchRuntime) (script : Script) :
    rt.after (script ++ [.crash]) = ⟨(rt.after script).state, []⟩ := by
  unfold ResearchRuntime.after
  rw [List.foldl_append]
  rfl

instance (rt : ResearchRuntime) (permits : Memory → Env → Effect → ResearchState → Prop)
    [h : ∀ g env e s, Decidable (permits g env e s)] (mayCrash : Bool) (g : Memory) (env : Env)
    (e : Effect) (s : ResearchState) : Decidable ((rt.system permits mayCrash).permits g env e s) :=
  h g env e s

/- The same script, where every call of it meets a condition on the runs looked at. -/
theorem ResearchRuntime.after_permitted (rt : ResearchRuntime)
    {permits : Memory → Env → Effect → ResearchState → Prop} {script : Script}
    (h : World.Allowed (rt.system permits true) script ⟨.empty, []⟩) :
    Reachable (rt.system permits true) .empty (rt.after script) := World.moves_reach script _ h

theorem ResearchRuntime.append_permitted (rt : ResearchRuntime)
    {permits : Memory → Env → Effect → ResearchState → Prop} {script rest : Script}
    (h : World.Allowed (rt.system permits true) rest (rt.after script)) :
    Relation.ReflTransGen (Step (rt.system permits true)) (rt.after script)
      (rt.after (script ++ rest)) := by
  unfold ResearchRuntime.after
  rw [List.foldl_append]
  exact World.moves_reach rest _ h

/-- One more call of a script is a step. -/
theorem ResearchRuntime.after_call (rt : ResearchRuntime)
    {permits : Memory → Env → Effect → ResearchState → Prop} {script : Script} {n : Nat} {env : Env}
    (h : ((rt.after script).threads[n]?).any (fun t => !t.program.settled) = true)
    (hp : (rt.after script).MayMove (rt.system permits true) (.call n env)) :
    Step (rt.system permits true) (rt.after script) (rt.after (script ++ [.call n env])) := by
  unfold ResearchRuntime.after at h hp ⊢
  rw [List.foldl_append]
  exact World.call_step h hp

theorem ResearchRuntime.after_step (rt : ResearchRuntime) {script : Script} {n : Nat} {env : Env}
    (h : ((rt.after script).threads[n]?).any (fun t => !t.program.settled) = true) :
    Step (rt.system always true) (rt.after script) (rt.after (script ++ [.call n env])) :=
  rt.after_call h (World.mayMove_of_forall (always_permits rt true) _ _)

/-- What calls made one after the other leave, started on empty tables. -/
def ResearchRuntime.afterCalls (rt : ResearchRuntime) (calls : List (Call × List Env)) :
    ResearchState := callEach (rt.system always true) calls .empty

theorem ResearchRuntime.afterCalls_reachable (rt : ResearchRuntime)
    (calls : List (Call × List Env)) :
    SeqReachable (rt.system always true) .empty (rt.afterCalls calls) :=
  callEach_reachable calls _ (allPermitted_of_forall (always_permits rt true) _ _)

theorem ResearchRuntime.afterCalls_permitted (rt : ResearchRuntime)
    {permits : Memory → Env → Effect → ResearchState → Prop} {calls : List (Call × List Env)}
    (h : AllPermitted (rt.system permits true) calls .empty) :
    SeqReachable (rt.system permits true) .empty (rt.afterCalls calls) := by
  have hsame : ∀ (calls : List (Call × List Env)) s, callEach (rt.system always true) calls s =
      callEach (rt.system permits true) calls s := by
    intro calls
    induction calls with
    | nil => exact fun s => rfl
    | cons c calls ih => exact fun s => ih _
  unfold ResearchRuntime.afterCalls
  rw [hsame]
  exact callEach_reachable calls _ h

namespace Sample

theorem token_op : requireToken "op-1" 128 = true := by decide

theorem question_asked : Plain.isBlank "why" = false := by decide

theorem deadline_allowed : requirePositiveInt 180 maxResearchDeadlineSeconds = true := by decide

theorem reserve_allowed : requirePositiveInt 500000 maxResearchReservationMicroUsd = true := by
  decide

theorem uncited : ([] : List ResearchCitation).length ≤ maxCitationCount := by decide

def profile : ServerSelectedProfile where
  providerId := "openai-responses"
  modelId := "gpt-5.5-2026-04-23"
  configurationVersion := "4"
  highReasoningEffort := false
  toolAllowlist := [webSearchTool]
  background := true
  maxToolCalls := 3
  maxOutputTokens := 4096
  deadlineSeconds := 180
  budgetReservationUsdMicros := 500000
  providerId_token := by decide
  modelId_token := by decide
  configurationVersion_token := by decide
  tools_allowed := by decide
  toolCalls_bounded := by decide
  outputTokens_bounded := by decide
  deadline_bounded := by decide
  reservation_bounded := by decide

def limits : ApprovedResourceLimits where
  maxToolCalls := 3
  maxOutputTokens := 4096
  budgetReservationUsdMicros := 500000
  promptMaxUtf8Bytes := maxPromptUtf8Bytes
  answerMaxUtf8Bytes := maxAnswerUtf8Bytes
  citationCountMax := maxCitationCount
  toolCalls_bounded := by decide
  outputTokens_bounded := by decide
  reservation_bounded := by decide
  prompt_bounded := by decide
  answer_bounded := by decide
  citations_bounded := by decide

def snapshot : ResearchSelectionSnapshot := ⟨profile, limits, 180, 10000000, 30000000⟩

def handle : ProviderHandle := ⟨"resp_1", by decide⟩

def answer : ResearchAnswer where
  text := "because"
  citations := []
  evidence := ⟨true, true, true, false, false⟩
  usage := none
  text_nonempty := by decide
  text_bounded := by decide
  citations_bounded := by decide

def usage : ResearchUsage where
  inputTokens := 1200
  cachedInputTokens := 200
  outputTokens := 300
  reasoningTokens := 100
  webToolCalls := 2
  cacheWriteInputTokens := none
  cached_le := by decide
  reasoning_le := by decide
  cacheWrite_le := nofun

def measured : ResearchAnswer := { answer with usage := some usage }

def complete : ProviderObservation := ⟨.complete, some handle, some answer, none, rfl⟩

def cancelled : ProviderObservation := ⟨.cancelled, some handle, none, some .cancelled, rfl⟩

/- The digests of the three texts the sample runs hash. -/
def digests : List (List Char × String) :=
  [((fingerprintPayload "ana" .search "why" "1").dumps,
      "31d89de0f4893b92c077b8474684067bd6c5e98a5126a52cf504abb3a8456208"),
    ((answerCheckpoint answer).dumps,
      "c8618969446c79634916d89de07e6348dd25923fd65eca40c1acd3bbbb905947"),
    ((answerCheckpoint measured).dumps,
      "078305b806f0c925911c6c8051615399268bcc1a583078f8745bbd163b73fbea")]

def runtime : ResearchRuntime where
  resolvePriceSchedule _ _ _ := none
  sha256 text := (digests.lookup text).getD (String.ofList (List.replicate 64 '0'))
  casefold text := text

/- The sample model's own prices. -/
def priced : ResearchRuntime where
  resolvePriceSchedule _ _ _ := some
    { inputMicroUsdPerMillion := 5000000
      cachedInputMicroUsdPerMillion := 500000
      outputMicroUsdPerMillion := 30000000
      webSearchMicroUsdPerThousand := 10000000
      cacheWriteInputMicroUsdPerMillion := some 5000000
      longContextThresholdTokens := some 272000
      longContext := some ⟨10000000, 1000000, 10000000, 45000000⟩ }
  sha256 := runtime.sha256
  casefold := runtime.casefold

def env : Env where
  clockMs := 1700000000000
  operationId := "op-1"
  selection := .ok snapshot
  observation := ⟨.pending, some handle, none, none, rfl⟩
  documentId := "00000000-0000-4000-8000-000000000001"
  recordId := "00000000-0000-4000-8000-000000000002"

def completed : Env := { env with observation := complete }

def taken : Call × List Env := (.admitResearch "ana" "c1" .search "why" "1", List.replicate 7 env)

def calls (n k : Nat) (env : Env) : Script := List.replicate k (.call n env)

/- Thread 0 recovers, thread 1 takes in one request. -/
def admission : Script :=
  .start .recover :: calls 0 1 env ++
    .start (.admitResearch "ana" "c1" .search "why" "1") :: calls 1 7 env

/- Thread 2 submits it; the provider answers PENDING with a handle. -/
def submission : Script := .start .submitPending :: calls 2 7 env

end Sample
end FrameNest.Research
