import FrameNest.Research.Runs

/-! What a stored request never changes, and what that leaves of its submission: the claim
commits before the provider request is built, and the prompt bound is checked by the latter. -/
namespace FrameNest.Research
open Concurrent ResearchRuntime

/- The columns that an INSERT alone writes. -/
structure SameTerms (row row' : ResearchRequestRow) : Prop where
  operationId : row'.record.operationId = row.record.operationId
  kind : row'.record.kind = row.record.kind
  prompt : row'.record.prompt = row.record.prompt
  profile : row'.record.profile = row.record.profile
  deadlineSeconds : row'.record.deadlineSeconds = row.record.deadlineSeconds
  resourceLimits : row'.record.resourceLimits = row.record.resourceLimits

theorem SameTerms.refl (row : ResearchRequestRow) : SameTerms row row :=
  ⟨rfl, rfl, rfl, rfl, rfl, rfl⟩

theorem SameTerms.trans {a b c : ResearchRequestRow} (h : SameTerms a b) (h' : SameTerms b c) :
    SameTerms a c where
  operationId := h'.operationId.trans h.operationId
  kind := h'.kind.trans h.kind
  prompt := h'.prompt.trans h.prompt
  profile := h'.profile.trans h.profile
  deadlineSeconds := h'.deadlineSeconds.trans h.deadlineSeconds
  resourceLimits := h'.resourceLimits.trans h.resourceLimits

theorem sameTerms_overwrite (stored row : ResearchRequestRow) :
    SameTerms stored (stored.overwrite row) := ⟨rfl, rfl, rfl, rfl, rfl, rfl⟩

theorem sameTerms_claimed (stored : ResearchRequestRow) (nowMs : Int) :
    SameTerms stored (stored.claimed nowMs) := ⟨rfl, rfl, rfl, rfl, rfl, rfl⟩

theorem sameTerms_bound (stored : ResearchRequestRow) (recordId : String) (nowMs : Int) :
    SameTerms stored (stored.bound recordId nowMs) := ⟨rfl, rfl, rfl, rfl, rfl, rfl⟩

/-- No effect takes a stored request away or changes its terms. -/
theorem answered_terms {casefold : String → String} {s s' : ResearchState} {e : Effect}
    {r : Except Failure e.Result} (h : Answered casefold s e r s') {op : String}
    {stored : ResearchRequestRow} (hst : s.request? op = some stored) :
    ∃ row, s'.request? op = some row ∧ SameTerms stored row := by
  obtain hsame | ⟨row, -, -, hsaved⟩ | ⟨nowMs, -, -, hclaimed⟩ | ⟨c, recordId, nowMs, -, -, -, hbound⟩ :=
    answered_request h hst
  · exact ⟨stored, hsame, SameTerms.refl stored⟩
  · exact ⟨_, hsaved, sameTerms_overwrite stored row⟩
  · exact ⟨_, hclaimed, sameTerms_claimed stored nowMs⟩
  · exact ⟨_, hbound, sameTerms_bound stored recordId nowMs⟩

section Runs
variable {rt : ResearchRuntime} {permits : Memory → Env → Effect → ResearchState → Prop}
  {mayCrash : Bool}

/-- Nor does any run of calls, crashes included. -/
theorem run_terms {w w' : Deployment}
    (h : Relation.ReflTransGen (Step (rt.system permits mayCrash)) w w') {op : String}
    {stored : ResearchRequestRow} (hst : w.state.request? op = some stored) :
    ∃ row, w'.state.request? op = some row ∧ SameTerms stored row := by
  induction h with
  | refl => exact ⟨stored, hst, SameTerms.refl stored⟩
  | @tail b c _ hstep ih =>
    obtain ⟨row, hrow, hterms⟩ := ih
    obtain hsame | ⟨t, -, env, e, next, -, -, hstate⟩ := hstep.cases_state
    · exact ⟨row, by rw [hsame]; exact hrow, hterms⟩
    · have hanswered := exec_answered rt env e b.state
      obtain ⟨row', hrow', hterms'⟩ := answered_terms hanswered hrow
      exact ⟨row', by rw [hstate]; exact hrow', hterms.trans hterms'⟩

end Runs

/-- A provider request built from a stored row. -/
structure BuiltFrom (request : ProviderRequest) (row : ResearchRequestRow) : Prop where
  operationId : request.operationId = row.record.operationId
  kind : request.kind = row.record.kind
  prompt : request.prompt = row.record.prompt
  profile : request.profile = row.record.profile
  deadlineSeconds : request.deadlineSeconds = row.record.deadlineSeconds
  resourceLimits : request.resourceLimits = row.record.resourceLimits

/- What `submit_pending` does with the row it claimed: its next call is the provider's, over
   that row, or a save of a terminal state. -/
def ResearchRuntime.Proceeds (rt : ResearchRuntime) (claimed : ResearchRequestRow) : Prop :=
  (∃ request next, rt.submitClaimed claimed = .call (.submit request) next ∧
      BuiltFrom request claimed) ∨
    ∃ row next, rt.submitClaimed claimed = .call (.save row) next ∧ row.terminal = true

theorem ofRecord?_some {record : ResearchRequestRecord}
    (h : record.prompt.utf8ByteSize ≤ record.resourceLimits.promptMaxUtf8Bytes) :
    ∃ request, ProviderRequest.ofRecord? record = some request ∧
      ∀ row : ResearchRequestRow, row.record = record → BuiltFrom request row := by
  rw [ProviderRequest.ofRecord?, dif_pos h]
  refine ⟨_, rfl, ?_⟩
  rintro row rfl
  exact ⟨rfl, rfl, rfl, rfl, rfl, rfl⟩

/-- A claimed request is submitted exactly when its prompt meets its own bound. Otherwise the
constructor raises, and nothing catches it. -/
theorem proceeds_iff (rt : ResearchRuntime) (claimed : ResearchRequestRow) :
    rt.Proceeds claimed ↔
      claimed.record.prompt.utf8ByteSize ≤ claimed.record.resourceLimits.promptMaxUtf8Bytes := by
  constructor
  · intro h
    by_contra hlong
    have hnone : ProviderRequest.ofRecord? claimed.record = none := by
      rw [ProviderRequest.ofRecord?, dif_neg hlong]
    have hfail : rt.submitClaimed claimed = .fail .other := by
      simp only [ResearchRuntime.submitClaimed, hnone]
    rcases h with ⟨request, next, hcall, -⟩ | ⟨row, next, hcall, -⟩
    · rw [hfail] at hcall
      cases hcall
    · rw [hfail] at hcall
      cases hcall
  · intro h
    obtain ⟨request, hrequest, hbuilt⟩ := ofRecord?_some h
    have hcall : ∃ next, rt.submitClaimed claimed = .call (.submit request) next := by
      simp only [ResearchRuntime.submitClaimed, hrequest]
      exact ⟨_, rfl⟩
    obtain ⟨next, hnext⟩ := hcall
    exact .inl ⟨request, next, hnext, hbuilt claimed rfl⟩

/-- Of every configuration and prompt: a request that an admission has stored is, once its
submission is claimed, after whatever else ran in between, submitted from the stored row exactly
when the prompt meets the configured bound. -/
theorem admitted_request_submits (rt : ResearchRuntime)
    {permits : Memory → Env → Effect → ResearchState → Prop} {mayCrash : Bool}
    {op owner client prompt fingerprint : String} {kind : ResearchOperationKind}
    {snapshot : ResearchSelectionSnapshot} {record : ResearchRequestRecord}
    {nowMs claimedAtMs : Int} {reservation : BudgetReservation} {s s₁ s₂ : ResearchState}
    {stored claimed : ResearchRequestRow}
    {threads : List (Thread Effect Effect.Result Failure Memory CallResult)} {w : Deployment}
    (hrecord : admissionRecord? op kind prompt snapshot = some record)
    (hnew : s.findByClient owner client = none)
    (hsaved : admitRequest (admissionRow record owner client fingerprint nowMs) reservation s =
      .ok (stored, s₁))
    (hrun : Relation.ReflTransGen (Step (rt.system permits mayCrash)) ⟨s₁, threads⟩ w)
    (hclaim : claimSubmission op claimedAtMs w.state = .ok (some claimed, s₂)) :
    (s₂.request? op = some claimed ∧ rt.Proceeds claimed) ↔
      prompt.utf8ByteSize ≤ snapshot.resourceLimits.promptMaxUtf8Bytes := by
  -- the stored row carries the prompt and the bound of the admission
  have hinserted : ∃ row, s₁.request? op = some row ∧ row.record.prompt = prompt ∧
      row.record.resourceLimits.promptMaxUtf8Bytes =
        snapshot.resourceLimits.promptMaxUtf8Bytes := by
    have hlimits : record.resourceLimits = snapshot.resourceLimits := by
      unfold admissionRecord? at hrecord
      split at hrecord
      · cases hrecord
        rfl
      · cases hrecord
    obtain ⟨hop, -, hprompt, -, -⟩ := admissionRecord?_some hrecord
    rcases admitRequest_ok hsaved with ⟨-, hfound, -⟩ |
      ⟨-, -, -, -, -, -, -, requests, holds, hold, hins, -, rfl⟩
    · have hfound : s.findByClient owner client = some stored := hfound
      rw [hnew] at hfound
      cases hfound
    · refine ⟨(admissionRow record owner client fingerprint nowMs).persisted, ?_, hprompt, ?_⟩
      · exact (request?_insert hins op).trans (if_pos hop)
      · show record.resourceLimits.promptMaxUtf8Bytes = _
        rw [hlimits]
  obtain ⟨row, hrow, hprompt, hbound⟩ := hinserted
  obtain ⟨later, hlater, hterms⟩ := run_terms hrun hrow
  obtain ⟨hnone, -⟩ | ⟨found, hfound, -, hclaimed, -, rfl⟩ := claimSubmission_ok hclaim
  · cases hnone
  · have hsame : found = later := Option.some.inj (hfound.symm.trans hlater)
    subst hsame
    have hrow' : claimed = found.claimed claimedAtMs := Option.some.inj hclaimed
    subst hrow'
    have hstored : (claimedState w.state op claimedAtMs).request? op =
        some (found.claimed claimedAtMs) := by
      rw [request?_claimedState, if_pos rfl, hfound]
      rfl
    rw [proceeds_iff]
    have hp : (found.claimed claimedAtMs).record.prompt = prompt := hterms.prompt.trans hprompt
    have hl : (found.claimed claimedAtMs).record.resourceLimits.promptMaxUtf8Bytes =
        snapshot.resourceLimits.promptMaxUtf8Bytes := by
      rw [← hbound, ← hterms.resourceLimits]
      rfl
    rw [hp, hl]
    exact ⟨fun h => h.2, fun h => ⟨hstored, h⟩⟩

namespace Sample

def takenRecord : ResearchRequestRecord where
  operationId := "op-1"
  kind := .search
  prompt := "why"
  profile := profile
  deadlineSeconds := 180
  resourceLimits := limits
  state := .admitted
  cleanupState := .notRequired
  accountingState := .reserved
  remoteHandle := none
  errorCode := none
  operationId_token := token_op
  prompt_nonblank := question_asked
  deadline_bounded := deadline_allowed

def takenReservation : BudgetReservation where
  operationId := "op-1"
  kind := .search
  reservedUsdMicros := 500000
  dailyLimitUsdMicros := 10000000
  monthlyLimitUsdMicros := 30000000
  operationId_token := by decide
  reserved_bounded := reserve_allowed
  daily_bounded := by decide
  monthly_bounded := by decide
  daily_le_monthly := by decide

def takenRow : ResearchRequestRow :=
  admissionRow takenRecord "ana" "c1" (runtime.fingerprint "ana" .search "why" "1") 1700000000000

def tightSnapshot : ResearchSelectionSnapshot :=
  { snapshot with
    resourceLimits := { limits with promptMaxUtf8Bytes := 2, prompt_bounded := by decide } }

def tightEnv : Env := { env with selection := .ok tightSnapshot }

/- A prompt of three bytes, admitted under a configured bound of two, and its submission. -/
def tightRun : Script :=
  .start .recover :: calls 0 1 tightEnv ++
    .start (.admitResearch "ana" "c1" .search "why" "1") :: calls 1 7 tightEnv ++
    .start .submitPending :: calls 2 4 tightEnv

end Sample
open Sample

theorem admitted_why_submits : ∃ claimed s₂ s₁,
    claimSubmission "op-1" 1700000000000 s₁ = .ok (some claimed, s₂) ∧
      s₂.request? "op-1" = some claimed ∧ runtime.Proceeds claimed := by
  have hsaved : ∃ stored s₁, admitRequest takenRow takenReservation .empty = .ok (stored, s₁) ∧
      (∃ claimed s₂, claimSubmission "op-1" 1700000000000 s₁ = .ok (some claimed, s₂)) :=
    ⟨_, _, rfl, _, _, rfl⟩
  obtain ⟨stored, s₁, hsaved, claimed, s₂, hclaim⟩ := hsaved
  have hrecord : admissionRecord? "op-1" .search "why" snapshot = some takenRecord := rfl
  have hrun : Relation.ReflTransGen (Step (runtime.system always true)) (⟨s₁, []⟩ : Deployment)
      ⟨s₁, []⟩ := .refl
  have hsubmits := (admitted_request_submits runtime hrecord rfl hsaved hrun hclaim).mpr (by decide)
  exact ⟨claimed, s₂, s₁, hclaim, hsubmits⟩

theorem admitted_request_stranded :
    Reachable (runtime.system always true) .empty (runtime.after tightRun) ∧
      ((runtime.after tightRun).state.request? "op-1").map (·.state) = some .submitting ∧
      (runtime.after tightRun).state.slot = some "op-1" ∧
      (runtime.after tightRun).state.submitted = [] ∧
      (runtime.after tightRun).threads[2]?.map (fun t => t.program.settled) = some true :=
  ⟨runtime.after_reachable _, by decide +kernel, by decide +kernel, by decide +kernel,
    by decide +kernel⟩

end FrameNest.Research
