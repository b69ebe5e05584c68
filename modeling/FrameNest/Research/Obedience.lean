import FrameNest.Research.Protocol

/-! Every coordinator method asks only for what the protocol lets it ask. -/
namespace FrameNest.Research
open Relational Concurrent ResearchRuntime

theorem Env.answer_ok {env : Env} {value a : α} {s : ResearchState}
    (h : (env.answer value s).1 = .ok a) : a = value := by
  unfold Env.answer at h
  split at h
  · cases h
  · cases h; rfl

theorem Env.transact_ok {env : Env} {t : Transaction α} {s : ResearchState} {a : α}
    (h : (env.transact t s).1 = .ok a) : t s = .ok (a, (env.transact t s).2) := by
  unfold Env.transact at h ⊢
  split at h
  · cases h
  · rename_i hf
    rw [if_neg hf]
    cases ht : t s with
    | error x => simp [ht] at h
    | ok r =>
      simp only [ht] at h ⊢
      cases h
      rfl

theorem Env.transact_error {env : Env} {t : Transaction α} {s : ResearchState} {x : Failure}
    (h : (env.transact t s).1 = .error x) : (env.transact t s).2 = s := by
  unfold Env.transact at h ⊢
  split
  · rfl
  · rename_i hf
    rw [if_neg hf] at h
    cases ht : t s with
    | error y => rfl
    | ok r => simp [ht] at h

section Rules
variable {rt : ResearchRuntime} {permits : Memory → Env → Effect → ResearchState → Prop}
  {Q : Memory → Except Failure α → Prop} {g : Memory}

theorem obeys_strictly {may : Memory → Effect → Prop} {e : Effect} {f : e.Result → Coordinator α}
    (hm : may g e) (herr : ∀ s x, Q (g.note s e (.error x)) (.error x))
    (h : ∀ env s a, (rt.exec env e s).1 = .ok a →
      Obeys ((rt.protocol permits).withMay may) Q (f a) (g.note s e (.ok a))) :
    Obeys ((rt.protocol permits).withMay may) Q (call e >>= f) g := by
  refine Obeys.perform_bind hm fun env s _ => ?_
  cases hr : (rt.exec env e s).1 with
  | ok a =>
    simp only [protocol, Protocol.withMay, hr]
    exact h env s a hr
  | error x =>
    simp only [protocol, Protocol.withMay, hr]
    exact herr s x

theorem obeys_call (hq : ∀ g x, Q g (.error x)) {e : Effect} {f : e.Result → Coordinator α}
    (hm : rt.may g e) (h : ∀ env s a, (rt.exec env e s).1 = .ok a →
      Obeys (rt.protocol permits) Q (f a) (g.note s e (.ok a))) :
    Obeys (rt.protocol permits) Q (call e >>= f) g :=
  show Obeys ((rt.protocol permits).withMay rt.may) Q (call e >>= f) g from
    obeys_strictly hm (fun _ x => hq _ x) h

theorem obeys_try {e : Effect} {f : Except Failure e.Result → Coordinator α} (hm : rt.may g e)
    (h : ∀ r, ∀ s, Obeys (rt.protocol permits) Q (f r) (g.note s e r)) :
    Obeys (rt.protocol permits) Q (tryCall e >>= f) g :=
  ⟨hm, fun _ s _ => h _ s⟩

variable (hq : ∀ g x, Q g (.error x))
include hq

theorem obeys_get {op : String} {f : Option ResearchRequestRow → Coordinator α}
    (hm : rt.may g (.getRequest op)) (hnone : Obeys (rt.protocol permits) Q (f none) g)
    (hsome : ∀ row, row.operationId = op →
      Obeys (rt.protocol permits) Q (f (some row)) (g.learn row)) :
    Obeys (rt.protocol permits) Q (call (.getRequest op) >>= f) g := by
  refine obeys_call hq hm fun env s found hr => ?_
  cases found with
  | none => exact hnone
  | some row => exact hsome row (ResearchState.request?_operationId (Env.answer_ok hr).symm)

theorem obeys_save {row : ResearchRequestRow} {f : ResearchRequestRow → Coordinator α}
    (hm : rt.may g (.save row)) (h : Obeys (rt.protocol permits) Q (f row)
      { g.learn row with closed := g.closed || row.terminal }) :
    Obeys (rt.protocol permits) Q (call (.save row) >>= f) g := by
  refine obeys_call hq hm fun env s saved hr => ?_
  rw [(saveRequest_ok (Env.transact_ok hr)).1]
  exact h

theorem obeys_claim {op : String} {f : Option ResearchRequestRow → Coordinator α}
    (hm : rt.may g (.claimSubmission op)) (hnone : Obeys (rt.protocol permits) Q (f none) g)
    (hsome : ∀ row, row.operationId = op → row.state = .submitting →
      Obeys (rt.protocol permits) Q (f (some row)) { g.learn row with claimed := some op }) :
    Obeys (rt.protocol permits) Q (call (.claimSubmission op) >>= f) g := by
  refine obeys_call hq hm fun env s claimed hr => ?_
  obtain ⟨rfl, -⟩ | ⟨stored, hst, -, rfl, -, -⟩ := claimSubmission_ok (Env.transact_ok hr)
  · exact hnone
  · have hop : stored.operationId = op := ResearchState.request?_operationId hst
    have hs := hsome (stored.claimed env.clockMs) hop rfl
    rw [← hop] at hs
    exact hs

end Rules

theorem finalReconciliation_operationId (row : ResearchRequestRow)
    (accounting : ResearchAccountingState) (usage : Option ResearchUsage) (cost : Option Nat) :
    (finalReconciliation row accounting usage cost).operationId = row.operationId := by
  unfold finalReconciliation
  split <;> rfl

section Methods
variable {rt : ResearchRuntime} {permits : Memory → Env → Effect → ResearchState → Prop}
  {g : Memory}

/- Nothing is asked of what a method returns. -/
abbrev Safe (rt : ResearchRuntime) (permits : Memory → Env → Effect → ResearchState → Prop)
    (p : Coordinator α) (g : Memory) : Prop := Obeys (rt.protocol permits) (fun _ _ => True) p g

theorem Safe.bind {p : Coordinator α} {f : α → Coordinator β} {Q : Memory → α → Prop}
    (hp : Obeys (rt.protocol permits) (fun g' r => ∀ a, r = .ok a → Q g' a) p g)
    (hf : ∀ g' a, Q g' a → Safe rt permits (f a) g') : Safe rt permits (p >>= f) g :=
  Obeys.bind (hp.mono fun g' r h => match r with
    | .ok a => hf g' a (h a rfl)
    | .error _ => trivial)

theorem Safe.andThen {p : Coordinator α} {f : α → β} (hp : Safe rt permits p g) :
    Safe rt permits (p >>= fun a => pure (f a)) g :=
  Safe.bind (Q := fun _ _ => True) (hp.mono fun _ _ _ _ _ => trivial) fun _ _ _ => trivial

theorem safe_last {e : Effect} (hm : rt.may g e) : Safe rt permits (call e) g := by
  refine ⟨hm, fun env s _ => ?_⟩
  cases hr : (rt.exec env e s).1 with
  | ok a =>
    simp only [protocol, hr]
    trivial
  | error x =>
    simp only [protocol, hr]
    trivial

theorem obeys_finish {row : ResearchRequestRow} {state : ResearchLifecycleState}
    {code : Option ResearchErrorCode} {accounting : ResearchAccountingState}
    {usage : Option ResearchUsage} {cost : Option Nat} (hseen : g.seen row.operationId = some row)
    (ht : isTerminalLifecycle state = true) (hc : g.concludes row state)
    (hr : match g.completed with
      | none => finalReconciliation row accounting usage cost =
          finalReconciliation row .unknown none none
      | some c => finalReconciliation row accounting usage cost = rt.settlementOf row c.answer) :
    Obeys (rt.protocol permits) (fun g' r => ∀ saved, r = .ok saved →
      g'.call = g.call ∧ g'.closed = true ∧ g'.seen saved.operationId = some saved ∧
        saved.operationId = row.operationId ∧ saved.state = state ∧
        saved.cancelRequestedAtMs = row.cancelRequestedAtMs)
      (finish row state code accounting usage cost) g := by
  have hq : ∀ (g' : Memory) (x : Failure), ∀ saved : ResearchRequestRow,
      (Except.error x : Except Failure ResearchRequestRow) = .ok saved →
      g'.call = g.call ∧ g'.closed = true ∧ g'.seen saved.operationId = some saved ∧
        saved.operationId = row.operationId ∧ saved.state = state ∧
        saved.cancelRequestedAtMs = row.cancelRequestedAtMs := fun _ _ _ h => nomatch h
  refine obeys_call hq trivial fun env s nowMs _ => ?_
  refine obeys_save hq ⟨row, hseen, .finished state code accounting nowMs ht hc⟩ ?_
  have hclosed : (row.finished state code accounting nowMs).terminal = true := ht
  refine obeys_call hq ⟨row.finished state code accounting nowMs, ?_, hclosed, by simp [hclosed],
    ?_⟩ fun _ _ _ _ => ?_
  · rw [finalReconciliation_operationId]
    exact Memory.learn_seen _ _
  · exact hr
  · intro saved hsaved
    cases hsaved
    exact ⟨rfl, by simp [Memory.note, hclosed], Memory.learn_seen _ _, rfl, rfl, rfl⟩

theorem safe_finish {row : ResearchRequestRow} {state : ResearchLifecycleState}
    {code : Option ResearchErrorCode} {accounting : ResearchAccountingState}
    {usage : Option ResearchUsage} {cost : Option Nat} (hseen : g.seen row.operationId = some row)
    (ht : isTerminalLifecycle state = true) (hc : g.concludes row state)
    (hr : match g.completed with
      | none => finalReconciliation row accounting usage cost =
          finalReconciliation row .unknown none none
      | some c => finalReconciliation row accounting usage cost = rt.settlementOf row c.answer) :
    Safe rt permits (finish row state code accounting usage cost) g :=
  (obeys_finish hseen ht hc hr).mono fun _ _ _ => trivial

theorem safe_finishUnknown {row : ResearchRequestRow} {state : ResearchLifecycleState}
    {code : ResearchErrorCode} (hseen : g.seen row.operationId = some row)
    (ht : isTerminalLifecycle state = true) (hc : g.concludes row state)
    (hcompl : g.completed = none) : Safe rt permits (finishUnknown row state code) g :=
  safe_finish hseen ht hc (by rw [hcompl])

/- An unsuccessful end of a request its caller works on. -/
theorem safe_refuse {row : ResearchRequestRow} {state : ResearchLifecycleState}
    {code : ResearchErrorCode} (hseen : g.seen row.operationId = some row)
    (hw : g.worksOn row) (hv : row.state ≠ .validating)
    (ht : isTerminalLifecycle state = true) (hs : state ≠ .saved) :
    Safe rt permits (finishUnknown row state code) g := by
  refine safe_finishUnknown hseen ht ⟨hw.1, ?_⟩ hw.2.1
  have hcall := hw.2.2
  revert hcall
  cases hg : g.call with
  | submitPending => exact fun _ => Or.inl ⟨hw, hv, hs⟩
  | pollOnce => exact fun _ => Or.inl ⟨hw, hv, hs⟩
  | _ => exact False.elim

theorem failedState_terminal (code : ResearchErrorCode) :
    isTerminalLifecycle (failedState code) = true ∧ failedState code ≠ .saved := by
  unfold failedState
  split <;> exact ⟨rfl, by decide⟩

theorem terminalByError_terminal (code : ResearchErrorCode) :
    isTerminalLifecycle (terminalByError code) = true ∧ terminalByError code ≠ .saved := by
  unfold terminalByError
  split <;> exact ⟨rfl, by decide⟩

theorem worksOn_call {row : ResearchRequestRow} (hw : g.worksOn row) :
    g.call = .submitPending ∨ g.call = .pollOnce := by
  have hcall := hw.2.2
  cases hg : g.call with
  | submitPending => exact Or.inl rfl
  | pollOnce => exact Or.inr rfl
  | _ => simp [hg] at hcall

theorem mayGet_of_slot {op : String} (hc : g.call = .submitPending ∨ g.call = .pollOnce)
    (hs : g.slotRead = some op) : rt.may g (.getRequest op) := by
  rcases hc with hc | hc <;> simpa [may, hc] using hs

theorem safe_finishSaved {row : ResearchRequestRow} {c : ResultCompletion}
    (hseen : g.seen row.operationId = some row) (hclosed : g.closed = false)
    (hcall : g.call = .submitPending ∨ g.call = .pollOnce) (hcompl : g.completed = some c)
    (hop : c.operationId = row.operationId) :
    Safe rt permits (rt.finishSaved row c.answer) g := by
  have hc : g.concludes row .saved := by
    refine ⟨hclosed, ?_⟩
    rcases hcall with h | h <;> simp only [h] <;> exact Or.inr ⟨c, hcompl, hop, trivial⟩
  unfold finishSaved
  cases hcost : usageCostMicroUsdOrNone c.answer.usage (rt.scheduleFor row) with
  | none =>
    refine safe_finish hseen rfl hc ?_
    simp only [hcompl, settlementOf, hcost]
  | some cost =>
    refine safe_finish hseen rfl hc ?_
    simp only [hcompl, settlementOf, hcost]

theorem safe_completionRetry {row : ResearchRequestRow} (hseen : g.seen row.operationId = some row)
    (hw : g.worksOn row) (hs : row.state ≠ .submitting) :
    Safe rt permits (completionRetry row) g := by
  refine obeys_call (fun _ _ => trivial) trivial fun env s nowMs _ => ?_
  exact safe_last ⟨row, hseen, .touched nowMs hw hs⟩

theorem safe_completeFromCheckpoint {row : ResearchRequestRow} {answer : ResearchAnswer}
    (hseen : g.seen row.operationId = some row) (hslot : g.slotRead = some row.operationId)
    (hw : row.handle.isSome = true → g.worksOn row) (hs : row.state = .validating)
    (hcheckpoint : row.checkpointJson.bind answerFromCheckpoint = some answer) :
    Safe rt permits (rt.completeFromCheckpoint row answer) g := by
  unfold completeFromCheckpoint
  cases hh : row.handle with
  | none => trivial
  | some handle =>
    have hworks := hw (by rw [hh]; rfl)
    have hcall := worksOn_call hworks
    have hretry : Safe rt permits (completionRetry row) g :=
      safe_completionRetry hseen hworks (by rw [hs]; decide)
    simp only
    split
    · refine obeys_try ⟨row, hseen, hs, hworks, hcheckpoint⟩ fun r s => ?_
      cases r with
      | error x => exact hretry
      | ok receipt =>
        refine obeys_get (fun _ _ => trivial) (mayGet_of_slot hcall hslot) ?_ fun current hop => ?_
        · exact safe_finishSaved (c := ⟨row.operationId, answer, handle, _, _⟩) hseen hworks.1 hcall
            rfl rfl
        · exact safe_finishSaved (c := ⟨row.operationId, answer, handle, _, _⟩)
            (Memory.learn_seen _ _) hworks.1 hcall rfl hop.symm
    · exact hretry

/- The caller that saved the checkpoint goes on working on the row it saved. -/
theorem worksOn_validating {row : ResearchRequestRow} (hw : g.worksOn row)
    (handle : ProviderHandle) (checkpoint : Json) (sha : String) (nowMs : Int) :
    ({ g.learn (row.validating handle checkpoint sha nowMs) with
      closed := g.closed || (row.validating handle checkpoint sha nowMs).terminal } :
        Memory).worksOn (row.validating handle checkpoint sha nowMs) := by
  obtain ⟨hclosed, hcompl, hcall⟩ := hw
  have ht : (row.validating handle checkpoint sha nowMs).terminal = false := rfl
  refine ⟨by simp [hclosed, ht], hcompl, ?_⟩
  revert hcall
  cases hg : g.call with
  | submitPending =>
    simp only [Memory.learn_call, hg]
    exact fun hcall => ⟨hcall.1, Or.inr rfl⟩
  | pollOnce =>
    simp only [Memory.learn_call, hg]
    exact fun _ => ⟨by simp, by simp, rfl⟩
  | _ => exact False.elim

theorem safe_acceptCompletion {row : ResearchRequestRow} {observation : ProviderObservation}
    (hseen : g.seen row.operationId = some row) (hslot : g.slotRead = some row.operationId)
    (hw : g.worksOn row) (hv : row.state ≠ .validating) :
    Safe rt permits (rt.acceptCompletion row observation) g := by
  refine obeys_call (fun _ _ => trivial) trivial fun env s nowMs _ => ?_
  split
  · exact safe_refuse hseen hw hv rfl (by decide)
  rename_i hcancel
  split
  · rename_i answer handle _ _
    cases herr : completionError answer.evidence with
    | some error =>
      obtain ⟨ht, hs⟩ := terminalByError_terminal error
      exact safe_refuse hseen hw hv ht hs
    | none =>
      have hc : row.cancelRequestedAtMs = none := by simpa using hcancel
      refine obeys_save (fun _ _ => trivial)
        ⟨row, hseen, .validating handle answer nowMs hw hv hc herr⟩ ?_
      refine safe_completeFromCheckpoint (Memory.learn_seen _ _) hslot (fun _ => ?_) rfl
        (answerFromCheckpoint_answerCheckpoint answer)
      exact worksOn_validating hw handle _ _ nowMs
  · trivial

theorem safe_applySubmitObservation {row : ResearchRequestRow} {observation : ProviderObservation}
    (hseen : g.seen row.operationId = some row) (hslot : g.slotRead = some row.operationId)
    (hw : g.worksOn row) (hs : row.state = .submitting) (ho : g.observed = some observation) :
    Safe rt permits (rt.applySubmitObservation row observation) g := by
  have hv : row.state ≠ .validating := by rw [hs]; decide
  refine obeys_call (fun _ _ => trivial) trivial fun env s nowMs _ => ?_
  cases hk : observation.kind with
  | pending => exact safe_last ⟨row, hseen, .running observation nowMs hw hs ho (Or.inl hk)⟩
  | running => exact safe_last ⟨row, hseen, .running observation nowMs hw hs ho (Or.inr hk)⟩
  | complete => exact safe_acceptCompletion hseen hslot hw hv
  | refused => exact safe_refuse hseen hw hv rfl (by decide)
  | failed =>
    obtain ⟨ht, hn⟩ := failedState_terminal (observation.errorCode.getD .providerUnavailable)
    exact safe_refuse hseen hw hv ht hn
  | cancelled => exact safe_refuse hseen hw hv rfl (by decide)
  | uncertain => exact safe_refuse hseen hw hv rfl (by decide)

theorem safe_submitClaimed {row : ResearchRequestRow} (hcall : g.call = .submitPending)
    (hseen : g.seen row.operationId = some row) (hslot : g.slotRead = some row.operationId)
    (hclaimed : g.claimed = some row.operationId) (hsent : g.sent = false)
    (hclosed : g.closed = false) (hcompl : g.completed = none) (hs : row.state = .submitting) :
    Safe rt permits (rt.submitClaimed row) g := by
  unfold submitClaimed
  split
  · trivial
  · rename_i request hrequest
    have hw : ∀ observed, ({ g with sent := true, observed } : Memory).worksOn row := fun _ =>
      ⟨hclosed, hcompl, by simpa [hcall] using ⟨hclaimed, Or.inl hs⟩⟩
    have hop := ProviderRequest.ofRecord?_operationId hrequest
    refine obeys_try ⟨hcall, by rw [hclaimed, hop]; rfl, hsent⟩ fun r s => ?_
    cases r with
    | error x => exact safe_refuse hseen (hw g.observed) (by rw [hs]; decide) rfl (by decide)
    | ok observation => exact safe_applySubmitObservation hseen hslot (hw (some observation)) hs rfl

/- The active row of a method that reads the slot. -/
theorem obeys_activeRow {f : Option ResearchRequestRow → Coordinator α}
    (hcall : g.readsSlot) (hslot : g.slotRead = none)
    (hnone : ∀ slot, Safe rt permits (f none) { g with slotRead := slot })
    (hsome : ∀ row, Safe rt permits (f (some row))
      (({ g with slotRead := some row.operationId } : Memory).learn row)) :
    Safe rt permits (activeRow >>= f) g := by
  unfold activeRow
  rw [Program.bind_assoc]
  refine obeys_call (fun _ _ => trivial) ⟨hslot, hcall⟩ fun env s slot _ => ?_
  cases slot with
  | none => exact hnone none
  | some op =>
    refine obeys_get (fun _ _ => trivial) ?_ (hnone (some op)) fun row hop => ?_
    · rcases hcall with h | h | h <;> simp [may, Memory.note, h]
    · rw [← hop]
      exact hsome row

theorem safe_submitPending (hg : g = { call := .submitPending }) :
    Safe rt permits rt.submitPending g := by
  subst hg
  refine obeys_call (fun _ _ => trivial) trivial fun env s enabled _ => ?_
  split
  · trivial
  · refine obeys_activeRow (Or.inl rfl) rfl (fun _ => trivial) fun row => ?_
    dsimp only
    split
    · trivial
    · refine obeys_claim (fun _ _ => trivial) ⟨rfl, rfl, rfl, rfl, rfl, rfl⟩ trivial
        fun claimed hop hs => Safe.andThen ?_
      refine safe_submitClaimed rfl (Memory.learn_seen _ _) ?_ ?_ rfl rfl rfl hs
      · rw [hop]; rfl
      · rw [hop]

theorem safe_recover (hg : g = { call := .recover }) : Safe rt permits recover g := by
  subst hg
  refine obeys_activeRow (Or.inr (Or.inr rfl)) rfl (fun _ => trivial) fun row => ?_
  dsimp only
  split
  · rename_i hs
    exact Safe.andThen (safe_finishUnknown (Memory.learn_seen _ _) rfl ⟨rfl, rfl, hs, rfl⟩ rfl)
  · trivial

theorem safe_applyPollObservation {row : ResearchRequestRow} {observation : ProviderObservation}
    (hseen : g.seen row.operationId = some row) (hslot : g.slotRead = some row.operationId)
    (hw : g.worksOn row) (hs : row.state ≠ .submitting) (hv : row.state ≠ .validating)
    (nowMs : Int) : Safe rt permits (rt.applyPollObservation row observation nowMs) g := by
  unfold applyPollObservation
  cases observation.kind with
  | pending => exact safe_last (e := .save _) ⟨row, hseen, .touched nowMs hw hs⟩
  | running => exact safe_last (e := .save _) ⟨row, hseen, .touched nowMs hw hs⟩
  | complete => exact safe_acceptCompletion hseen hslot hw hv
  | refused => exact safe_refuse hseen hw hv rfl (by decide)
  | failed =>
    obtain ⟨ht, hn⟩ := failedState_terminal (observation.errorCode.getD .providerUnavailable)
    exact safe_refuse hseen hw hv ht hn
  | cancelled => exact safe_refuse hseen hw hv rfl (by decide)
  | uncertain => trivial

theorem safe_pollHandle {row : ResearchRequestRow} {handle : ProviderHandle}
    (hseen : g.seen row.operationId = some row) (hslot : g.slotRead = some row.operationId)
    (hw : g.worksOn row) (hs : row.state ≠ .submitting) (hv : row.state ≠ .validating) :
    Safe rt permits (rt.pollHandle row handle) g := by
  refine obeys_call (fun _ _ => trivial) trivial fun env s nowMs _ => ?_
  split
  · exact obeys_try trivial fun r s => safe_refuse hseen hw hv rfl (by decide)
  · refine obeys_try trivial fun r s => ?_
    cases r with
    | error x => trivial
    | ok observation => exact safe_applyPollObservation hseen hslot hw hs hv nowMs

theorem safe_pollOnce (hg : g = { call := .pollOnce }) : Safe rt permits rt.pollOnce g := by
  subst hg
  refine obeys_activeRow (Or.inr (Or.inl rfl)) rfl (fun _ => trivial) fun row => ?_
  dsimp only
  split
  · trivial
  rename_i hfresh
  rw [not_or] at hfresh
  split
  · rename_i hv
    split
    · trivial
    · rename_i answer hanswer
      exact Safe.andThen (safe_completeFromCheckpoint (Memory.learn_seen _ _) rfl
        (fun hh => ⟨rfl, rfl, hfresh.1, hfresh.2, hh⟩) hv hanswer)
  · rename_i hv
    split
    · trivial
    · rename_i handle hh
      exact Safe.andThen (safe_pollHandle (Memory.learn_seen _ _) rfl
        ⟨rfl, rfl, hfresh.1, hfresh.2, by rw [hh]; rfl⟩ hfresh.2 hv)

theorem concludes_cancel {row : ResearchRequestRow} {state : ResearchLifecycleState}
    (hcall : g.call = .cancel row.operationId) (hclosed : g.closed = false)
    (hcompl : g.completed = none) (ht : row.terminal = false)
    (hc : row.cancelRequestedAtMs.isSome = true) (hh : row.handle.isSome = true)
    (hs : state ≠ .saved) : g.concludes row state :=
  ⟨hclosed, by simpa [hcall] using ⟨hcompl, ht, hc, hh, hs⟩⟩

theorem safe_cancelRemote {row : ResearchRequestRow} (hcall : g.call = .cancel row.operationId)
    (hseen : g.seen row.operationId = some row) (hclosed : g.closed = false)
    (hcompl : g.completed = none) (ht : row.terminal = false)
    (hc : row.cancelRequestedAtMs.isSome = true) : Safe rt permits (cancelRemote row) g := by
  unfold cancelRemote
  cases hh : row.handle with
  | none => trivial
  | some handle =>
    have hfinish : ∀ state code, isTerminalLifecycle state = true → state ≠ .saved →
        Safe rt permits (finishUnknown row state code) g := fun state code hterm hs =>
      safe_finishUnknown hseen hterm
        (concludes_cancel hcall hclosed hcompl ht hc (by rw [hh]; rfl) hs) hcompl
    refine obeys_try trivial fun r s => ?_
    cases r with
    | error x => trivial
    | ok observation =>
      show Safe rt permits (applyCancelObservation row observation) g
      unfold applyCancelObservation
      cases observation.kind with
      | cancelled =>
        refine Safe.bind (obeys_finish hseen rfl
          (concludes_cancel hcall hclosed hcompl ht hc (by rw [hh]; rfl) (by decide))
          (by rw [hcompl])) fun g' saved hfin => ?_
        obtain ⟨hcall', hclosed', hseen', hop, hstate, hmark⟩ := hfin
        refine obeys_call (fun _ _ => trivial) trivial fun env s confirmedAtMs _ => ?_
        refine obeys_call (fun _ _ => trivial) trivial fun env s updatedAtMs _ => ?_
        exact safe_last (e := .save _) ⟨saved, hseen', .confirmed confirmedAtMs updatedAtMs
          (by rw [hop, ← hcall]; exact hcall') hclosed' hstate (by rw [hmark]; exact hc)⟩
      | complete => exact hfinish _ _ rfl (by decide)
      | refused => exact hfinish _ _ rfl (by decide)
      | failed =>
        obtain ⟨hterm, hn⟩ := failedState_terminal (observation.errorCode.getD .providerUnavailable)
        exact hfinish _ _ hterm hn
      | pending => trivial
      | running => trivial
      | uncertain => trivial

theorem safe_cancel {operationId : String} (hg : g = { call := .cancel operationId }) :
    Safe rt permits (cancel operationId) g := by
  subst hg
  refine obeys_get (fun _ _ => trivial) rfl trivial fun row hop => ?_
  subst hop
  dsimp only
  split
  · trivial
  rename_i ht
  have ht : row.terminal = false := by simpa using ht
  refine obeys_call (fun _ _ => trivial) trivial fun env s nowMs _ => ?_
  split
  · rename_i hc
    exact safe_cancelRemote rfl (Memory.learn_seen _ _) rfl rfl ht hc
  · rename_i hc
    refine obeys_save (fun _ _ => trivial) ⟨row, Memory.learn_seen _ _,
      .cancelMarked nowMs rfl rfl ht (by simpa using hc)⟩ ?_
    exact safe_cancelRemote rfl (Memory.learn_seen _ _) rfl rfl rfl rfl

theorem cleanupState_required (outcome : CleanupOutcome) :
    cleanupState outcome ≠ .notRequired := by
  obtain ⟨state, code, hf, hd⟩ := outcome
  cases state <;> simp [cleanupState]

theorem safe_releaseEach {rows : List ResearchRequestRow} {limit : Int}
    (hcall : g.call = .releaseRemotePending limit)
    (hseen : ∀ row ∈ rows, g.seen row.operationId = some row ∧ row.terminal = true)
    (hnodup : (rows.map ResearchRequestRow.operationId).Nodup) :
    Safe rt permits (releaseEach rows) g := by
  induction rows generalizing g with
  | nil => trivial
  | cons row rest ih =>
    rw [List.map_cons] at hnodup
    obtain ⟨hnot, hrest⟩ := List.nodup_cons.mp hnodup
    have hskip : Safe rt permits (releaseEach rest) g :=
      ih hcall (fun r hr => hseen r (List.mem_cons_of_mem _ hr)) hrest
    unfold releaseEach
    split
    · exact hskip
    · obtain ⟨hrow, ht⟩ := hseen row List.mem_cons_self
      refine obeys_try trivial fun r s => ?_
      cases r with
      | error x => exact hskip
      | ok outcome =>
        refine obeys_call (fun _ _ => trivial) trivial fun env s nowMs _ => ?_
        refine obeys_save (fun _ _ => trivial)
          ⟨row, hrow, .cleaned _ nowMs ⟨limit, hcall⟩ ht (cleanupState_required outcome)⟩ ?_
        refine Safe.andThen (ih hcall (fun r hr => ⟨?_, (hseen r (List.mem_cons_of_mem _ hr)).2⟩)
          hrest)
        have hne : r.operationId ≠ row.operationId := fun he =>
          hnot (List.mem_map.mpr ⟨r, hr, he⟩)
        exact (Function.update_of_ne hne _ _).trans (hseen r (List.mem_cons_of_mem _ hr)).1

theorem listCleanupPending_spec (s : ResearchState) (limit : Int) :
    ((s.listCleanupPending limit).map ResearchRequestRow.operationId).Nodup ∧
      ∀ row ∈ s.listCleanupPending limit, row ∈ s.requests.rows ∧ row.terminal = true := by
  have hsub := (List.take_sublist limit.toNat ((s.requests.rows.filter fun row =>
    row.record.cleanupState = .pending && row.handle.isSome && row.terminal).mergeSort
      ResearchState.cleanupOrder))
  have hperm := List.mergeSort_perm (s.requests.rows.filter fun row =>
    row.record.cleanupState = .pending && row.handle.isSome && row.terminal)
      ResearchState.cleanupOrder
  refine ⟨(hsub.map _).nodup ((hperm.map _).nodup_iff.mpr ?_), fun row hr => ?_⟩
  · exact (List.filter_sublist.map _).nodup s.requests.nodup
  · have hmem := List.mem_filter.mp (hperm.mem_iff.mp (hsub.subset hr))
    exact ⟨hmem.1, by simpa using (Bool.and_eq_true _ _ ▸ hmem.2).2⟩

theorem safe_releaseRemotePending {limit : Int} (hg : g = { call := .releaseRemotePending limit }) :
    Safe rt permits (releaseRemotePending limit) g := by
  subst hg
  refine obeys_call (fun _ _ => trivial) ⟨limit, rfl⟩ fun env s rows hr => ?_
  obtain rfl := Env.answer_ok hr
  obtain ⟨hnodup, hrows⟩ := listCleanupPending_spec s limit
  refine safe_releaseEach rfl (fun row hrow => ⟨?_, (hrows row hrow).2⟩) hnodup
  have hfind : (s.listCleanupPending limit).find? (fun r => r.operationId = row.operationId) =
      some row := Table.mem_find? (t := ⟨_, hnodup⟩) hrow
  simp [Memory.note, hfind]

end Methods

/- How an admission ends: a receipt of the row found, or of the row its transaction
   gave back; a refusal before anything was granted, and always a conflict where the
   row found is no replay. -/
def ResearchRuntime.admitOutcome (rt : ResearchRuntime) (g : Memory) (ownerLoginKey : String)
    (kind : ResearchOperationKind) (prompt consentVersion : String) :
    Except Failure CallResult → Prop
  | .ok (.receipt receipt) =>
    (∃ existing, g.found = some (some existing) ∧ g.granted = none ∧
      receipt = ⟨existing, false⟩ ∧
      rt.replayMatches existing ownerLoginKey kind prompt consentVersion = true) ∨
    ∃ stored operationId, g.found = some none ∧ g.granted = some stored ∧
      g.drawn = some operationId ∧ receipt = ⟨stored, stored.operationId = operationId &&
        stored.requestFingerprint = rt.fingerprint ownerLoginKey kind prompt consentVersion⟩
  | .ok _ => False
  | .error x => g.granted = none ∧
    (∀ existing, g.found = some (some existing) → x = .store .idempotencyConflict) ∧
    ∀ y, g.refused = some y → x = y

def ResearchRuntime.outcome (rt : ResearchRuntime) (g : Memory) (r : Except Failure CallResult) :
    Prop :=
  match g.call with
  | .admitResearch owner _ kind prompt consent => rt.admitOutcome g owner kind prompt consent r
  | _ => True

theorem admissionRecord?_some {operationId prompt : String} {kind : ResearchOperationKind}
    {snapshot : ResearchSelectionSnapshot} {record : ResearchRequestRecord}
    (h : admissionRecord? operationId kind prompt snapshot = some record) :
    record.operationId = operationId ∧ record.kind = kind ∧ record.prompt = prompt ∧
      record.profile = snapshot.profile ∧ record.state = .admitted := by
  unfold admissionRecord? at h
  split at h
  · cases h
    exact ⟨rfl, rfl, rfl, rfl, rfl⟩
  · cases h

section Admission
variable {rt : ResearchRuntime} {permits : Memory → Env → Effect → ResearchState → Prop}
  {owner client prompt consent : String} {kind : ResearchOperationKind}

/- The strict part of an admission that is still looking for its answer. -/
theorem admission_strict (rt : ResearchRuntime) {g : Memory}
    (hfound : ∀ existing, g.found ≠ some (some existing)) (hg : g.granted = none)
    (hr : g.refused = none) {e : Effect} (he : e.admission = true)
    (hm : rt.may g e) : rt.mayStrictly g e := ⟨hm, fun _ _ _ _ _ _ => ⟨he, hg, hr, hfound⟩⟩

theorem obeys_admitNew {g : Memory} (hcall : g.call = .admitResearch owner client kind prompt consent)
    (hfound : g.found = some none) (hg : g.granted = none) (hr : g.refused = none) :
    Obeys ((rt.protocol permits).withMay rt.mayStrictly)
      (fun g' r => rt.outcome g' (r.map CallResult.receipt))
      (rt.admitNew owner client kind prompt consent) g := by
  have herr : ∀ g' : Memory, g'.call = .admitResearch owner client kind prompt consent →
      g'.found = some none → g'.granted = none → g'.refused = none → ∀ x,
      rt.outcome g' (.error x) := fun g' h1 h2 h3 h4 x => by
    simp [outcome, h1, admitOutcome, h2, h3, h4]
  have hopen : ∀ existing, g.found ≠ some (some existing) := by simp [hfound]
  refine obeys_strictly (admission_strict rt hopen hg hr rfl ⟨_, _, _, _, _, hcall⟩)
    (fun s x => herr _ hcall hfound hg hr x) fun env s blocker _ => ?_
  cases blocker with
  | some code => exact herr _ hcall hfound hg hr _
  | none =>
    refine obeys_strictly (admission_strict rt (e := .select kind) hopen hg hr rfl trivial)
      (fun s x => herr _ hcall hfound hg hr x) fun env s selected _ => ?_
    cases selected with
    | error code => exact herr _ hcall hfound hg hr _
    | ok snapshot =>
      refine obeys_strictly (admission_strict rt (e := .clockMs) hopen hg hr rfl trivial)
        (fun s x => herr _ hcall hfound hg hr x) fun env s nowMs _ => ?_
      refine obeys_strictly (admission_strict rt (e := .admissionGuard snapshot nowMs) hopen hg hr rfl trivial)
        (fun s x => herr _ hcall hfound hg hr x) fun env s denial _ => ?_
      cases denial with
      | some code => exact herr _ hcall hfound hg hr _
      | none =>
        refine obeys_strictly
          (admission_strict rt (e := .newOperationId) hopen hg hr rfl ⟨_, _, _, _, _, hcall⟩)
          (fun s x => herr _ hcall hfound hg hr x) fun env s operationId _ => ?_
        dsimp only
        split
        · exact herr _ hcall hfound hg hr _
        · rename_i record hrecord
          split
          · exact herr _ hcall hfound hg hr _
          · rename_i reservation hreservation
            have hop := (admissionRecord?_some hrecord).1
            rw [← hop] at hrecord
            refine obeys_strictly ?_ (fun s x => ?_) fun env s stored _ => ?_
            · refine admission_strict rt ?_ ?_ ?_ rfl ?_
              · exact hopen
              · exact hg
              · exact hr
              · exact ⟨⟨owner, client, kind, prompt, consent, snapshot, record, nowMs, hcall, hfound,
                  ⟨hg, hr⟩, rfl, by rw [hop]; rfl, hrecord, rfl, hreservation⟩⟩
            · simp [outcome, Memory.note, hcall, admitOutcome, hfound, hg, Except.map]
            · simp only [Program.pure_eq, Obeys.done_iff, outcome, Memory.note, hcall, admitOutcome,
                Except.map]
              exact Or.inr ⟨stored, operationId, hfound, rfl, rfl, by rw [hop]⟩

theorem obeys_admitResearch :
    Obeys ((rt.protocol permits).withMay rt.mayStrictly)
      (fun g' r => rt.outcome g' (r.map CallResult.receipt))
      (rt.admitResearch owner client kind prompt consent)
      { call := .admitResearch owner client kind prompt consent } := by
  unfold ResearchRuntime.admitResearch
  split
  · simp [outcome, admitOutcome, Except.map]
  · refine obeys_strictly (admission_strict rt (by simp) rfl rfl rfl ⟨_, _, _, rfl⟩) (fun s x => by
      simp [outcome, Memory.note, admitOutcome, Except.map]) fun env s found _ => ?_
    cases found with
    | none => exact obeys_admitNew rfl rfl rfl rfl
    | some existing =>
      dsimp only
      split
      · rename_i hmatch
        exact Or.inl ⟨existing, rfl, rfl, rfl, hmatch⟩
      · simp [outcome, Memory.note, admitOutcome, Except.map]

end Admission

@[simp] theorem Memory.note_call (g : Memory) (s : ResearchState) (e : Effect)
    (r : Except Failure e.Result) : (g.note s e r).call = g.call := by
  unfold Memory.note
  split <;> rfl

/-- Whatever the other callers, the provider and the clock do, every method keeps
strictly to its protocol, and every admission ends as `outcome` says. -/
theorem program_obeys_strictly (rt : ResearchRuntime)
    (permits : Memory → Env → Effect → ResearchState → Prop) (c : Call) :
    Obeys ((rt.protocol permits).withMay rt.mayStrictly) rt.outcome (rt.program c)
      { call := c } := by
  -- a method other than an admission has nothing more to keep to
  have hsafe : ∀ {p : Coordinator CallResult}, Safe rt permits p { call := c } →
      (∀ owner client kind prompt consent, c ≠ .admitResearch owner client kind prompt consent) →
      Obeys ((rt.protocol permits).withMay rt.mayStrictly) rt.outcome p { call := c } := by
    intro p hp hother
    have hkeep : ∀ (g : Memory) s e r, g.call = c → (rt.protocol permits).may g e →
        ((rt.protocol permits).note g s e r).call = c := fun g s e r h _ => by simpa [protocol] using h
    have hall : Obeys (rt.protocol permits) rt.outcome p { call := c } := by
      refine (Obeys.keeps hkeep hp rfl).mono fun g r h => ?_
      have hcall : g.call = c := h.2
      unfold outcome
      split
      · rename_i owner client kind prompt consent hg
        exact absurd (hcall.symm.trans hg) (hother owner client kind prompt consent)
      · trivial
    refine Obeys.strengthen hkeep (fun g e hg hm => ⟨hm, fun owner client kind prompt consent h => ?_⟩)
      hall rfl
    exact absurd (hg.symm.trans h) (hother owner client kind prompt consent)
  cases c with
  | admitResearch owner client kind prompt consent =>
    refine Obeys.bind (obeys_admitResearch.mono fun g' r h => ?_)
    cases r with
    | ok receipt => exact h
    | error x => exact h
  | submitPending => exact hsafe (Safe.andThen (safe_submitPending rfl)) nofun
  | pollOnce => exact hsafe (Safe.andThen (safe_pollOnce rfl)) nofun
  | recover => exact hsafe (Safe.andThen (safe_recover rfl)) nofun
  | cancel operationId => exact hsafe (Safe.andThen (safe_cancel rfl)) nofun
  | releaseRemotePending limit => exact hsafe (Safe.andThen (safe_releaseRemotePending rfl)) nofun

theorem program_obeys (rt : ResearchRuntime)
    (permits : Memory → Env → Effect → ResearchState → Prop) (c : Call) :
    Obeys (rt.protocol permits) rt.outcome (rt.program c) { call := c } :=
  Obeys.weaken (fun _ _ h => h.1) (program_obeys_strictly rt permits c)

end FrameNest.Research
