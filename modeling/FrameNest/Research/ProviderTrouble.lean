import FrameNest.Research.OpenAIResponses
import FrameNest.Research.SlotRelease

/-! What becomes of a running request when the provider cannot be reached: the adapter
reports a failure, and the coordinator ends the request. -/
namespace FrameNest.Research
open Concurrent OpenAIResponsesAdapter

/-- The transport was unavailable, timed out, was limited or met a 5xx: nothing was
learnt about the response. -/
def TransportOutcome.transient : TransportOutcome → Prop
  | .raised => True
  | .transportError message => message ∈
    [transportUnavailableMessage, transportRateLimitedMessage, transportFailedMessage]
  | .response reply => reply.statusCode = 429 ∨ 500 ≤ reply.statusCode

section Adapter
variable {outcome : TransportOutcome}

/-- The adapter turns every transient outcome it does not let through into a failure. -/
theorem readPoll_transient (handle : ProviderHandle) (h : outcome.transient) (hraised : outcome ≠ .raised) :
    ∃ code, readPoll handle outcome = .ok (.failed code) := by
  cases outcome with
  | raised => exact absurd rfl hraised
  | transportError message => exact ⟨_, rfl⟩
  | response response =>
    have hstatus : response.statusCode ≠ 200 := by
      intro hok
      simp only [TransportOutcome.transient, hok] at h
      omega
    exact ⟨statusErrorCode response.statusCode, by simp only [readPoll, hstatus, ne_eq,
      not_false_eq_true, if_true]⟩

theorem readCancellation_transient (h : outcome.transient) (hraised : outcome ≠ .raised) :
    ∃ code, readCancellation outcome = .ok (.failed code) := by
  cases outcome with
  | raised => exact absurd rfl hraised
  | transportError message => exact ⟨_, rfl⟩
  | response response =>
    have hstatus : response.statusCode ∉ [200, 201, 202] := by
      intro hok
      simp only [TransportOutcome.transient] at h
      simp only [List.mem_cons, List.not_mem_nil, or_false] at hok
      omega
    exact ⟨statusErrorCode response.statusCode, by simp only [readCancellation, hstatus, if_false]⟩

end Adapter

section Finish
variable {rt : ResearchRuntime} {endpoint : String} {s : ResearchState}
  {row stored : ResearchRequestRow}

theorem terminalRequest_eq {op : String} (h : s.request? op = some row) :
    s.terminalRequest op = row.terminal := by
  simp [ResearchState.terminalRequest, h]

theorem finished_updateAccepted (hcreated : stored.createdAtMs = row.createdAtMs)
    (hadmitted : stored.admittedAtMs = row.admittedAtMs) (h : row.updateAccepted = true)
    (state : ResearchLifecycleState) (code : Option ResearchErrorCode)
    (accounting : ResearchAccountingState) (t : Int) :
    (stored.overwrite (row.finished state code accounting t)).updateAccepted = true ↔
      row.admittedAtMs ≤ t := by
  have hsame : (stored.overwrite (row.finished state code accounting t)).updateAccepted =
      (row.finished state code accounting t).updateAccepted :=
    overwrite_updateAccepted hcreated hadmitted
  rw [hsame]
  refine ⟨fun hacc => ?_, fun ht => finished_accepted h ht state code accounting⟩
  rw [ResearchRequestRow.updateAccepted, Bool.and_eq_true, ResearchRequestRow.timesAccepted_iff]
    at hacc
  obtain ⟨-, -, -, -, -, -, hfinished, -⟩ := hacc
  exact hfinished t rfl

theorem cancelMarked_updateAccepted (h : row.updateAccepted = true)
    (hnone : row.cancelRequestedAtMs = none) (t : Int) :
    (row.cancelMarked t).updateAccepted = true ↔ row.createdAtMs ≤ t := by
  rw [ResearchRequestRow.updateAccepted, Bool.and_eq_true, ResearchRequestRow.timesAccepted_iff]
    at h ⊢
  obtain ⟨hc, -, hconf, hzero, hcreated, hsub, hfin, -⟩ := h
  refine ⟨fun hall => hall.2.2.2.2.2.2.2, fun ht => ?_⟩
  refine ⟨hc, fun u hu => ?_, fun u hu => ?_, hzero, hcreated, hsub, hfin, ht⟩
  · cases hu
    omega
  · obtain ⟨requested, hreq, -⟩ := hconf u hu
    rw [hnone] at hreq
    cases hreq

/-- What is left to do once a terminal row is saved does not reopen it. -/
theorem run_settle_terminal (as : List AdapterEnv) (r : BudgetReconciliation)
    (saved : ResearchRequestRow) (f : ResearchRequestRow → α) (op : String) :
    (Program.run (rt.execOver endpoint) as ((do
      let _ ← call (.reconcile r)
      pure saved) >>= fun saved => .done (f saved)) s).2.terminalRequest op =
      s.terminalRequest op := by
  cases as with
  | nil => rfl
  | cons a as =>
    have hkeep : (rt.execOver endpoint a (.reconcile r) s).2.terminalRequest op =
        s.terminalRequest op :=
      congrArg (fun found : Option ResearchRequestRow => found.any ResearchRequestRow.terminal)
        (exec_reconcile_request? rt _ r s op)
    rw [Program.bind_assoc]
    cases hr : rt.execOver endpoint a (.reconcile r) s with
    | mk answer s' =>
      rw [hr] at hkeep
      cases answer with
      | ok hold =>
        rw [Program.run_perform hr]
        simpa using hkeep
      | error failure =>
        rw [Program.run_perform_error hr]
        exact hkeep

/-- A terminal save ends the request exactly where the columns accept it. -/
theorem run_finishUnknown_terminal {state : ResearchLifecycleState} {code : ResearchErrorCode}
    {a₀ a₁ : AdapterEnv} (as : List AdapterEnv) (f : ResearchRequestRow → α)
    (hst : s.request? row.operationId = some stored) (hopen : stored.terminal = false)
    (hterm : isTerminalLifecycle state = true) (hquiet : a₁.env.fault = false) :
    (Program.run (rt.execOver endpoint) (a₀ :: a₁ :: as)
      (ResearchRuntime.finishUnknown row state code >>= fun saved => .done (f saved))
      s).2.terminalRequest row.operationId =
      (stored.overwrite
        (row.finished state (some code) .unknown a₀.env.clockMs)).updateAccepted := by
  obtain ⟨done, hdone⟩ : ∃ done, done = row.finished state (some code) .unknown a₀.env.clockMs :=
    ⟨_, rfl⟩
  have hop : done.operationId = row.operationId := by rw [hdone]; rfl
  simp only [ResearchRuntime.finishUnknown, ResearchRuntime.finish]
  rw [Program.bind_assoc, Program.run_perform (r := a₀.env.clockMs) (t := s) rfl, ← hdone,
    Program.bind_assoc]
  cases hacc : (stored.overwrite done).updateAccepted with
  | true =>
    have hsave : rt.execOver endpoint a₁ (.save done) s = (.ok done, savedState s done) :=
      exec_save hquiet (hop ▸ hst) hacc
    have hself : (savedState s done).request? row.operationId = some (stored.overwrite done) := by
      rw [← hop]
      exact savedState_self (hop ▸ hst)
    rw [Program.run_perform hsave, run_settle_terminal, terminalRequest_eq hself, hdone]
    exact hterm
  | false =>
    have hsave : rt.execOver endpoint a₁ (.save done) s = (.error .other, s) := by
      have hst' : s.request? done.operationId = some stored := hop ▸ hst
      show Env.transact a₁.env (saveRequest done) s = _
      simp [Env.transact, hquiet, saveRequest, hst', hacc]
    rw [Program.run_perform_error hsave, terminalRequest_eq hst]
    exact hopen

end Finish

/-- One provider call that is sent, and what the transport makes of it. -/
def AdapterEnv.meets (a : AdapterEnv) (request : List (String × String) → HttpsRequest)
    (outcome : TransportOutcome) : Prop :=
  ∃ headers, authHeaders a.exchange.apiKey = some headers ∧
    a.exchange.transport (request headers) = outcome

section Calls
variable {rt : ResearchRuntime} {endpoint : String} {s : ResearchState} {row : ResearchRequestRow}
  {handle : ProviderHandle} {outcome : TransportOutcome}

theorem exec_poll (rt : ResearchRuntime) (s : ResearchState) {a : AdapterEnv} (h : a.meets (pollRequest endpoint handle) outcome)
    (ht : outcome.transient) :
    rt.execOver endpoint a (.poll handle) s = (.error .other, s) ∧ outcome = .raised ∨
    ∃ code, rt.execOver endpoint a (.poll handle) s = (.ok (.failed code), s) ∧
      outcome ≠ .raised := by
  obtain ⟨headers, hkey, hsent⟩ := h
  have hpoll : poll endpoint a.exchange handle = readPoll handle outcome := by
    simp only [poll, hkey, hsent]
  by_cases hraised : outcome = .raised
  · refine Or.inl ⟨?_, hraised⟩
    simp [ResearchRuntime.execOver, ResearchRuntime.exec, AdapterEnv.answering, hpoll, hraised,
      readPoll, Env.observing, Env.answer]
  · obtain ⟨code, hcode⟩ := readPoll_transient handle ht hraised
    refine Or.inr ⟨code, ?_, hraised⟩
    simp [ResearchRuntime.execOver, ResearchRuntime.exec, AdapterEnv.answering, hpoll, hcode,
      Env.observing, Env.answer]

theorem exec_cancel (rt : ResearchRuntime) (s : ResearchState) {a : AdapterEnv} (h : a.meets (cancelRequest endpoint handle) outcome)
    (ht : outcome.transient) :
    rt.execOver endpoint a (.cancel handle) s = (.error .other, s) ∧ outcome = .raised ∨
    ∃ code, rt.execOver endpoint a (.cancel handle) s = (.ok (.failed code), s) ∧
      outcome ≠ .raised := by
  obtain ⟨headers, hkey, hsent⟩ := h
  have hcancel : cancel endpoint a.exchange handle = readCancellation outcome := by
    simp only [cancel, hkey, hsent]
  by_cases hraised : outcome = .raised
  · refine Or.inl ⟨?_, hraised⟩
    simp [ResearchRuntime.execOver, ResearchRuntime.exec, AdapterEnv.answering, hcancel, hraised,
      readCancellation, Env.observing, Env.answer]
  · obtain ⟨code, hcode⟩ := readCancellation_transient ht hraised
    refine Or.inr ⟨code, ?_, hraised⟩
    simp [ResearchRuntime.execOver, ResearchRuntime.exec, AdapterEnv.answering, hcancel, hcode,
      Env.observing, Env.answer]

/-- A failure that a provider call reports ends the request, unless the clock stands
before the admission. -/
theorem run_failed_terminal {stored : ResearchRequestRow} {code : ResearchErrorCode}
    {a₀ a₁ : AdapterEnv} (as : List AdapterEnv) (f : ResearchRequestRow → α)
    (hst : s.request? row.operationId = some stored) (hopen : stored.terminal = false)
    (hcreated : stored.createdAtMs = row.createdAtMs)
    (hadmitted : stored.admittedAtMs = row.admittedAtMs) (hacc : row.updateAccepted = true)
    (hquiet : a₁.env.fault = false) :
    (Program.run (rt.execOver endpoint) (a₀ :: a₁ :: as)
      (ResearchRuntime.finishUnknown row (failedState code) code >>= fun saved => .done (f saved))
      s).2.terminalRequest row.operationId = false ↔ a₀.env.clockMs < row.admittedAtMs := by
  rw [run_finishUnknown_terminal as f hst hopen (failedState_terminal code).1 hquiet,
    ← Bool.not_eq_true, finished_updateAccepted hcreated hadmitted hacc, not_le]

/-- Polling ends the request unless the transport's exception came through, or the clock
stands before the admission. -/
theorem poll_trouble {a₀ a₁ a₂ a₃ a₄ a₅ : AdapterEnv} (as : List AdapterEnv)
    (hacc : row.updateAccepted = true) (hslot : s.slot = some row.operationId)
    (hst : s.request? row.operationId = some row)
    (hstate : row.state = .running ∨ row.state = .cancelRequested)
    (hhandle : row.handle = some handle) (h₀ : a₀.env.fault = false) (h₁ : a₁.env.fault = false)
    (hdeadline : a₂.env.clockMs - row.admittedAtMs < (row.record.deadlineSeconds : Int) * 1000)
    (h₃ : a₃.meets (pollRequest endpoint handle) outcome) (ht : outcome.transient)
    (h₅ : a₅.env.fault = false) :
    (Program.run (rt.execOver endpoint) (a₀ :: a₁ :: a₂ :: a₃ :: a₄ :: a₅ :: as)
        (rt.program .pollOnce) s).2.terminalRequest row.operationId = false ↔
      outcome = .raised ∨ a₄.env.clockMs < row.admittedAtMs := by
  have hopen : row.terminal = false := waits_not_terminal hstate
  have hsubmitted : ¬ (row.state = .admitted ∨ row.state = .submitting) := by
    obtain h | h := hstate
    · simp [h]
    · simp [h]
  have hnotValidating : row.state ≠ .validating := by
    obtain h | h := hstate
    · simp [h]
    · simp [h]
  simp only [ResearchRuntime.program, ResearchRuntime.pollOnce, ResearchRuntime.activeRow,
    Program.bind_assoc]
  rw [Program.run_perform (r := s.slot) (t := s) (answer_eq h₀ _), hslot]
  simp only []
  rw [Program.run_perform (r := s.request? row.operationId) (t := s) (answer_eq h₁ _), hst]
  simp only [hsubmitted, hnotValidating, if_false, hhandle, ResearchRuntime.pollHandle,
    Program.bind_assoc, Program.pure_eq, Program.done_bind]
  rw [Program.run_perform (r := a₂.env.clockMs) (t := s) rfl, if_neg (by omega)]
  simp only [Program.bind_assoc]
  obtain ⟨hexec, hraised⟩ | ⟨code, hexec, hraised⟩ := exec_poll rt s h₃ ht
  · rw [Program.run_attempt hexec]
    simpa [terminalRequest_eq hst, hopen] using Or.inl hraised
  · rw [Program.run_attempt hexec, or_iff_right hraised]
    exact run_failed_terminal as (fun saved => CallResult.row (some saved)) hst hopen rfl rfl hacc h₅

/-- The provider call of a cancellation, once the request is marked. -/
theorem run_cancelRemote_trouble {stored : ResearchRequestRow} {a₀ a₁ a₂ : AdapterEnv}
    (as : List AdapterEnv) (hst : s.request? row.operationId = some stored)
    (hopen : stored.terminal = false) (hcreated : stored.createdAtMs = row.createdAtMs)
    (hadmitted : stored.admittedAtMs = row.admittedAtMs) (hacc : row.updateAccepted = true)
    (hhandle : row.handle = some handle) (h₀ : a₀.meets (cancelRequest endpoint handle) outcome)
    (ht : outcome.transient) (h₂ : a₂.env.fault = false) :
    (Program.run (rt.execOver endpoint) (a₀ :: a₁ :: a₂ :: as)
        (ResearchRuntime.cancelRemote row >>= fun saved => .done (CallResult.row (some saved)))
        s).2.terminalRequest row.operationId = false ↔
      outcome = .raised ∨ a₁.env.clockMs < row.admittedAtMs := by
  simp only [ResearchRuntime.cancelRemote, hhandle, Program.bind_assoc]
  obtain ⟨hexec, hraised⟩ | ⟨code, hexec, hraised⟩ := exec_cancel rt s h₀ ht
  · rw [Program.run_attempt hexec]
    simpa [terminalRequest_eq hst, hopen] using Or.inl hraised
  · rw [Program.run_attempt hexec, or_iff_right hraised]
    exact run_failed_terminal as (fun saved => CallResult.row (some saved)) hst hopen hcreated
      hadmitted hacc h₂

/-- So does cancelling a request that is already marked. -/
theorem cancel_marked_trouble {a₀ a₁ a₂ a₃ a₄ : AdapterEnv} (as : List AdapterEnv)
    (hacc : row.updateAccepted = true) (hst : s.request? row.operationId = some row)
    (hopen : row.terminal = false) (hhandle : row.handle = some handle)
    (hmark : row.cancelRequestedAtMs.isSome = true) (h₀ : a₀.env.fault = false)
    (h₂ : a₂.meets (cancelRequest endpoint handle) outcome) (ht : outcome.transient)
    (h₄ : a₄.env.fault = false) :
    (Program.run (rt.execOver endpoint) (a₀ :: a₁ :: a₂ :: a₃ :: a₄ :: as)
        (rt.program (.cancel row.operationId)) s).2.terminalRequest row.operationId = false ↔
      outcome = .raised ∨ a₃.env.clockMs < row.admittedAtMs := by
  simp only [ResearchRuntime.program, ResearchRuntime.cancel, Program.bind_assoc]
  rw [Program.run_perform (r := s.request? row.operationId) (t := s) (answer_eq h₀ _), hst]
  simp only [hopen, Bool.false_eq_true, if_false, Program.bind_assoc]
  rw [Program.run_perform (r := a₁.env.clockMs) (t := s) rfl]
  simp only [hmark, if_true]
  exact run_cancelRemote_trouble as hst hopen rfl rfl hacc hhandle h₂ ht h₄

/-- A request that is not yet marked may also stay because its mark is refused. -/
theorem cancel_unmarked_trouble {a₀ a₁ a₂ a₃ a₄ a₅ : AdapterEnv} (as : List AdapterEnv)
    (hacc : row.updateAccepted = true) (hst : s.request? row.operationId = some row)
    (hopen : row.terminal = false) (hhandle : row.handle = some handle)
    (hmark : row.cancelRequestedAtMs = none) (h₀ : a₀.env.fault = false)
    (h₂ : a₂.env.fault = false) (h₃ : a₃.meets (cancelRequest endpoint handle) outcome)
    (ht : outcome.transient) (h₅ : a₅.env.fault = false) :
    (Program.run (rt.execOver endpoint) (a₀ :: a₁ :: a₂ :: a₃ :: a₄ :: a₅ :: as)
        (rt.program (.cancel row.operationId)) s).2.terminalRequest row.operationId = false ↔
      outcome = .raised ∨ a₄.env.clockMs < row.admittedAtMs ∨
        a₁.env.clockMs < row.createdAtMs := by
  obtain ⟨marked, hmarked⟩ : ∃ marked, marked = row.cancelMarked a₁.env.clockMs := ⟨_, rfl⟩
  have hop : marked.operationId = row.operationId := by rw [hmarked]; rfl
  have hst' : s.request? marked.operationId = some row := hop ▸ hst
  have haccepted : (row.overwrite marked).updateAccepted = marked.updateAccepted :=
    overwrite_updateAccepted (by rw [hmarked]; rfl) (by rw [hmarked]; rfl)
  have hmark_iff : marked.updateAccepted = true ↔ row.createdAtMs ≤ a₁.env.clockMs := by
    rw [hmarked]
    exact cancelMarked_updateAccepted hacc hmark _
  simp only [ResearchRuntime.program, ResearchRuntime.cancel, Program.bind_assoc]
  rw [Program.run_perform (r := s.request? row.operationId) (t := s) (answer_eq h₀ _), hst]
  simp only [hopen, Bool.false_eq_true, if_false, Program.bind_assoc]
  rw [Program.run_perform (r := a₁.env.clockMs) (t := s) rfl]
  simp only [hmark, Option.isSome_none, Bool.false_eq_true, if_false, Program.bind_assoc]
  rw [← hmarked]
  by_cases hclock : row.createdAtMs ≤ a₁.env.clockMs
  · have hsave : rt.execOver endpoint a₂ (.save marked) s = (.ok marked, savedState s marked) :=
      exec_save h₂ hst' (haccepted.trans (hmark_iff.mpr hclock))
    have hself : (savedState s marked).request? marked.operationId = some (row.overwrite marked) :=
      savedState_self hst'
    have hopen' : (row.overwrite marked).terminal = false := by
      rw [ResearchRequestRow.overwrite_terminal, hmarked]
      rfl
    have hadmitted : marked.admittedAtMs = row.admittedAtMs := by rw [hmarked]; rfl
    rw [Program.run_perform hsave, ← hop, ← hadmitted, or_iff_left (b := a₁.env.clockMs < _) (by omega)]
    refine run_cancelRemote_trouble as hself hopen' ?_ ?_ (hmark_iff.mpr hclock) ?_ h₃ ht h₅
    · rw [hmarked]; rfl
    · rw [hmarked]; rfl
    · rw [hmarked]; exact hhandle
  · have hsave : rt.execOver endpoint a₂ (.save marked) s = (.error .other, s) := by
      have hrefused : marked.updateAccepted = false := by
        rw [← Bool.not_eq_true, hmark_iff]
        exact hclock
      show Env.transact a₂.env (saveRequest marked) s = _
      simp [Env.transact, h₂, saveRequest, hst', haccepted, hrefused]
    rw [Program.run_perform_error hsave, terminalRequest_eq hst]
    simp only [hopen, true_iff]
    exact Or.inr (Or.inr (by omega))

end Calls

/-- Whether the request is terminal once a call has met these answers. -/
def ResearchRuntime.ends (rt : ResearchRuntime) (endpoint : String) (c : Call)
    (as : List AdapterEnv) (s : ResearchState) (op : String) : Bool :=
  (Program.run (rt.execOver endpoint) as (rt.program c) s).2.terminalRequest op

/-- Provider trouble leaves a running request open exactly where the transport's own
exception reaches the coordinator, or the clock is behind the request's own timestamps. -/
theorem transient_trouble (rt : ResearchRuntime) (endpoint : String) {s : ResearchState}
    (hs : SeqReachable (rt.system always true) .empty s) {op : String} {row : ResearchRequestRow}
    {handle : ProviderHandle} (hst : s.request? op = some row)
    (hstate : row.state = .running ∨ row.state = .cancelRequested)
    (hhandle : row.handle = some handle) {outcome : TransportOutcome} (ht : outcome.transient) :
    (∀ a₀ a₁ a₂ a₃ a₄ a₅ as, (∀ a ∈ [a₀, a₁, a₅], a.env.fault = false) →
      a₂.env.clockMs - row.admittedAtMs < (row.record.deadlineSeconds : Int) * 1000 →
      a₃.meets (pollRequest endpoint handle) outcome →
      (rt.ends endpoint .pollOnce (a₀ :: a₁ :: a₂ :: a₃ :: a₄ :: a₅ :: as) s op = false ↔
        outcome = .raised ∨ a₄.env.clockMs < row.admittedAtMs)) ∧
    (row.cancelRequestedAtMs.isSome = true →
      ∀ a₀ a₁ a₂ a₃ a₄ as, (∀ a ∈ [a₀, a₄], a.env.fault = false) →
      a₂.meets (cancelRequest endpoint handle) outcome →
      (rt.ends endpoint (.cancel op) (a₀ :: a₁ :: a₂ :: a₃ :: a₄ :: as) s op = false ↔
        outcome = .raised ∨ a₃.env.clockMs < row.admittedAtMs)) ∧
    (row.cancelRequestedAtMs = none →
      ∀ a₀ a₁ a₂ a₃ a₄ a₅ as, (∀ a ∈ [a₀, a₂, a₅], a.env.fault = false) →
      a₃.meets (cancelRequest endpoint handle) outcome →
      (rt.ends endpoint (.cancel op) (a₀ :: a₁ :: a₂ :: a₃ :: a₄ :: a₅ :: as) s op = false ↔
        outcome = .raised ∨ a₄.env.clockMs < row.admittedAtMs ∨
          a₁.env.clockMs < row.createdAtMs)) := by
  obtain ⟨hc, hn⟩ := (slot_preserved rt always true).seqReachable (system_obedient rt always true)
    hs ⟨consistent_empty, slotNames_empty⟩
  have hop : row.operationId = op := ResearchState.request?_operationId hst
  subst hop
  have hacc := hc.accepted _ row hst
  have hopen : row.terminal = false := waits_not_terminal hstate
  have hslot := hn.opened _ row hst hopen
  refine ⟨fun a₀ a₁ a₂ a₃ a₄ a₅ as hquiet hdeadline hmeets => ?_,
    fun hmark a₀ a₁ a₂ a₃ a₄ as hquiet hmeets => ?_,
    fun hmark a₀ a₁ a₂ a₃ a₄ a₅ as hquiet hmeets => ?_⟩
  · exact poll_trouble as hacc hslot hst hstate hhandle (hquiet a₀ (by simp)) (hquiet a₁ (by simp))
      hdeadline hmeets ht (hquiet a₅ (by simp))
  · exact cancel_marked_trouble as hacc hst hopen hhandle hmark (hquiet a₀ (by simp)) hmeets ht
      (hquiet a₄ (by simp))
  · exact cancel_unmarked_trouble as hacc hst hopen hhandle hmark (hquiet a₀ (by simp))
      (hquiet a₂ (by simp)) hmeets ht (hquiet a₅ (by simp))

open Sample

/- One request RUNNING with its handle. -/
def underway : ResearchState :=
  runtime.afterCalls [taken, (.submitPending, List.replicate 7 env)]

/- The library's own transport, under what `urlopen` does. -/
def through (opening : HttpsJsonTransport.Opening) : AdapterEnv :=
  ⟨env, ⟨some "key", HttpsJsonTransport.transport fun _ => opening⟩⟩

/- A 503 whose body cannot be read: that exception is not the transport's own. -/
theorem unreadable_error_keeps_request :
    runtime.ends "https://api" .pollOnce
      (List.replicate 6 (through (.httpError 503 .raised))) underway "op-1" = false := by
  have hrow : (underway.request? "op-1").map (fun row => (row.state, row.handle,
      decide (env.clockMs - row.admittedAtMs < (row.record.deadlineSeconds : Int) * 1000))) =
      some (.running, some handle, true) := by decide +kernel
  obtain ⟨row, hst, hrow⟩ := Option.map_eq_some_iff.mp hrow
  have htrouble := (transient_trouble runtime "https://api" (runtime.afterCalls_reachable _) hst
    (Or.inl (congrArg Prod.fst hrow)) (congrArg (fun r => r.2.1) hrow)
    (show TransportOutcome.transient .raised from trivial)).1
  refine (htrouble (through _) (through _) (through _) (through _) (through _) (through _) [] ?_ ?_ ?_).mpr
    (Or.inl rfl)
  · simp [through, env]
  · exact of_decide_eq_true (congrArg (fun r => r.2.2) hrow)
  · exact ⟨_, rfl, rfl⟩

/-- One poll of an unreachable provider, before the deadline, ends the request it was to
keep. -/
theorem unreachable_provider_ends_request :
    SeqReachable (runtime.system always true) .empty underway ∧
      (underway.request? "op-1").map (fun row => (row.state, row.handle,
        decide (env.clockMs - row.admittedAtMs < (row.record.deadlineSeconds : Int) * 1000))) =
        some (.running, some handle, true) ∧
      (through .urlError).meets (pollRequest "https://api" handle)
        (.transportError transportUnavailableMessage) ∧
      (TransportOutcome.transportError transportUnavailableMessage).transient ∧
      runtime.ends "https://api" .pollOnce (List.replicate 7 (through .urlError)) underway "op-1" =
        true := by
  refine ⟨runtime.afterCalls_reachable _, by decide +kernel, ⟨_, rfl, rfl⟩, ?_, by decide +kernel⟩
  exact List.mem_cons_self

end FrameNest.Research
