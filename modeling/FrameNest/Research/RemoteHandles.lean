import FrameNest.Concurrent.Issues
import FrameNest.Research.AdapterProtocol
import FrameNest.Research.ProviderTrouble

/-! Which response ids come back from the provider, and what becomes of each: the
coordinator over the adapter, watched by a log of every id a submission reply named. -/
namespace FrameNest.Research
open Concurrent OpenAIResponsesAdapter

/-- The id of the response that a reply names, whatever its status. -/
def TransportOutcome.responseId : TransportOutcome → Option String
  | .response reply => match decodePayload reply with
    | some payload => match Payload.get payload "id" with
      | .str value => if value = "" then none else some value
      | _ => none
    | none => none
  | _ => none

/-- A reply whose id the adapter hands on: a 2xx it knows, a status it knows, and an id
that makes a handle. -/
def TransportOutcome.stands : TransportOutcome → Bool
  | .response reply => reply.statusCode ∈ [200, 201, 202] && match decodePayload reply with
    | some payload => (match Payload.get payload "status" with
        | .str status => status ∈ ["queued", "in_progress", "completed"]
        | _ => false) && (match Payload.get payload "id" with
        | .str value => requireToken value 256
        | _ => false)
    | none => false
  | _ => false

namespace AdapterEnv
variable (a : AdapterEnv) (endpoint : String) (request : ProviderRequest)

/- What comes back from a submission that is sent. -/
def reply : Option TransportOutcome :=
  (authHeaders a.exchange.apiKey).map fun headers =>
    a.exchange.transport (submitRequest endpoint request headers)

def responseId : Option String := (a.reply endpoint request).bind TransportOutcome.responseId

end AdapterEnv

section Replies
variable {endpoint : String} {a : AdapterEnv} {outcome : TransportOutcome} {o : ProviderObservation}

/-- A submission is answered with a failure, or RUNNING with the id it received. -/
theorem readSubmission_ok (h : readSubmission outcome = .ok o) :
    (∃ code, o = .failed code) ∨
      ∃ handle, o = .ongoing handle ∧ outcome.responseId = some handle.value := by
  cases outcome with
  | raised => cases h
  | transportError message =>
    cases h
    exact Or.inl ⟨_, rfl⟩
  | response reply =>
    simp only [readSubmission] at h
    split at h
    · cases h
      exact Or.inl ⟨_, rfl⟩
    cases hp : decodePayload reply with
    | none =>
      rw [hp] at h
      cases h
      exact Or.inl ⟨_, rfl⟩
    | some payload =>
      rw [hp] at h
      simp only at h
      split at h
      · cases h
        exact Or.inl ⟨_, rfl⟩
      · rename_i value hne hid
        cases hs : statusIn ["queued", "in_progress", "completed"] (Payload.get payload "status") with
        | error x =>
          rw [hs] at h
          cases h
        | ok known =>
          rw [hs] at h
          cases known with
          | false =>
            cases h
            exact Or.inl ⟨_, rfl⟩
          | true =>
            have hrun : runningHandle value = .ok o := h
            unfold runningHandle at hrun
            split at hrun
            · cases hrun
              refine Or.inr ⟨_, rfl, ?_⟩
              have hnonempty : value ≠ "" := fun he => hne (by rw [← he])
              simp only [TransportOutcome.responseId, hp, hid, hnonempty, if_false]
            · cases hrun
      · cases h
        exact Or.inl ⟨_, rfl⟩

/-- A reply that stands is answered RUNNING with its id. -/
theorem readSubmission_stands {id : String} (hid : outcome.responseId = some id)
    (hs : outcome.stands = true) :
    ∃ handle, readSubmission outcome = .ok (.ongoing handle) ∧ handle.value = id := by
  cases outcome with
  | raised => cases hid
  | transportError message => cases hid
  | response reply =>
    simp only [TransportOutcome.stands, Bool.and_eq_true, decide_eq_true_eq] at hs
    obtain ⟨hstatus, hbody⟩ := hs
    cases hp : decodePayload reply with
    | none => simp [hp] at hbody
    | some payload =>
      simp only [hp, Bool.and_eq_true] at hbody
      obtain ⟨hknown, htoken⟩ := hbody
      cases hv : Payload.get payload "id" with
      | str value =>
        simp only [TransportOutcome.responseId, hp, hv] at hid
        split at hid
        · cases hid
        · rename_i hnonempty
          cases hid
          rw [hv] at htoken
          refine ⟨⟨id, htoken⟩, ?_, rfl⟩
          have hin : statusIn ["queued", "in_progress", "completed"]
              (Payload.get payload "status") = .ok true := by
            cases hst : Payload.get payload "status" with
            | str status =>
              rw [hst] at hknown
              simp only [statusIn, hknown]
            | _ => simp [hst] at hknown
          simp only [readSubmission, hstatus, not_true_eq_false, if_false, hp, hv, hin]
          show runningHandle id = _
          unfold runningHandle
          rw [dif_pos htoken]
      | _ => simp [hv] at htoken

/- What the adapter's submissions answer, against the ids received. -/
theorem submit_handle {request : ProviderRequest} {handle : ProviderHandle}
    (h : submit endpoint a.exchange request = .ok o) (hh : o.remoteHandle = some handle) :
    o.kind = .running ∧ a.responseId endpoint request = some handle.value := by
  unfold submit at h
  cases hk : authHeaders a.exchange.apiKey with
  | none =>
    rw [hk] at h
    cases h
    cases hh
  | some headers =>
    rw [hk] at h
    obtain ⟨code, rfl⟩ | ⟨answered, rfl, hid⟩ := readSubmission_ok h
    · cases hh
    · cases hh
      refine ⟨rfl, ?_⟩
      simpa [AdapterEnv.responseId, AdapterEnv.reply, hk] using hid

theorem submit_stands {request : ProviderRequest} {id : String}
    (hid : a.responseId endpoint request = some id)
    (hs : (a.reply endpoint request).any TransportOutcome.stands = true) :
    ∃ handle, submit endpoint a.exchange request = .ok (.ongoing handle) ∧ handle.value = id := by
  unfold AdapterEnv.responseId AdapterEnv.reply at hid
  unfold AdapterEnv.reply at hs
  cases hk : authHeaders a.exchange.apiKey with
  | none => simp [hk] at hid
  | some headers =>
    simp only [hk, Option.map_some, Option.bind_some] at hid
    simp only [hk, Option.map_some, Option.any_some] at hs
    obtain ⟨handle, hread, hvalue⟩ := readSubmission_stands hid hs
    exact ⟨handle, by simpa [submit, hk] using hread, hvalue⟩

theorem ofAnswer_complete {handle : ProviderHandle} {answer : ResearchAnswer}
    (hk : (ProviderObservation.ofAnswer handle answer).kind = .complete) :
    (ProviderObservation.ofAnswer handle answer).remoteHandle = some handle := by
  unfold ProviderObservation.ofAnswer at hk ⊢
  split
  · rfl
  · rename_i error herr
    split at hk
    · rename_i hnone
      rw [herr] at hnone
      cases hnone
    · simp only at hk
      split at hk
      · cases hk
      · cases hk

theorem submit_kind {request : ProviderRequest} (h : submit endpoint a.exchange request = .ok o) :
    o.kind ≠ .complete := by
  unfold submit at h
  split at h
  · cases h
    exact nofun
  · obtain ⟨code, rfl⟩ | ⟨handle, rfl, -⟩ := readSubmission_ok h
    · exact nofun
    · exact nofun

theorem readPoll_complete {handle : ProviderHandle} (h : readPoll handle outcome = .ok o)
    (hk : o.kind = .complete) : o.remoteHandle = some handle := by
  cases outcome with
  | raised => cases h
  | transportError message =>
    cases h
    cases hk
  | response reply =>
    simp only [readPoll] at h
    split at h
    · cases h
      cases hk
    cases hp : decodePayload reply with
    | none =>
      rw [hp] at h
      cases h
      cases hk
    | some payload =>
      rw [hp] at h
      simp only at h
      cases hs : statusIn ["queued", "in_progress"] (Payload.get payload "status") with
      | error x =>
        rw [hs] at h
        cases h
      | ok known =>
        rw [hs] at h
        cases known with
        | true =>
          cases h
          cases hk
        | false =>
          simp only [bind, Except.bind, Bool.false_eq_true, if_false] at h
          split at h
          · cases h
            cases hk
          · cases h
            cases hk
          · cases h
            unfold readCompleted at hk ⊢
            split
            · rename_i hparse
              rw [hparse] at hk
              cases hk
            · rename_i answer hparse
              rw [hparse] at hk
              exact ofAnswer_complete hk
          · cases h
            cases hk

theorem poll_complete {handle : ProviderHandle} (h : poll endpoint a.exchange handle = .ok o)
    (hk : o.kind = .complete) : o.remoteHandle = some handle := by
  unfold poll at h
  split at h
  · cases h
    cases hk
  · exact readPoll_complete h hk

end Replies

/- The tables, and every response id received so far with the operation it answered. -/
abbrev Watched := ResearchState × List (String × String)

def receipts (endpoint : String) (a : AdapterEnv) (e : Effect) (_ : ResearchState)
    (log : List (String × String)) : List (String × String) :=
  match e with
  | .submit request => match a.responseId endpoint request with
    | some id => log ++ [(request.operationId, id)]
    | none => log
  | _ => log

def ResearchRuntime.systemOver (rt : ResearchRuntime) (endpoint : String)
    (permits : Memory → AdapterEnv → Effect → Watched → Prop) :
    System Call AdapterEnv Effect Effect.Result Failure Watched Memory CallResult :=
  ((rt.system always false).withMay rt.mayOver).recording (fun a e => a.answering endpoint e)
    (receipts endpoint) permits

/-- A reply that names a response stands, and finds its request open; the save that then
stores the handle commits; until it has, nobody else saves the request, and afterwards
nobody saves it from a read older than the handle. -/
def keepsResponses (endpoint : String) (g : Memory) (a : AdapterEnv) (e : Effect) (s : Watched) :
    Prop :=
  match e with
  | .submit request => a.responseId endpoint request ≠ none →
    (a.reply endpoint request).any TransportOutcome.stands = true ∧
      s.1.terminalRequest request.operationId = false
  | .save row => (g.answeredHandle ≠ none → a.env.fault = false ∧
      (s.1.request? row.operationId).any
        (fun stored => (stored.overwrite row).updateAccepted) = true) ∧
    ∀ stored ∈ s.1.request? row.operationId,
      (stored.handle = none → row.operationId ∈ s.2.map Prod.fst →
        g.claimed = some row.operationId) ∧
      (stored.handle ≠ none → (g.seen row.operationId).bind (·.handle) = stored.handle)
  | _ => True

instance (endpoint : String) (g : Memory) (a : AdapterEnv) (e : Effect) (s : Watched) :
    Decidable (keepsResponses endpoint g a e s) := by
  delta keepsResponses
  apply @Effect.casesOn _ e <;> intros <;> infer_instance

/- Terminal with a handle, its cleanup is due or has been tried. -/
def ResearchRequestRow.retained (row : ResearchRequestRow) : Prop :=
  row.terminal = true → row.handle ≠ none → row.record.cleanupState ≠ .notRequired

theorem saveAllowed_retained {rt : ResearchRuntime} {g : Memory} {basis row : ResearchRequestRow}
    (h : rt.SaveAllowed g basis row) (hb : basis.retained) : row.retained := by
  intro ht hh
  cases h with
  | running o nowMs hw hs ho hk => cases ht
  | touched nowMs hw hs => exact hb ht hh
  | validating handle answer nowMs hw hs hc he => cases ht
  | finished state code accounting nowMs hterm hc =>
    have hsome : basis.record.remoteHandle.isSome = true := Option.isSome_iff_ne_none.mpr hh
    simp [ResearchRequestRow.finished, hsome]
  | cancelMarked nowMs ho hg hopen hc => cases ht
  | confirmed confirmedAtMs updatedAtMs hg ho hs hc => exact hb ht hh
  | cleaned cleanup nowMs hg hterm hk => exact hk

structure Kept (s : Watched) : Prop where
  waiting : ∀ op id, (op, id) ∈ s.2 → op ∈ s.1.submitted ∧ ∃ stored, s.1.request? op = some stored ∧
    ((∃ handle, stored.handle = some handle ∧ handle.value = id) ∨
      (stored.handle = none ∧ stored.terminal = false))
  unique : ∀ op id id', (op, id) ∈ s.2 → (op, id') ∈ s.2 → id = id'
  received : ∀ op stored handle, s.1.request? op = some stored → stored.handle = some handle →
    (op, handle.value) ∈ s.2
  retained : ∀ op stored, s.1.request? op = some stored → stored.retained

structure Informed (g : Memory) (s : Watched) : Prop where
  mine : ∀ op id, g.claimed = some op → (op, id) ∈ s.2 →
    ∃ handle, g.answeredHandle = some handle ∧ handle.value = id
  reported : ∀ op handle, g.claimed = some op → g.answeredHandle = some handle →
    (op, handle.value) ∈ s.2
  sentFirst : g.observed ≠ none → g.sent = true
  seen : ∀ op row handle, g.seen op = some row → row.handle = some handle →
    ∃ stored, s.1.request? op = some stored ∧ stored.handle = some handle
  retained : ∀ op row, g.seen op = some row → row.retained

theorem ProviderHandle.ext_value {h h' : ProviderHandle} (he : h.value = h'.value) : h = h' := by
  cases h
  cases h'
  cases he
  rfl

section Steps
variable {rt : ResearchRuntime} {endpoint : String} {g : Memory} {a : AdapterEnv} {e : Effect}
  {s : Watched}

theorem admitAllowed_fresh {row : ResearchRequestRow} {reservation : BudgetReservation}
    (h : rt.AdmitAllowed g row reservation) : row.handle = none ∧ row.terminal = false := by
  have hrecord := h.record_eq
  rw [h.row_eq]
  unfold admissionRecord? at hrecord
  split at hrecord
  · rw [← Option.some.inj hrecord]
    exact ⟨rfl, rfl⟩
  · cases hrecord

theorem mem_receipts {op id : String} (h : (op, id) ∈ receipts endpoint a e s.1 s.2) :
    (op, id) ∈ s.2 ∨ ∃ request, e = .submit request ∧ op = request.operationId ∧
      a.responseId endpoint request = some id := by
  unfold receipts at h
  split at h
  · rename_i request
    split at h
    · rename_i received hid
      obtain hold | hnew := List.mem_append.mp h
      · exact Or.inl hold
      · cases List.mem_singleton.mp hnew
        exact Or.inr ⟨request, rfl, rfl, hid⟩
    · exact Or.inl h
  · exact Or.inl h

theorem receipts_mono {entry : String × String} (h : entry ∈ s.2) :
    entry ∈ receipts endpoint a e s.1 s.2 := by
  unfold receipts
  split
  · split
    · exact List.mem_append_left _ h
    · exact h
  · exact h

structure SavedHandle (s : Watched) (stored row : ResearchRequestRow) : Prop where
  kept : ∀ handle, stored.handle = some handle → row.handle = some handle
  given : ∀ id, stored.handle = none → (row.operationId, id) ∈ s.2 →
    ∃ handle, row.handle = some handle ∧ handle.value = id
  received : ∀ handle, row.handle = some handle → (row.operationId, handle.value) ∈ s.2

/-- What a permitted save does to the stored handle: it keeps it, or stores the one that
was received. -/
theorem saved_handle {row stored : ResearchRequestRow} (hm : rt.mayOver g (.save row))
    (hp : keepsResponses endpoint g a (.save row) s) (hk : Kept s) (hi : Informed g s)
    (hst : s.1.request? row.operationId = some stored) : SavedHandle s stored row := by
  obtain ⟨hclaimed, basis, hseen, hhandle⟩ := hm.2
  have hlater := hp.2 stored hst
  have hreported : ∀ handle, g.answeredHandle = some handle →
      (row.operationId, handle.value) ∈ s.2 := by
    intro handle ha
    have hobserved : g.observed ≠ none := by
      intro hnone
      simp [Memory.answeredHandle, hnone] at ha
    exact hi.reported _ handle (hclaimed hobserved) ha
  have hbasis : ∀ handle, basis.handle = some handle → stored.handle = some handle := by
    intro handle hb
    obtain ⟨stored', hst', hh⟩ := hi.seen _ basis handle hseen hb
    cases hst.symm.trans hst'
    exact hh
  refine ⟨fun handle hh => ?_, fun id hnone hin => ?_, fun handle hh => ?_⟩
  · have hb : basis.handle = some handle := by simpa [hseen, hh] using hlater.2
    cases ha : g.answeredHandle with
    | none => rw [hhandle, ha, hb]; rfl
    | some answered =>
      have hsame := hk.unique _ _ _ (hreported answered ha) (hk.received _ stored handle hst hh)
      rw [hhandle, ha, ProviderHandle.ext_value hsame]
      rfl
  · have hmine := hlater.1 hnone (List.mem_map_of_mem hin)
    obtain ⟨answered, ha, hvalue⟩ := hi.mine _ id hmine hin
    exact ⟨answered, by rw [hhandle, ha]; rfl, hvalue⟩
  · rw [hhandle] at hh
    cases ha : g.answeredHandle with
    | some answered =>
      rw [ha] at hh
      cases hh
      exact hreported _ ha
    | none =>
      rw [ha] at hh
      exact hk.received _ stored handle hst (hbasis handle hh)

/-- A stored handle stays, whoever makes the next call. -/
theorem handle_stays (hm : rt.mayOver g e) (hp : keepsResponses endpoint g a e s) (hk : Kept s)
    (hi : Informed g s) {op : String} {stored : ResearchRequestRow} {handle : ProviderHandle}
    (hst : s.1.request? op = some stored) (hh : stored.handle = some handle) :
    ∃ stored', (rt.exec (a.answering endpoint e) e s.1).2.request? op = some stored' ∧
      stored'.handle = some handle := by
  obtain h | ⟨row, rfl, rfl, h⟩ | ⟨nowMs, rfl, -, h⟩ | ⟨c, recordId, nowMs, rfl, -, -, h⟩ :=
    answered_request (exec_answered rt (a.answering endpoint e) e s.1) hst
  · exact ⟨stored, h, hh⟩
  · exact ⟨_, h, (saved_handle hm hp hk hi hst).kept handle hh⟩
  · exact ⟨_, h, hh⟩
  · exact ⟨_, h, hh⟩

theorem kept_step (hm : rt.mayOver g e) (hp : keepsResponses endpoint g a e s) (hk : Kept s)
    (hi : Informed g s) (hc : Coherent g s.1) (he : Entitled g s.1) :
    Kept ((rt.exec (a.answering endpoint e) e s.1).2, receipts endpoint a e s.1 s.2) := by
  have hans := exec_answered rt (a.answering endpoint e) e s.1
  have hsubmitted := (exec_logs rt (a.answering endpoint e) e s.1).1
  -- an id received now answers an operation that was never sent before
  have hnew : ∀ request, e = .submit request → ∀ id, (request.operationId, id) ∉ s.2 := by
    rintro request rfl id hin
    exact he.unsent _ hm.1.2.1 hm.1.2.2 (hk.waiting _ id hin).1
  refine ⟨fun op id hin => ?_, fun op id id' hin hin' => ?_, fun op row handle hrow hh => ?_,
    fun op row hrow => ?_⟩
  · obtain hold | ⟨request, rfl, rfl, hid⟩ := mem_receipts (s := s) hin
    · obtain ⟨hsub, stored, hst, hcase⟩ := hk.waiting op id hold
      refine ⟨by rw [hsubmitted]; exact List.mem_append_left _ hsub, ?_⟩
      obtain ⟨handle, hh, hvalue⟩ | ⟨hnone, hopen⟩ := hcase
      · obtain ⟨stored', hst', hh'⟩ := handle_stays hm hp hk hi hst hh
        exact ⟨stored', hst', Or.inl ⟨handle, hh', hvalue⟩⟩
      · obtain h | ⟨row, rfl, rfl, h⟩ | ⟨nowMs, rfl, -, h⟩ | ⟨c, recordId, nowMs, rfl, -, -, h⟩ :=
          answered_request hans hst
        · exact ⟨stored, h, Or.inr ⟨hnone, hopen⟩⟩
        · exact ⟨_, h, Or.inl ((saved_handle hm hp hk hi hst).given id hnone hold)⟩
        · exact ⟨_, h, Or.inr ⟨hnone, rfl⟩⟩
        · exact ⟨_, h, Or.inr ⟨hnone, hopen⟩⟩
    · -- the reply arrives: its request is open, and its handle is not stored yet
      have hclaimed := hm.1.2.1
      obtain ⟨stored, hst, -⟩ := hc.claimed _ hclaimed
      have hopen : stored.terminal = false := by
        have hterm := (hp (by rw [hid]; exact Option.some_ne_none id)).2
        rwa [terminalRequest_eq hst] at hterm
      have hnone : stored.handle = none := by
        cases hh : stored.handle with
        | none => rfl
        | some handle => exact absurd (hk.received _ stored handle hst hh) (hnew request rfl _)
      refine ⟨?_, stored, ?_, Or.inr ⟨hnone, hopen⟩⟩
      · rw [hsubmitted]
        exact List.mem_append_right _ List.mem_cons_self
      · exact hst
  · obtain hold | ⟨request, rfl, rfl, hid⟩ := mem_receipts (s := s) hin
    · obtain hold' | ⟨request, rfl, rfl, -⟩ := mem_receipts (s := s) (a := a) (e := e) hin'
      · exact hk.unique op id id' hold hold'
      · exact absurd hold (hnew request rfl id)
    · obtain hold' | ⟨request', hsame, -, hid'⟩ := mem_receipts (s := s) (a := a) (e := .submit request) hin'
      · exact absurd hold' (hnew request rfl id')
      · cases hsame
        exact Option.some.inj (hid.symm.trans hid')
  · refine receipts_mono ?_
    cases hst : s.1.request? op with
    | none =>
      obtain ⟨admitted, reservation, rfl, rfl, rfl, -⟩ := answered_new hans hst hrow
      obtain ⟨hrequest⟩ := hm.1
      have hnone : admitted.handle = none := (admitAllowed_fresh hrequest).1
      exact absurd (hnone.symm.trans hh) (by simp)
    | some stored =>
      obtain h | ⟨saved, rfl, rfl, h⟩ | ⟨nowMs, rfl, -, h⟩ | ⟨c, recordId, nowMs, rfl, -, -, h⟩ :=
        answered_request hans hst
      · cases h.symm.trans hrow
        exact hk.received op row handle hst hh
      · cases h.symm.trans hrow
        exact (saved_handle hm hp hk hi hst).received handle hh
      · cases h.symm.trans hrow
        exact hk.received _ stored handle hst hh
      · cases h.symm.trans hrow
        exact hk.received _ stored handle hst hh
  · cases hst : s.1.request? op with
    | none =>
      obtain ⟨admitted, reservation, rfl, rfl, rfl, -⟩ := answered_new hans hst hrow
      obtain ⟨hrequest⟩ := hm.1
      have hopen : admitted.terminal = false := (admitAllowed_fresh hrequest).2
      intro hterm
      exact absurd (hopen.symm.trans hterm) (by simp)
    | some stored =>
      obtain h | ⟨saved, rfl, rfl, h⟩ | ⟨nowMs, rfl, -, h⟩ | ⟨c, recordId, nowMs, rfl, -, -, h⟩ :=
        answered_request hans hst
      · cases h.symm.trans hrow
        exact hk.retained op row hst
      · cases h.symm.trans hrow
        obtain ⟨basis, hseen, hsave⟩ := hm.1
        show saved.retained
        exact saveAllowed_retained hsave (hi.retained _ basis hseen)
      · cases h.symm.trans hrow
        intro hterm
        cases hterm
      · cases h.symm.trans hrow
        exact hk.retained _ stored hst

theorem exec_submit_ok {request : ProviderRequest} {o : ProviderObservation}
    (h : submit endpoint a.exchange request = .ok o) :
    (rt.exec (a.answering endpoint (.submit request)) (.submit request) s.1).1 = .ok o := by
  simp [ResearchRuntime.exec, AdapterEnv.answering, h, Env.observing, Env.answer]

theorem exec_submit_answer {request : ProviderRequest} {o : ProviderObservation}
    (h : (rt.exec (a.answering endpoint (.submit request)) (.submit request) s.1).1 = .ok o) :
    submit endpoint a.exchange request = .ok o := by
  cases hs : submit endpoint a.exchange request with
  | error x => simp [ResearchRuntime.exec, AdapterEnv.answering, hs, Env.observing, Env.answer] at h
  | ok answered =>
    rw [exec_submit_ok hs] at h
    cases h
    rfl

theorem note_observed (g : Memory) (s : ResearchState) (e : Effect) (r : Except Failure e.Result) :
    ((g.note s e r).observed = g.observed ∧ (g.note s e r).sent = g.sent) ∨
      ∃ request, e = .submit request ∧ (g.note s e r).sent = true := by
  cases e with
  | submit request => cases r <;> exact Or.inr ⟨request, rfl, rfl⟩
  | _ =>
    refine Or.inl ?_
    unfold Memory.note
    split <;> first | exact ⟨rfl, rfl⟩ | contradiction

theorem answeredHandle_congr {g g' : Memory} (h : g'.observed = g.observed) :
    g'.answeredHandle = g.answeredHandle := by simp only [Memory.answeredHandle, h]

/-- What the caller's own submission leaves it knowing. -/
theorem informed_submitted {request : ProviderRequest} (hm : rt.mayOver g (.submit request))
    (hp : keepsResponses endpoint g a (.submit request) s) (hk : Kept s) (hi : Informed g s)
    (he : Entitled g s.1) :
    (∀ op id, g.claimed = some op → (op, id) ∈ receipts endpoint a (.submit request) s.1 s.2 →
      ∃ handle, (g.note s.1 (.submit request)
        (rt.exec (a.answering endpoint (.submit request)) (.submit request) s.1).1).answeredHandle =
          some handle ∧ handle.value = id) ∧
    ∀ op handle, g.claimed = some op → (g.note s.1 (.submit request)
        (rt.exec (a.answering endpoint (.submit request)) (.submit request) s.1).1).answeredHandle =
          some handle → (op, handle.value) ∈ receipts endpoint a (.submit request) s.1 s.2 := by
  obtain ⟨-, hclaimed, hsent⟩ := hm.1
  have hunobserved : g.observed = none := by
    by_contra hsome
    rw [hi.sentFirst hsome] at hsent
    cases hsent
  refine ⟨fun op id hc hin => ?_, fun op handle hc ha => ?_⟩
  · obtain hold | ⟨request', hsame, -, hid⟩ := mem_receipts (s := s) hin
    · cases hclaimed.symm.trans hc
      exact absurd (hk.waiting _ id hold).1 (he.unsent _ hclaimed hsent)
    · cases hsame
      obtain ⟨handle, hanswer, hvalue⟩ := submit_stands hid (hp (by rw [hid]; simp)).1
      refine ⟨handle, ?_, hvalue⟩
      rw [exec_submit_ok hanswer]
      rfl
  · cases hc.symm.trans hclaimed
    cases hr : (rt.exec (a.answering endpoint (.submit request)) (.submit request) s.1).1 with
    | error x =>
      rw [hr] at ha
      simp [Memory.note, Memory.answeredHandle, hunobserved] at ha
    | ok o =>
      rw [hr] at ha
      obtain ⟨-, hid⟩ := submit_handle (exec_submit_answer hr) (show o.remoteHandle = some handle from ha)
      simp only [receipts, hid]
      exact List.mem_append_right _ List.mem_cons_self

theorem informed_own (hm : rt.mayOver g e) (hp : keepsResponses endpoint g a e s) (hk : Kept s)
    (hk' : Kept ((rt.exec (a.answering endpoint e) e s.1).2, receipts endpoint a e s.1 s.2))
    (hi : Informed g s) (hs : Sent s.1) (he : Entitled g s.1) :
    Informed (g.note s.1 e (rt.exec (a.answering endpoint e) e s.1).1)
      ((rt.exec (a.answering endpoint e) e s.1).2, receipts endpoint a e s.1 s.2) := by
  have hans := exec_answered rt (a.answering endpoint e) e s.1
  have hknown : (∀ op id,
      (g.note s.1 e (rt.exec (a.answering endpoint e) e s.1).1).claimed = some op →
      (op, id) ∈ receipts endpoint a e s.1 s.2 → ∃ handle,
        (g.note s.1 e (rt.exec (a.answering endpoint e) e s.1).1).answeredHandle = some handle ∧
          handle.value = id) ∧
      ∀ op handle, (g.note s.1 e (rt.exec (a.answering endpoint e) e s.1).1).claimed = some op →
        (g.note s.1 e (rt.exec (a.answering endpoint e) e s.1).1).answeredHandle = some handle →
        (op, handle.value) ∈ receipts endpoint a e s.1 s.2 := by
    obtain hclaimed | ⟨op', stored, nowMs, rfl, hst, hadm, -, hnew⟩ := note_claimed (g := g) hans
    · rw [hclaimed]
      obtain ⟨hobserved, -⟩ | ⟨request, rfl, -⟩ := note_observed g s.1 e
        (rt.exec (a.answering endpoint e) e s.1).1
      · rw [answeredHandle_congr hobserved]
        refine ⟨fun op id hc hin => ?_, fun op handle hc ha => receipts_mono (hi.reported op handle hc ha)⟩
        obtain hold | ⟨request, rfl, -, hid⟩ := mem_receipts (s := s) hin
        · exact hi.mine op id hc hold
        · obtain ⟨hmine, -⟩ := informed_submitted hm hp hk hi he
          rw [← answeredHandle_congr hobserved]
          exact hmine op id hc hin
      · exact informed_submitted hm hp hk hi he
    · -- a claim is of a request that was never sent, by a caller that has sent nothing
      have hsent : g.sent = false := hm.1.2.2.2.2.1
      have hunobserved : g.observed = none := by
        by_contra hsome
        rw [hi.sentFirst hsome] at hsent
        cases hsent
      refine ⟨fun op id hc hin => ?_, fun op handle hc ha => ?_⟩
      · cases hnew.symm.trans hc
        obtain ⟨found, hfound, hnot⟩ := hs.claimed _ (hk.waiting _ id hin).1
        cases hst.symm.trans hfound
        exact absurd hadm hnot
      · obtain ⟨hobserved, -⟩ | ⟨request, hsame, -⟩ := note_observed g s.1 (.claimSubmission op')
          (rt.exec (a.answering endpoint (.claimSubmission op')) (.claimSubmission op') s.1).1
        · rw [answeredHandle_congr hobserved] at ha
          simp [Memory.answeredHandle, hunobserved] at ha
        · cases hsame
  refine ⟨hknown.1, hknown.2, fun ho => ?_, fun op row handle hseen hh => ?_, fun op row hseen => ?_⟩
  · obtain ⟨hobserved, hsent⟩ | ⟨request, -, htrue⟩ := note_observed g s.1 e
      (rt.exec (a.answering endpoint e) e s.1).1
    · rw [hsent]
      exact hi.sentFirst (hobserved ▸ ho)
    · exact htrue
  · obtain hold | ⟨-, hread⟩ | ⟨rfl, rfl, stored, hst, hst'⟩ := note_seen hans hseen
    · obtain ⟨stored, hst, hsame⟩ := hi.seen op row handle hold hh
      exact handle_stays hm hp hk hi hst hsame
    · exact ⟨row, hread, hh⟩
    · exact ⟨_, hst', hh⟩
  · obtain hold | ⟨-, hread⟩ | ⟨rfl, rfl, stored, hst, hst'⟩ := note_seen hans hseen
    · exact hi.retained op row hold
    · exact hk'.retained op row hread
    · obtain ⟨basis, hbasis, hsave⟩ := hm.1
      exact saveAllowed_retained hsave (hi.retained _ basis hbasis)

theorem informed_other {g' : Memory} (hm : rt.mayOver g e) (hp : keepsResponses endpoint g a e s)
    (hk : Kept s) (hi : Informed g s) (hi' : Informed g' s) (hrival : g.rivals g') :
    Informed g' ((rt.exec (a.answering endpoint e) e s.1).2, receipts endpoint a e s.1 s.2) := by
  refine ⟨fun op id hc hin => ?_, fun op handle hc ha => receipts_mono (hi'.reported op handle hc ha),
    hi'.sentFirst, fun op row handle hseen hh => ?_, hi'.retained⟩
  · obtain hold | ⟨request, rfl, rfl, -⟩ := mem_receipts (s := s) hin
    · exact hi'.mine op id hc hold
    · exact absurd hc (hrival _ hm.1.2.1)
  · obtain ⟨stored, hst, hsame⟩ := hi'.seen op row handle hseen hh
    exact handle_stays hm hp hk hi hst hsame

end Steps

/-- Every id received so far is stored. -/
def Stored (s : Watched) : Prop :=
  ∀ op id, (op, id) ∈ s.2 → ∃ stored handle, s.1.request? op = some stored ∧
    stored.handle = some handle

abbrev WatchedWorld := World Effect Effect.Result Failure Watched Memory CallResult

/- One step of a run; the process dies only where nothing that was received is still
   to be stored. -/
def ResearchRuntime.stepOver (rt : ResearchRuntime) (endpoint : String)
    (permits : Memory → AdapterEnv → Effect → Watched → Prop) (mayDie : Watched → Prop)
    (w w' : WatchedWorld) : Prop :=
  Step (rt.systemOver endpoint permits) w w' ∨ (mayDie w.state ∧ w' = ⟨w.state, []⟩)

def ResearchRuntime.reachableOver (rt : ResearchRuntime) (endpoint : String)
    (permits : Memory → AdapterEnv → Effect → Watched → Prop) (mayDie : Watched → Prop)
    (w : WatchedWorld) : Prop :=
  Relation.ReflTransGen (rt.stepOver endpoint permits mayDie) ⟨(.empty, []), []⟩ w

section Runs
variable (rt : ResearchRuntime) (endpoint : String)

theorem responses_interference : Interference (rt.systemOver endpoint (keepsResponses endpoint))
    (fun s => (Consistent s.1 ∧ Sent s.1) ∧ Kept s)
    (fun g s => (Coherent g s.1 ∧ Entitled g s.1) ∧ Informed g s) Memory.rivals := by
  have hbase : Interference (rt.systemOver endpoint (keepsResponses endpoint))
      (fun s => Consistent s.1 ∧ Sent s.1) (fun g s => Coherent g s.1 ∧ Entitled g s.1)
      Memory.rivals :=
    ((submission_interference rt always false).withMay fun _ _ h => h.1).recording
  refine hbase.and (fun c s _ _ => ?_) (fun g a e s _ hT hk hi hm hp => ?_)
    (fun g a e s hI hT hk hi hm hp => ?_) (fun g g' a e s _ _ _ hk hi hi' hr hm hp => ?_)
  · exact
      { mine := fun _ _ h => nomatch h
        reported := fun _ _ h => nomatch h
        sentFirst := fun h => absurd rfl h
        seen := fun _ _ _ h => nomatch h
        retained := fun _ _ h => nomatch h }
  · exact kept_step hm hp.2 hk hi hT.1 hT.2
  · exact informed_own hm hp.2 hk (kept_step hm hp.2 hk hi hT.1 hT.2) hi hI.2 hT.2
  · exact informed_other hm hp.2 hk hi hi' hr

/- The adapter's answers are what the methods were read against. -/
theorem answering_overAdapter {g : Memory} {a : AdapterEnv} {e : Effect} {s : Watched}
    (hp : keepsResponses endpoint g a e s) : overAdapter g (a.answering endpoint e) e s.1 := by
  cases e with
  | submit request =>
    intro hf
    cases hs : submit endpoint a.exchange request with
    | error x => simp [AdapterEnv.answering, hs, Env.observing] at hf
    | ok o =>
      have hsame : (a.answering endpoint (.submit request)).observation = o := by
        simp [AdapterEnv.answering, hs, Env.observing]
      rw [hsame]
      exact ⟨submit_kind hs, fun hh => by
        obtain ⟨handle, hh⟩ := Option.ne_none_iff_exists'.mp hh
        exact (submit_handle hs hh).1⟩
  | poll handle =>
    intro hf hk
    cases hs : poll endpoint a.exchange handle with
    | error x => simp [AdapterEnv.answering, hs, Env.observing] at hf
    | ok o =>
      have hsame : (a.answering endpoint (.poll handle)).observation = o := by
        simp [AdapterEnv.answering, hs, Env.observing]
      rw [hsame] at hk ⊢
      exact poll_complete hs hk
  | save row => exact hp.1
  | _ => trivial

theorem responses_obedient :
    Obedient (rt.systemOver endpoint (keepsResponses endpoint)) fun g _ => g.delivered := by
  intro c
  have hwalk : Obeys { ((rt.system always false).withMay rt.mayOver).toProtocol with
      permits := overAdapter } (fun g _ => g.delivered) (rt.program c) { call := c } :=
    program_obeys_over rt c
  exact Obeys.recording (fun g a e s hp => answering_overAdapter endpoint hp) hwalk

/- Every id received is stored, or the call that received it is still there. -/
def Delivering (w : WatchedWorld) : Prop :=
  ∀ op id, (op, id) ∈ w.state.2 → (∃ stored handle, w.state.1.request? op = some stored ∧
    stored.handle = some handle) ∨ ∃ t ∈ w.threads, t.memory.claimed = some op

abbrev Watching (w : WatchedWorld) : Prop :=
  Sound (rt.systemOver endpoint (keepsResponses endpoint)) (fun g _ => g.delivered)
    (fun s => (Consistent s.1 ∧ Sent s.1) ∧ Kept s)
    (fun g s => (Coherent g s.1 ∧ Entitled g s.1) ∧ Informed g s) Memory.rivals w

variable {rt endpoint} {w w' : WatchedWorld}

theorem delivering_step (hw : Watching rt endpoint w) (ha : Delivering w)
    (h : Step (rt.systemOver endpoint (keepsResponses endpoint)) w w') : Delivering w' := by
  cases h with
  | start c hs =>
    intro op id hin
    obtain hstored | ⟨t, ht, hc⟩ := ha op id hin
    · exact Or.inl hstored
    · exact Or.inr ⟨t, List.mem_append_left _ ht, hc⟩
  | crash hc => cases hc
  | call n a g e next hn hp =>
    obtain ⟨hI, hk⟩ := hw.state
    obtain ⟨⟨⟨hcoh, hent⟩, hi⟩, hO⟩ := hw.threads _ (List.mem_of_getElem? hn)
    have hlen : n < w.threads.length := (List.getElem?_eq_some_iff.mp hn).1
    -- the caller keeps the claim it holds
    have hkeep : ∀ op, g.claimed = some op →
        (g.note w.state.1 e (rt.exec (a.answering endpoint e) e w.state.1).1).claimed = some op := by
      intro op hc
      obtain hsame | ⟨op', stored, nowMs, rfl, -⟩ :=
        note_claimed (g := g) (exec_answered rt (a.answering endpoint e) e w.state.1)
      · rw [hsame]
        exact hc
      · have hnone : g.claimed = none := hO.1.1.2.2.2.1
        rw [hnone] at hc
        cases hc
    intro op id hin
    obtain hold | ⟨request, rfl, rfl, -⟩ := mem_receipts (s := w.state) hin
    · obtain ⟨stored, handle, hst, hh⟩ | ⟨t, ht, hc⟩ := ha op id hold
      · obtain ⟨stored', hst', hh'⟩ := handle_stays hO.1 hp.2 hk hi hst hh
        exact Or.inl ⟨stored', handle, hst', hh'⟩
      · right
        obtain ⟨m, hm⟩ := List.mem_iff_getElem?.mp ht
        by_cases hnm : n = m
        · subst hnm
          cases hn.symm.trans hm
          exact ⟨_, List.mem_set hlen _, hkeep op hc⟩
        · refine ⟨t, List.mem_of_getElem? (i := m) ?_, hc⟩
          rw [List.getElem?_set_ne hnm]
          exact hm
    · exact Or.inr ⟨_, List.mem_set hlen _, hkeep _ hO.1.1.2.1⟩

theorem reachable_watching (h : rt.reachableOver endpoint (keepsResponses endpoint) Stored w) :
    Watching rt endpoint w ∧ Delivering w := by
  induction h with
  | refl =>
    refine ⟨Sound.init ⟨⟨consistent_empty, sent_empty⟩, ?_⟩, fun _ _ h => nomatch h⟩
    exact
      { waiting := fun _ _ h => nomatch h
        unique := fun _ _ _ h => nomatch h
        received := fun _ _ _ h => nomatch h
        retained := fun _ _ h => nomatch h }
  | tail _ hstep ih =>
    obtain ⟨hw, ha⟩ := ih
    obtain hstep | ⟨hstored, rfl⟩ := hstep
    · exact ⟨hw.step (responses_interference rt endpoint) (responses_obedient rt endpoint) hstep,
        delivering_step hw ha hstep⟩
    · exact ⟨Sound.init hw.state, fun op id hin => Or.inl (hstored op id hin)⟩

end Runs

/-- Where every named response stands and its save is neither lost nor overwritten, each
id received is the request's handle, and stays due for deletion once the request is
terminal; before that save, the call that received it is still under way. -/
theorem no_response_forgotten (rt : ResearchRuntime) (endpoint : String) {w : WatchedWorld}
    (h : rt.reachableOver endpoint (keepsResponses endpoint) Stored w) {op id : String}
    (hin : (op, id) ∈ w.state.2) : ∃ row, w.state.1.request? op = some row ∧
      ((∃ handle, row.handle = some handle ∧ handle.value = id ∧
          (row.terminal = true → row.record.cleanupState ≠ .notRequired)) ∨
        (row.handle = none ∧ row.terminal = false ∧
          ∃ t ∈ w.threads, t.memory.claimed = some op ∧ t.program.settled = false)) := by
  obtain ⟨hw, ha⟩ := reachable_watching h
  obtain ⟨-, hk⟩ := hw.state
  obtain ⟨-, row, hrow, ⟨handle, hh, hvalue⟩ | ⟨hnone, hopen⟩⟩ := hk.waiting op id hin
  · refine ⟨row, hrow, Or.inl ⟨handle, hh, hvalue, fun ht => hk.retained op row hrow ht ?_⟩⟩
    rw [hh]
    exact Option.some_ne_none handle
  · refine ⟨row, hrow, Or.inr ⟨hnone, hopen, ?_⟩⟩
    obtain ⟨stored, handle, hst, hh⟩ | ⟨t, ht, hc⟩ := ha op id hin
    · cases hrow.symm.trans hst
      rw [hnone] at hh
      cases hh
    · refine ⟨t, ht, hc, ?_⟩
      obtain ⟨⟨-, hi⟩, hO⟩ := hw.threads t ht
      obtain ⟨handle, hanswered, -⟩ := hi.mine op id hc hin
      -- had it ended, it would have delivered the handle
      have hended : ¬ t.memory.delivered := by
        intro hdone
        obtain ⟨seen, hseen, hsame⟩ := Option.bind_eq_some_iff.mp (hdone op handle hc hanswered)
        obtain ⟨stored, hst, hstored⟩ := hi.seen op seen handle hseen hsame
        cases hrow.symm.trans hst
        rw [hnone] at hstored
        cases hstored
      cases hp : t.program with
      | done value =>
        rw [hp] at hO
        exact absurd hO hended
      | fail x =>
        rw [hp] at hO
        exact absurd hO hended
      | call e next => rfl

/-! ## Two submissions -/
section Samples
open Sample

/- What a scripted run of the watched coordinator leaves. -/
def ResearchRuntime.watch (rt : ResearchRuntime)
    (permits : Memory → AdapterEnv → Effect → Watched → Prop)
    (script : List (Move Call AdapterEnv)) : WatchedWorld :=
  script.foldl (World.move (rt.systemOver "https://api" permits)) ⟨(.empty, []), []⟩

theorem ResearchRuntime.watch_reachable (rt : ResearchRuntime)
    {permits : Memory → AdapterEnv → Effect → Watched → Prop} {mayDie : Watched → Prop}
    {script : List (Move Call AdapterEnv)}
    (h : World.Allowed (rt.systemOver "https://api" permits) script ⟨(.empty, []), []⟩) :
    rt.reachableOver "https://api" permits mayDie (rt.watch permits script) :=
  Relation.ReflTransGen.mono (fun _ _ hstep => Or.inl hstep) _ _ (World.moves_reach script _ h)

/- op-1 is admitted, and its submission answered with this status. -/
def answeredWith (status : String) : List (Move Call AdapterEnv) :=
  let a : AdapterEnv := ⟨env, ⟨some "key", fun _ =>
    .response ⟨200, some (.obj [("id", .str "resp_1"), ("status", .str status)])⟩⟩⟩
  .start .recover :: .call 0 a :: .start (.admitResearch "ana" "c1" .search "why" "1") ::
    List.replicate 7 (.call 1 a) ++ .start .submitPending :: List.replicate 9 (.call 2 a)

instance (rt : ResearchRuntime) (endpoint : String) (g : Memory) (a : AdapterEnv) (e : Effect)
    (s : Watched) :
    Decidable ((rt.systemOver endpoint (keepsResponses endpoint)).permits g a e s) :=
  inferInstanceAs (Decidable (True ∧ keepsResponses endpoint g a e s))

theorem queued_response_kept : ∃ row,
    (runtime.watch (keepsResponses "https://api") (answeredWith "queued")).state.1.request? "op-1" =
      some row ∧
    ((∃ handle, row.handle = some handle ∧ handle.value = "resp_1" ∧
        (row.terminal = true → row.record.cleanupState ≠ .notRequired)) ∨
      (row.handle = none ∧ row.terminal = false ∧ ∃ t ∈ (runtime.watch
        (keepsResponses "https://api") (answeredWith "queued")).threads,
          t.memory.claimed = some "op-1" ∧ t.program.settled = false)) := by
  refine no_response_forgotten runtime "https://api" (runtime.watch_reachable ?_) ?_
  · decide +kernel
  · decide +kernel

/-- A response that is already failed when it is created is never to be deleted. -/
theorem failed_response_forgotten : ∃ w : WatchedWorld,
    runtime.reachableOver "https://api" (fun _ _ _ _ => True) Stored w ∧
      w.state.2 = [("op-1", "resp_1")] ∧
      (w.state.1.request? "op-1").map (fun row => (row.state, row.handle, row.record.cleanupState)) =
        some (.failed, none, .notRequired) := by
  refine ⟨runtime.watch (fun _ _ _ _ => True) (answeredWith "failed"), ?_, ?_⟩
  · refine runtime.watch_reachable (World.allowed_of_forall (fun g a e s => ?_) _ _)
    exact ⟨trivial, trivial⟩
  · decide +kernel

end Samples
end FrameNest.Research
