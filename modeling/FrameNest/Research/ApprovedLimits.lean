import FrameNest.Research.Submittable

/-! The limits a request was admitted under beside the answer that is stored for it. Nothing
between the provider and the document compares the two. -/
namespace FrameNest.Research
open Concurrent ResearchRuntime

def Within (answer : ResearchAnswer) (limits : ApprovedResourceLimits) : Prop :=
  answer.text.utf8ByteSize ≤ limits.answerMaxUtf8Bytes ∧
    answer.citations.length ≤ limits.citationCountMax

instance (answer : ResearchAnswer) (limits : ApprovedResourceLimits) :
    Decidable (Within answer limits) := inferInstanceAs (Decidable (_ ∧ _))

/-- The provider keeps to the limits: what it answers to a submission or a poll stays within
the limits of the request the call is for. -/
def keepsLimits (g : Memory) (env : Env) (e : Effect) (_ : ResearchState) : Prop :=
  match e with
  | .submit request => ∀ a, env.observation.answer = some a → Within a request.resourceLimits
  | .poll handle => ∀ op row, g.seen op = some row → row.handle = some handle →
    ∀ a, env.observation.answer = some a → Within a row.record.resourceLimits
  | _ => True

/- A save keeps the limits of the row it starts from, and its checkpoint or one within them; a
   completion takes the answer of a checkpoint. -/
def mayWithin (g : Memory) : Effect → Prop
  | .admitRow row _ => row.checkpointJson = none
  | .save row => ∃ basis, g.seen row.operationId = some basis ∧
    row.record.resourceLimits = basis.record.resourceLimits ∧
    (row.checkpointJson = basis.checkpointJson ∨ ∃ a, row.checkpointJson = some (answerCheckpoint a) ∧
      Within a basis.record.resourceLimits)
  | .complete c => ∃ basis, g.seen c.operationId = some basis ∧
    basis.checkpointJson.bind answerFromCheckpoint = some c.answer
  | _ => True

section Walk
variable {rt : ResearchRuntime} {g : Memory} {α β : Type}

/- Every call of the program is one that `mayWithin` allows, as long as the provider keeps to the
   limits. -/
abbrev Keeping (rt : ResearchRuntime) (p : Coordinator α) (g : Memory) : Prop :=
  Obeys ((rt.protocol keepsLimits).withMay mayWithin) (fun _ _ => True) p g

theorem keeping_call {e : Effect} {f : e.Result → Coordinator α} (hm : mayWithin g e)
    (h : ∀ env s a, keepsLimits g env e s → (rt.exec env e s).1 = .ok a →
      Keeping rt (f a) (g.note s e (.ok a))) : Keeping rt (call e >>= f) g := by
  refine Obeys.perform_bind hm fun env s hp => ?_
  cases hr : (rt.exec env e s).1 with
  | ok a =>
    simp only [protocol, Protocol.withMay, hr]
    exact h env s a hp hr
  | error x =>
    simp only [protocol, Protocol.withMay, hr]

theorem keeping_try {e : Effect} {f : Except Failure e.Result → Coordinator α} (hm : mayWithin g e)
    (h : ∀ env s, keepsLimits g env e s →
      Keeping rt (f (rt.exec env e s).1) (g.note s e (rt.exec env e s).1)) :
    Keeping rt (tryCall e >>= f) g := ⟨hm, fun env s hp => h env s hp⟩

theorem keeping_try_any {e : Effect} {f : Except Failure e.Result → Coordinator α}
    (hm : mayWithin g e) (h : ∀ r s, Keeping rt (f r) (g.note s e r)) :
    Keeping rt (tryCall e >>= f) g := keeping_try hm fun _ s _ => h _ s

theorem keeping_last {e : Effect} (hm : mayWithin g e) : Keeping rt (call e) g := by
  refine ⟨hm, fun env s _ => ?_⟩
  cases hr : (rt.exec env e s).1 with
  | ok a =>
    simp only [protocol, Protocol.withMay, hr]
    trivial
  | error x =>
    simp only [protocol, Protocol.withMay, hr]
    trivial

theorem Keeping.andThen {p : Coordinator α} {f : α → β} (hp : Keeping rt p g) :
    Keeping rt (p >>= fun a => pure (f a)) g := by
  refine Obeys.bind (hp.mono fun g' r _ => ?_)
  cases r with
  | ok a => trivial
  | error x => trivial

theorem saved_eq {env : Env} {s : ResearchState} {row saved : ResearchRequestRow}
    (h : (rt.exec env (.save row) s).1 = .ok saved) : saved = row :=
  (saveRequest_ok (Env.transact_ok h)).1

theorem keeping_finish {row : ResearchRequestRow} {state : ResearchLifecycleState}
    {code : Option ResearchErrorCode} {accounting : ResearchAccountingState}
    {usage : Option ResearchUsage} {cost : Option Nat} (hseen : g.seen row.operationId = some row) :
    Keeping rt (finish row state code accounting usage cost) g := by
  refine keeping_call trivial fun env s nowMs _ _ => ?_
  refine keeping_call ⟨row, hseen, rfl, .inl rfl⟩ fun env s saved _ _ => ?_
  exact keeping_call trivial fun _ _ _ _ _ => trivial

theorem keeping_finishSaved {row : ResearchRequestRow} {answer : ResearchAnswer}
    (hseen : g.seen row.operationId = some row) : Keeping rt (rt.finishSaved row answer) g := by
  unfold finishSaved
  split
  · exact keeping_finish hseen
  · exact keeping_finish hseen

theorem keeping_completionRetry {row : ResearchRequestRow}
    (hseen : g.seen row.operationId = some row) : Keeping rt (completionRetry row) g :=
  keeping_call trivial fun _ _ _ _ _ => keeping_last ⟨row, hseen, rfl, .inl rfl⟩

theorem keeping_completeFromCheckpoint {row : ResearchRequestRow} {answer : ResearchAnswer}
    (hseen : g.seen row.operationId = some row)
    (hcheckpoint : row.checkpointJson.bind answerFromCheckpoint = some answer) :
    Keeping rt (rt.completeFromCheckpoint row answer) g := by
  unfold completeFromCheckpoint
  cases row.handle with
  | none => trivial
  | some handle =>
    dsimp only
    split
    · refine keeping_try_any ⟨row, hseen, hcheckpoint⟩ fun r s => ?_
      cases r with
      | error x => exact keeping_completionRetry hseen
      | ok receipt =>
        refine keeping_call trivial fun env s current _ hr => ?_
        cases current with
        | none => exact keeping_finishSaved hseen
        | some current => exact keeping_finishSaved (Memory.learn_seen _ _)
    · exact keeping_completionRetry hseen

/-- The accepted answer is the observed one, unchecked. -/
theorem keeping_acceptCompletion {row : ResearchRequestRow} {observation : ProviderObservation}
    (hseen : g.seen row.operationId = some row)
    (hobserved : ∀ a, observation.answer = some a → Within a row.record.resourceLimits) :
    Keeping rt (rt.acceptCompletion row observation) g := by
  refine keeping_call trivial fun env s nowMs _ _ => ?_
  split
  · exact keeping_finish hseen
  · split
    · rename_i answer handle hanswer _
      cases completionError answer.evidence with
      | some error => exact keeping_finish hseen
      | none =>
        refine keeping_call ⟨row, hseen, rfl, .inr ⟨answer, rfl, hobserved answer hanswer⟩⟩
          fun env s saved _ hr => ?_
        rw [saved_eq hr]
        exact keeping_completeFromCheckpoint (Memory.learn_seen _ _)
          (answerFromCheckpoint_answerCheckpoint answer)
    · trivial

theorem keeping_applySubmitObservation {row : ResearchRequestRow}
    {observation : ProviderObservation} (hseen : g.seen row.operationId = some row)
    (hobserved : ∀ a, observation.answer = some a → Within a row.record.resourceLimits) :
    Keeping rt (rt.applySubmitObservation row observation) g := by
  refine keeping_call trivial fun env s nowMs _ _ => ?_
  cases observation.kind with
  | pending => exact keeping_last ⟨row, hseen, rfl, .inl rfl⟩
  | running => exact keeping_last ⟨row, hseen, rfl, .inl rfl⟩
  | complete => exact keeping_acceptCompletion hseen hobserved
  | refused => exact keeping_finish hseen
  | failed => exact keeping_finish hseen
  | cancelled => exact keeping_finish hseen
  | uncertain => exact keeping_finish hseen

theorem keeping_submitClaimed {row : ResearchRequestRow}
    (hseen : g.seen row.operationId = some row) : Keeping rt (rt.submitClaimed row) g := by
  unfold submitClaimed
  split
  · trivial
  · rename_i request hrequest
    have hlimits : request.resourceLimits = row.record.resourceLimits := by
      unfold ProviderRequest.ofRecord? at hrequest
      split at hrequest
      · cases hrequest
        rfl
      · cases hrequest
    refine keeping_try trivial fun env s hp => ?_
    cases hr : (rt.exec env (.submit request) s).1 with
    | error x => exact keeping_finish hseen
    | ok observation =>
      refine keeping_applySubmitObservation hseen fun a ha => ?_
      have hobs : observation = env.observation := Env.answer_ok hr
      rw [← hlimits]
      exact hp a (hobs ▸ ha)

theorem keeping_activeRow {f : Option ResearchRequestRow → Coordinator α}
    (hnone : ∀ slot, Keeping rt (f none) { g with slotRead := slot })
    (hsome : ∀ row slot, Keeping rt (f (some row))
      (({ g with slotRead := slot } : Memory).learn row)) :
    Keeping rt (activeRow >>= f) g := by
  unfold activeRow
  rw [Program.bind_assoc]
  refine keeping_call trivial fun env s slot _ _ => ?_
  cases slot with
  | none => exact hnone none
  | some op =>
    refine keeping_call trivial fun env s found _ _ => ?_
    cases found with
    | none => exact hnone (some op)
    | some row => exact hsome row (some op)

theorem keeping_submitPending : Keeping rt rt.submitPending g := by
  refine keeping_call trivial fun env s enabled _ _ => ?_
  split
  · trivial
  · refine keeping_activeRow (fun _ => trivial) fun row slot => ?_
    dsimp only
    split
    · trivial
    · refine keeping_call trivial fun env s claimed _ _ => ?_
      cases claimed with
      | none => trivial
      | some claimed => exact Keeping.andThen (keeping_submitClaimed (Memory.learn_seen _ _))

theorem keeping_applyPollObservation {row : ResearchRequestRow} {observation : ProviderObservation}
    (hseen : g.seen row.operationId = some row)
    (hobserved : ∀ a, observation.answer = some a → Within a row.record.resourceLimits)
    (nowMs : Int) : Keeping rt (rt.applyPollObservation row observation nowMs) g := by
  unfold applyPollObservation
  cases observation.kind with
  | pending => exact keeping_last (e := .save _) ⟨row, hseen, rfl, .inl rfl⟩
  | running => exact keeping_last (e := .save _) ⟨row, hseen, rfl, .inl rfl⟩
  | complete => exact keeping_acceptCompletion hseen hobserved
  | refused => exact keeping_finish hseen
  | failed => exact keeping_finish hseen
  | cancelled => exact keeping_finish hseen
  | uncertain => trivial

theorem keeping_pollHandle {row : ResearchRequestRow} {handle : ProviderHandle}
    (hseen : g.seen row.operationId = some row) (hhandle : row.handle = some handle) :
    Keeping rt (rt.pollHandle row handle) g := by
  refine keeping_call trivial fun env s nowMs _ _ => ?_
  split
  · exact keeping_try_any trivial fun _ _ => keeping_finish hseen
  · refine keeping_try trivial fun env s hp => ?_
    cases hr : (rt.exec env (.poll handle) s).1 with
    | error x => trivial
    | ok observation =>
      refine keeping_applyPollObservation hseen (fun a ha => ?_) nowMs
      have hobs : observation = env.observation := Env.answer_ok hr
      exact hp row.operationId row hseen hhandle a (hobs ▸ ha)

theorem keeping_pollOnce : Keeping rt rt.pollOnce g := by
  refine keeping_activeRow (fun _ => trivial) fun row slot => ?_
  have hseen : (({ g with slotRead := slot } : Memory).learn row).seen row.operationId = some row :=
    Memory.learn_seen _ _
  dsimp only
  split
  · trivial
  · split
    · split
      · trivial
      · rename_i answer hanswer
        exact Keeping.andThen (keeping_completeFromCheckpoint hseen hanswer)
    · split
      · trivial
      · rename_i handle hhandle
        exact Keeping.andThen (keeping_pollHandle hseen hhandle)

end Walk

/-- A call that neither submits nor polls accepts no answer. -/
theorem mayWithin_of_may {rt : ResearchRuntime} {g : Memory} {e : Effect}
    (hcall : g.call ≠ .submitPending ∧ g.call ≠ .pollOnce) (hm : rt.may g e) : mayWithin g e := by
  cases e with
  | admitRow row reservation =>
    obtain ⟨h⟩ := hm
    rw [h.row_eq]
    rfl
  | save row =>
    obtain ⟨basis, hseen, hsave⟩ := hm
    refine ⟨basis, hseen, ?_⟩
    cases hsave with
    | validating handle answer nowMs hw =>
      rcases worksOn_call hw with h | h
      · exact absurd h hcall.1
      · exact absurd h hcall.2
    | _ => exact ⟨rfl, .inl rfl⟩
  | complete c =>
    obtain ⟨basis, -, -, hw, -⟩ := hm
    rcases worksOn_call hw with h | h
    · exact absurd h hcall.1
    · exact absurd h hcall.2
  | _ => trivial

theorem program_keeps_limits (rt : ResearchRuntime) (c : Call) :
    Keeping rt (rt.program c) { call := c } := by
  have hother : c ≠ .submitPending → c ≠ .pollOnce → Keeping rt (rt.program c) { call := c } := by
    intro hsubmit hpoll
    have hkeep : ∀ (g : Memory) s e r, g.call = c → (rt.protocol keepsLimits).may g e →
        ((rt.protocol keepsLimits).note g s e r).call = c := fun g s e r h _ => by
      simpa [protocol] using h
    have hobeys : Obeys (rt.protocol keepsLimits) (fun _ _ => True) (rt.program c) { call := c } :=
      (program_obeys rt keepsLimits c).mono fun _ _ _ => trivial
    refine Obeys.strengthen hkeep (fun g e hg hm => mayWithin_of_may ?_ hm) hobeys rfl
    exact ⟨fun h => hsubmit (hg.symm.trans h), fun h => hpoll (hg.symm.trans h)⟩
  cases c with
  | submitPending => exact Keeping.andThen keeping_submitPending
  | pollOnce => exact Keeping.andThen keeping_pollOnce
  | _ => exact hother (fun h => by cases h) fun h => by cases h

section Invariant
variable {rt : ResearchRuntime} {g : Memory} {s s' : ResearchState}

/- A stored checkpoint is that of an answer within the row's own limits. -/
def ResearchRequestRow.CheckpointWithin (row : ResearchRequestRow) : Prop :=
  ∀ j, row.checkpointJson = some j →
    ∃ a, j = answerCheckpoint a ∧ Within a row.record.resourceLimits

structure LimitsHeld (s : ResearchState) : Prop where
  checkpoint : ∀ op row, s.request? op = some row → row.CheckpointWithin
  document : ∀ d ∈ s.documents.rows, ∃ row, s.request? d.operationId = some row ∧
    d.answerText.utf8ByteSize ≤ row.record.resourceLimits.answerMaxUtf8Bytes ∧
    d.citations.length ≤ row.record.resourceLimits.citationCountMax

/- A row that some caller holds has the limits of the stored one. -/
def SeenWithin (g : Memory) (s : ResearchState) : Prop :=
  ∀ op row, g.seen op = some row → row.CheckpointWithin ∧ ∃ stored, s.request? op = some stored ∧
    stored.record.resourceLimits = row.record.resourceLimits

theorem SeenWithin.step {casefold : String → String} {e : Effect} {r : Except Failure e.Result}
    (h : SeenWithin g s) (ha : Answered casefold s e r s') : SeenWithin g s' := by
  intro op row hseen
  obtain ⟨hrow, stored, hst, hlimits⟩ := h op row hseen
  obtain ⟨stored', hst', hterms⟩ := answered_terms ha hst
  exact ⟨hrow, stored', hst', hterms.resourceLimits.trans hlimits⟩

theorem checkpointWithin_step {e : Effect} {r : Except Failure e.Result}
    (ha : Answered rt.casefold s e r s') (hm : mayWithin g e) (hs : LimitsHeld s)
    (hg : SeenWithin g s) {op : String} {row : ResearchRequestRow}
    (hrow : s'.request? op = some row) : row.CheckpointWithin := by
  cases hst : s.request? op with
  | none =>
    obtain ⟨admitted, reservation, rfl, -, rfl, -⟩ := answered_new ha hst hrow
    intro j hj
    have hnone : admitted.checkpointJson = none := hm
    have hsame : admitted.checkpointJson = some j := hj
    rw [hnone] at hsame
    cases hsame
  | some stored =>
    have hstored := hs.checkpoint op stored hst
    obtain hsame | ⟨saved, rfl, rfl, hsaved⟩ | ⟨nowMs, -, -, hclaimed⟩ |
      ⟨c, recordId, nowMs, -, -, -, hbound⟩ := answered_request ha hst
    · cases hsame.symm.trans hrow
      exact hstored
    · cases hsaved.symm.trans hrow
      obtain ⟨basis, hseen, -, hcheckpoint⟩ := hm
      obtain ⟨hbasis, found, hfound, hlimits⟩ := hg _ basis hseen
      cases hst.symm.trans hfound
      intro j hj
      show ∃ a, j = answerCheckpoint a ∧ Within a stored.record.resourceLimits
      rw [hlimits]
      have hj : saved.checkpointJson = some j := hj
      rcases hcheckpoint with hsame | ⟨a, hnew, hwithin⟩
      · exact hbasis j (hsame ▸ hj)
      · rw [hnew] at hj
        cases hj
        exact ⟨a, rfl, hwithin⟩
    · cases hclaimed.symm.trans hrow
      exact hstored
    · cases hbound.symm.trans hrow
      exact hstored

theorem documents_step {e : Effect} {r : Except Failure e.Result}
    (ha : Answered rt.casefold s e r s') (hm : mayWithin g e) (hg : SeenWithin g s)
    {d : CompletedDocument} (hd : d ∈ s'.documents.rows) :
    d ∈ s.documents.rows ∨ ∃ stored, s.request? d.operationId = some stored ∧
      d.answerText.utf8ByteSize ≤ stored.record.resourceLimits.answerMaxUtf8Bytes ∧
      d.citations.length ≤ stored.record.resourceLimits.citationCountMax := by
  cases ha with
  | failed e x s' h => exact .inl (h.documents ▸ hd)
  | plain e a s' hp h => exact .inl (h.documents ▸ hd)
  | completed c receipt request nowMs documentId recordId owner document documents records hst hb
      hacc hdoc hins hr =>
    have hd : d ∈ documents.rows := hd
    rw [(insertDocument_some hins).1, List.mem_append, List.mem_singleton] at hd
    rcases hd with hd | rfl
    · exact .inl hd
    · obtain ⟨-, hop, -, -, htext, hcitations, -⟩ := make?_some hdoc
      obtain ⟨basis, hseen, hcheckpoint⟩ := hm
      obtain ⟨hbasis, found, hfound, hlimits⟩ := hg _ basis hseen
      obtain ⟨j, hj, hanswer⟩ := Option.bind_eq_some_iff.mp hcheckpoint
      obtain ⟨a, rfl, hwithin⟩ := hbasis j hj
      have ha : c.answer = a :=
        Option.some.inj (hanswer.symm.trans (answerFromCheckpoint_answerCheckpoint a))
      rw [← hlimits] at hwithin
      refine .inr ⟨found, by rw [hop]; exact hfound, ?_, ?_⟩
      · rw [htext, ha]
        exact hwithin.1
      · rw [hcitations, ha]
        exact hwithin.2
  | _ => exact .inl hd

theorem limitsHeld_step {e : Effect} {r : Except Failure e.Result}
    (ha : Answered rt.casefold s e r s') (hm : mayWithin g e) (hs : LimitsHeld s)
    (hg : SeenWithin g s) : LimitsHeld s' where
  checkpoint _ _ hrow := checkpointWithin_step ha hm hs hg hrow
  document d hd := by
    have hold : ∃ stored, s.request? d.operationId = some stored ∧
        d.answerText.utf8ByteSize ≤ stored.record.resourceLimits.answerMaxUtf8Bytes ∧
        d.citations.length ≤ stored.record.resourceLimits.citationCountMax := by
      rcases documents_step ha hm hg hd with hd | h
      · exact hs.document d hd
      · exact h
    obtain ⟨stored, hst, htext, hcitations⟩ := hold
    obtain ⟨row, hrow, hterms⟩ := answered_terms ha hst
    rw [← hterms.resourceLimits] at htext hcitations
    exact ⟨row, hrow, htext, hcitations⟩

theorem seenWithin_own {e : Effect} {r : Except Failure e.Result}
    (ha : Answered rt.casefold s e r s') (hm : mayWithin g e) (hs : LimitsHeld s)
    (hg : SeenWithin g s) : SeenWithin (g.note s e r) s' := by
  have hs' := limitsHeld_step ha hm hs hg
  intro op row hseen
  obtain hold | ⟨-, hread⟩ | ⟨rfl, rfl, stored, hst, hst'⟩ := note_seen ha hseen
  · exact hg.step ha op row hold
  · exact ⟨hs'.checkpoint op row hread, row, hread, rfl⟩
  · obtain ⟨basis, hbasis, hlimits, -⟩ := hm
    obtain ⟨-, found, hfound, hsame⟩ := hg _ basis hbasis
    cases hst.symm.trans hfound
    have hstored : stored.record.resourceLimits = row.record.resourceLimits :=
      hsame.trans hlimits.symm
    refine ⟨fun j hj => ?_, _, hst', hstored⟩
    obtain ⟨a, rfl, hwithin⟩ := hs'.checkpoint _ _ hst' j hj
    exact ⟨a, rfl, hstored ▸ hwithin⟩

theorem limits_interference (rt : ResearchRuntime) (mayCrash : Bool) :
    Interference ((rt.system keepsLimits mayCrash).withMay mayWithin) LimitsHeld SeenWithin
      fun _ _ => True where
  start _ _ _ _ _ h := nomatch h
  state _ env e s hs hg hm _ := limitsHeld_step (exec_answered rt env e s) hm hs hg
  own _ env e s hs hg hm _ := seenWithin_own (exec_answered rt env e s) hm hs hg
  other _ _ env e s _ _ hg' _ _ _ := hg'.step (exec_answered rt env e s)
  symm _ _ h := h
  newcomer _ _ _ _ _ := trivial
  apart _ _ _ _ _ _ _ _ h _ _ := h

theorem limitsHeld_empty : LimitsHeld ResearchState.empty where
  checkpoint _ _ h := nomatch h
  document _ h := nomatch h

end Invariant

/-- In every interleaving and through every crash: where the provider keeps to the limits, a
SAVED request has a document within its persisted limits, and so has its checkpoint. -/
theorem approved_limits_bind {rt : ResearchRuntime} {mayCrash : Bool} {w : Deployment}
    (h : Reachable (rt.system keepsLimits mayCrash) .empty w) {op : String}
    {row : ResearchRequestRow} (hrow : w.state.request? op = some row) (hsaved : row.state = .saved) :
    w.state.hasDocument op ∧
      (∀ d ∈ w.state.documents.rows, d.operationId = op →
        d.answerText.utf8ByteSize ≤ row.record.resourceLimits.answerMaxUtf8Bytes ∧
        d.citations.length ≤ row.record.resourceLimits.citationCountMax) ∧
      row.CheckpointWithin := by
  have hconsistent := (h.sound (system_interference rt keepsLimits mayCrash)
    (system_obedient rt keepsLimits mayCrash) consistent_empty).state
  have hobedient : Obedient ((rt.system keepsLimits mayCrash).withMay mayWithin)
      fun _ _ => True := program_keeps_limits rt
  have hheld := ((h.withMay mayWithin).sound (limits_interference rt mayCrash) hobedient
    limitsHeld_empty).state
  refine ⟨hconsistent.saved op row hrow hsaved, fun d hd hop => ?_, hheld.checkpoint op row hrow⟩
  obtain ⟨stored, hst, htext, hcitations⟩ := hheld.document d hd
  rw [hop] at hst
  cases hst.symm.trans hrow
  exact ⟨htext, hcitations⟩

/-- A provider that gives no answer keeps to every limit. -/
theorem keepsLimits_unanswered {g : Memory} {env : Env} {e : Effect} {s : ResearchState}
    (h : env.observation.answer = none) : keepsLimits g env e s := by
  have hnone : ∀ a, env.observation.answer ≠ some a := by
    intro a ha
    rw [h] at ha
    cases ha
  cases e with
  | submit request => exact fun a ha => absurd ha (hnone a)
  | poll handle => exact fun op row _ _ a ha => absurd ha (hnone a)
  | _ => trivial

def unanswered : Move Call Env → Prop
  | .call _ env => env.observation.answer = none
  | .start _ | .crash => True

instance : DecidablePred unanswered
  | .call _ env => inferInstanceAs (Decidable (env.observation.answer = none))
  | .start _ | .crash => isTrue trivial

theorem allowed_unanswered {rt : ResearchRuntime} {script : Script} {w : Deployment}
    (h : ∀ m ∈ script, unanswered m) : w.Allowed (rt.system keepsLimits true) script := by
  induction script generalizing w with
  | nil => trivial
  | cons m script ih =>
    refine ⟨?_, ih fun m' hm' => h m' (List.mem_cons_of_mem _ hm')⟩
    have hm := h m List.mem_cons_self
    cases m with
    | call n env =>
      simp only [World.MayMove]
      split
      · exact keepsLimits_unanswered (s := w.state) hm
      · trivial
    | _ => trivial

/- The request the program is about to submit. -/
def submitting : Coordinator CallResult → Option ProviderRequest
  | .call (.submit request) _ => some request
  | _ => none

theorem mayMove_submitting {rt : ResearchRuntime} {w : Deployment} {n : Nat} {env : Env}
    {request : ProviderRequest}
    (hrequest : (w.threads[n]?).bind (fun t => submitting t.program) = some request)
    (h : ∀ a, env.observation.answer = some a → Within a request.resourceLimits) :
    w.MayMove (rt.system keepsLimits true) (.call n env) := by
  cases ht : w.threads[n]? with
  | none => simp only [World.MayMove, ht]
  | some t =>
    obtain ⟨g, p⟩ := t
    rw [ht] at hrequest
    cases p with
    | call e next =>
      simp only [World.MayMove, ht]
      cases e with
      | submit submitted =>
        cases hrequest
        exact h
      | _ => cases hrequest
    | _ => cases hrequest

section Examples
open Sample

/- The submission is answered at once. -/
def answeredCalls : Script :=
  admission ++ .start .submitPending :: calls 2 4 env

def answeredRun : Script := (answeredCalls ++ [.call 2 completed]) ++ calls 2 8 env

theorem answered_permitted :
    (runtime.after answeredCalls).MayMove (runtime.system keepsLimits true)
      (.call 2 completed) := by
  have hlimits : (((runtime.after answeredCalls).threads[2]?).bind
      (fun t => submitting t.program)).map (·.resourceLimits) = some limits := by decide +kernel
  obtain ⟨request, hrequest, hsame⟩ := Option.map_eq_some_iff.mp hlimits
  refine mayMove_submitting hrequest fun a ha => ?_
  have hanswer : answer = a := Option.some.inj ha
  rw [← hanswer, hsame]
  decide

theorem answeredRun_reachable :
    Reachable (runtime.system keepsLimits true) .empty (runtime.after answeredRun) := by
  have hbefore : World.Allowed (runtime.system keepsLimits true) answeredCalls ⟨.empty, []⟩ :=
    allowed_unanswered (by decide)
  have hanswer : World.Allowed (runtime.system keepsLimits true) [.call 2 completed]
      (runtime.after answeredCalls) := ⟨answered_permitted, trivial⟩
  have hafter : World.Allowed (runtime.system keepsLimits true) (calls 2 8 env)
      (runtime.after (answeredCalls ++ [.call 2 completed])) := allowed_unanswered (by decide)
  exact ((runtime.after_permitted hbefore).trans (runtime.append_permitted hanswer)).trans
    (runtime.append_permitted hafter)

theorem approved_limits_bind_once :
    ∃ row, (runtime.after answeredRun).state.request? "op-1" = some row ∧ row.state = .saved ∧
      ((runtime.after answeredRun).state.hasDocument "op-1" ∧
        (∀ d ∈ (runtime.after answeredRun).state.documents.rows, d.operationId = "op-1" →
          d.answerText.utf8ByteSize ≤ row.record.resourceLimits.answerMaxUtf8Bytes ∧
          d.citations.length ≤ row.record.resourceLimits.citationCountMax) ∧
        row.CheckpointWithin) := by
  have hstate : ((runtime.after answeredRun).state.request? "op-1").map (·.state) = some .saved := by
    decide +kernel
  obtain ⟨row, hrow, hsaved⟩ := Option.map_eq_some_iff.mp hstate
  exact ⟨row, hrow, hsaved, approved_limits_bind answeredRun_reachable hrow hsaved⟩

/- An administrator allows answers of four bytes. -/
def narrowEnv : Env :=
  { env with
    selection := .ok { snapshot with
      resourceLimits := { limits with answerMaxUtf8Bytes := 4, answer_bounded := by decide } } }

/- The provider answers "because" all the same. -/
def narrowRun : Script :=
  .start .recover :: calls 0 1 narrowEnv ++
    .start (.admitResearch "ana" "c1" .search "why" "1") :: calls 1 7 narrowEnv ++
    .start .submitPending :: calls 2 13 { narrowEnv with observation := complete }

theorem approved_limits_exceeded :
    Reachable (runtime.system always true) .empty (runtime.after narrowRun) ∧
      ((runtime.after narrowRun).state.request? "op-1").map
        (fun row => (row.state, row.record.resourceLimits.answerMaxUtf8Bytes)) =
          some (.saved, 4) ∧
      (runtime.after narrowRun).state.documents.rows.map
        (fun d => (d.operationId, d.answerText.utf8ByteSize)) = [("op-1", 7)] :=
  ⟨runtime.after_reachable _, by decide +kernel, by decide +kernel⟩

end Examples

end FrameNest.Research
