import FrameNest.Research.SlotExclusivity

/-! From which states the active slot can still be released, and which steps lead to
a state it can never leave. -/
namespace FrameNest.Research
open Concurrent Sample

/-- Some continuation of complete calls, with clock readings and answers of one's choice,
leaves the slot free. -/
def ResearchRuntime.Releasable (rt : ResearchRuntime) (s : ResearchState) : Prop :=
  ∃ s', Relation.ReflTransGen (Completed (rt.system always true)) s s' ∧ s'.slot = none

/-- The slot is held by a request that no method acts on: past its submission, and with
no handle to poll or cancel. -/
def Wedged (s : ResearchState) (op : String) : Prop :=
  s.slot = some op ∧ ∃ row, s.request? op = some row ∧ row.handle = none ∧
    (row.state = .running ∨ row.state = .cancelRequested)

/-- Cancellation marks a request with a handle only, and a submission that is answered
PENDING or RUNNING is given one. -/
def keepsHandle (_ : Memory) (env : Env) (e : Effect) (_ : ResearchState) : Prop :=
  match e with
  | .save row => row.state = .cancelRequested → row.handle.isSome = true
  | .submit _ => env.fault = false →
    env.observation.kind = .pending ∨ env.observation.kind = .running →
    env.observation.remoteHandle.isSome = true
  | _ => True

instance (g : Memory) (env : Env) (e : Effect) (s : ResearchState) :
    Decidable (keepsHandle g env e s) := by
  delta keepsHandle
  apply @Effect.casesOn _ e <;> intros <;> infer_instance

/-- Whatever state a run reaches, a slot that is held there can be released. -/
def ResearchRuntime.NeverWedged (rt : ResearchRuntime)
    (permits : Memory → Env → Effect → ResearchState → Prop) : Prop :=
  ∀ s, SeqReachable (rt.system permits true) .empty s → s.slot ≠ none → rt.Releasable s

section Accepted
variable {row stored : ResearchRequestRow} {t : Int}

theorem overwrite_updateAccepted (hcreated : stored.createdAtMs = row.createdAtMs)
    (hadmitted : stored.admittedAtMs = row.admittedAtMs) :
    (stored.overwrite row).updateAccepted = row.updateAccepted := by
  simp only [ResearchRequestRow.updateAccepted, ResearchRequestRow.checkpointAccepted,
    ResearchRequestRow.timesAccepted, ResearchRequestRow.overwrite, hcreated, hadmitted]

theorem overwrite_accepted (hcreated : stored.createdAtMs = row.createdAtMs)
    (hadmitted : stored.admittedAtMs = row.admittedAtMs) (h : row.updateAccepted = true) :
    (stored.overwrite row).updateAccepted = true := by
  rw [overwrite_updateAccepted hcreated hadmitted]
  exact h

theorem finished_accepted (h : row.updateAccepted = true) (ht : row.admittedAtMs ≤ t)
    (state : ResearchLifecycleState) (code : Option ResearchErrorCode)
    (accounting : ResearchAccountingState) :
    (row.finished state code accounting t).updateAccepted = true := by
  rw [ResearchRequestRow.updateAccepted, Bool.and_eq_true, ResearchRequestRow.timesAccepted_iff]
    at h ⊢
  obtain ⟨hc, hreq, hconf, hzero, hcreated, hsub, -, -⟩ := h
  refine ⟨hc, hreq, hconf, hzero, hcreated, hsub, fun u hu => ?_, ?_⟩
  · cases hu
    exact ht
  · show row.createdAtMs ≤ t
    omega

theorem cancelMarked_accepted (h : row.updateAccepted = true) (ht : row.admittedAtMs ≤ t)
    (hnone : row.cancelRequestedAtMs = none) : (row.cancelMarked t).updateAccepted = true := by
  rw [ResearchRequestRow.updateAccepted, Bool.and_eq_true, ResearchRequestRow.timesAccepted_iff]
    at h ⊢
  obtain ⟨hc, -, hconf, hzero, hcreated, hsub, hfin, -⟩ := h
  refine ⟨hc, fun u hu => ?_, fun u hu => ?_, hzero, hcreated, hsub, hfin, ?_⟩
  · cases hu
    omega
  · obtain ⟨requested, hreq, -⟩ := hconf u hu
    rw [hnone] at hreq
    cases hreq
  · show row.createdAtMs ≤ t
    omega

theorem claimed_accepted (h : row.updateAccepted = true) (ht : row.admittedAtMs ≤ t) :
    (row.claimed t).updateAccepted = true := by
  rw [ResearchRequestRow.updateAccepted, Bool.and_eq_true, ResearchRequestRow.timesAccepted_iff]
    at h ⊢
  obtain ⟨hc, hreq, hconf, hzero, hcreated, hsub, hfin, -⟩ := h
  refine ⟨hc, hreq, hconf, hzero, hcreated, hsub, hfin, ?_⟩
  show row.createdAtMs ≤ t
  omega

end Accepted

/-- A clock reading, with nothing wrong. -/
def reading (nowMs : Int) : Env := { clockMs := nowMs }

section Exits
variable {rt : ResearchRuntime} {s : ResearchState} {row stored : ResearchRequestRow} {t : Int}

/-- A terminal save of the slot's request frees the slot, whatever the ledger answers. -/
theorem run_finishUnknown {α : Type} (rt : ResearchRuntime) {state : ResearchLifecycleState} (code : ResearchErrorCode)
    (hslot : s.slot = some row.operationId) (hst : s.request? row.operationId = some stored)
    (hacc : (stored.overwrite (row.finished state (some code) .unknown t)).updateAccepted = true)
    (hterm : isTerminalLifecycle state = true) (f : ResearchRequestRow → α) :
    (Program.run rt.exec (List.replicate 3 (reading t))
        (ResearchRuntime.finishUnknown row state code >>= fun saved => .done (f saved)) s).1.settled =
      true ∧
    (Program.run rt.exec (List.replicate 3 (reading t))
        (ResearchRuntime.finishUnknown row state code >>= fun saved => .done (f saved)) s).2.slot =
      none := by
  obtain ⟨done, hdone⟩ : ∃ done, done = row.finished state (some code) .unknown t := ⟨_, rfl⟩
  have hop : done.operationId = row.operationId := by rw [hdone]; rfl
  have hsave : rt.exec (reading t) (.save done) s = (.ok done, savedState s done) :=
    exec_save rfl (hop ▸ hst) (hdone ▸ hacc)
  have hfree : (savedState s done).slot = none := by
    have hdoneTerm : done.terminal = true := by rw [hdone]; exact hterm
    rw [slot_savedState, if_pos ⟨hdoneTerm, hop ▸ hslot⟩]
  simp only [ResearchRuntime.finishUnknown, ResearchRuntime.finish, Program.bind_assoc,
    List.replicate_succ, List.replicate_zero]
  rw [Program.run_perform (r := t) (t := s) rfl, ← hdone, Program.run_perform hsave]
  obtain ⟨r, hr⟩ : ∃ r, r = finalReconciliation done .unknown none none := ⟨_, rfl⟩
  have hkeep : (rt.exec (reading t) (.reconcile r) (savedState s done)).2.slot = none := by
    rw [← hfree]
    refine transact_keeps _ ResearchState.slot fun hold s' h => ?_
    obtain ⟨holds, -, rfl⟩ := reconcileTransaction_ok h
    rfl
  rw [← hr]
  cases hrec : rt.exec (reading t) (.reconcile r) (savedState s done) with
  | mk answer s' =>
    rw [hrec] at hkeep
    cases answer with
    | ok hold =>
      rw [Program.run_perform hrec]
      exact ⟨rfl, hkeep⟩
    | error x =>
      rw [Program.run_perform_error hrec]
      exact ⟨rfl, hkeep⟩

/-- A call whose run comes down to such a terminal save. -/
theorem completed_of_run (c : Call) (envs : List Env) {envs' : List Env} {p : Coordinator CallResult}
    {s' : ResearchState}
    (hrun : Program.run rt.exec envs (rt.program c) s = Program.run rt.exec envs' p s')
    (hend : (Program.run rt.exec envs' p s').1.settled = true ∧
      (Program.run rt.exec envs' p s').2.slot = none) :
    ∃ s', Completed (rt.system always true) s s' ∧ s'.slot = none := by
  rw [← hrun] at hend
  exact ⟨_, ⟨c, envs, hend.1, rfl⟩, hend.2⟩

/-- A SUBMITTING request is classified by `recover`. -/
theorem recover_releases (rt : ResearchRuntime) (hc : Consistent s) (hslot : s.slot = some row.operationId)
    (hst : s.request? row.operationId = some row) (hs : row.state = .submitting) :
    ∃ s', Completed (rt.system always true) s s' ∧ s'.slot = none := by
  have hacc := overwrite_accepted rfl rfl
    (finished_accepted (hc.accepted _ row hst) le_rfl .submissionUnknown (some .submissionUnknown)
      .unknown)
  refine completed_of_run .recover (List.replicate 5 (reading row.admittedAtMs)) ?_
    (run_finishUnknown rt .submissionUnknown hslot hst hacc rfl fun saved => .row (some saved))
  simp only [ResearchRuntime.program, ResearchRuntime.recover, ResearchRuntime.activeRow,
    Program.bind_assoc, List.replicate_succ, List.replicate_zero]
  rw [Program.run_perform (r := s.slot) (t := s) rfl, hslot]
  simp only []
  rw [Program.run_perform (r := s.request? row.operationId) (t := s) rfl, hst]
  simp only [hs, if_true, Program.bind_assoc, Program.pure_eq, Program.done_bind]

/-- What the provider answers a cancellation it will not make. -/
def refusing (nowMs : Int) : Env :=
  { clockMs := nowMs, observation := ⟨.refused, none, none, some .refused, rfl⟩ }

theorem run_cancelRemote {handle : ProviderHandle} (hh : row.handle = some handle) :
    Program.run rt.exec (refusing t :: List.replicate 3 (reading t))
        (ResearchRuntime.cancelRemote row >>= fun saved => .done (CallResult.row (some saved))) s =
      Program.run rt.exec (List.replicate 3 (reading t))
        (ResearchRuntime.finishUnknown row .refused .refused >>= fun saved =>
          .done (CallResult.row (some saved))) s := by
  simp only [ResearchRuntime.cancelRemote, hh, Program.bind_assoc]
  rw [Program.run_attempt (r := .ok (refusing t).observation) (t := s) rfl]
  rfl

/-- A request with a handle is finished by a cancellation that the provider refuses. -/
theorem cancel_releases (rt : ResearchRuntime) (hc : Consistent s) (hslot : s.slot = some row.operationId)
    (hst : s.request? row.operationId = some row) (hopen : row.terminal = false)
    (hh : row.handle.isSome = true) :
    ∃ s', Completed (rt.system always true) s s' ∧ s'.slot = none := by
  obtain ⟨handle, hh⟩ := Option.isSome_iff_exists.mp hh
  have hrow := hc.accepted _ row hst
  obtain ⟨t, ht⟩ : ∃ t, t = row.admittedAtMs := ⟨_, rfl⟩
  cases hmark : row.cancelRequestedAtMs with
  | some requested =>
    have hacc := overwrite_accepted rfl rfl
      (finished_accepted hrow (le_of_eq ht.symm) .refused (some .refused) .unknown)
    refine completed_of_run (.cancel row.operationId)
      ([reading t, reading t] ++ (refusing t :: List.replicate 3 (reading t))) ?_
      (run_finishUnknown rt .refused hslot hst hacc rfl fun saved => .row (some saved))
    simp only [ResearchRuntime.program, ResearchRuntime.cancel, Program.bind_assoc, List.cons_append,
      List.nil_append]
    rw [Program.run_perform (r := s.request? row.operationId) (t := s) rfl, hst]
    simp only [hopen, Bool.false_eq_true, if_false, Program.bind_assoc]
    rw [Program.run_perform (r := t) (t := s) rfl]
    simp only [hmark, Option.isSome_some, if_true]
    exact run_cancelRemote hh
  | none =>
    obtain ⟨marked, hmarked⟩ : ∃ marked, marked = row.cancelMarked t := ⟨_, rfl⟩
    have hop : marked.operationId = row.operationId := by rw [hmarked]; rfl
    have hsave : rt.exec (reading t) (.save marked) s = (.ok marked, savedState s marked) := by
      refine exec_save rfl (hop ▸ hst) (overwrite_accepted ?_ ?_ ?_)
      · rw [hmarked]; rfl
      · rw [hmarked]; rfl
      · rw [hmarked]
        exact cancelMarked_accepted hrow (le_of_eq ht.symm) hmark
    have hst' : (savedState s marked).request? marked.operationId = some (row.overwrite marked) :=
      savedState_self (hop ▸ hst)
    have hslot' : (savedState s marked).slot = some marked.operationId := by
      have hstays : marked.terminal = false := by rw [hmarked]; rfl
      rw [slot_savedState, if_neg (by simp [hstays]), hop]
      exact hslot
    have hacc : ((row.overwrite marked).overwrite
        (marked.finished .refused (some .refused) .unknown t)).updateAccepted = true := by
      refine overwrite_accepted ?_ ?_ (finished_accepted ?_ ?_ _ _ _)
      · rw [hmarked]; rfl
      · rw [hmarked]; rfl
      · rw [hmarked]
        exact cancelMarked_accepted hrow (le_of_eq ht.symm) hmark
      · rw [hmarked, ht]
        exact le_rfl
    refine completed_of_run (.cancel row.operationId)
      (List.replicate 3 (reading t) ++ (refusing t :: List.replicate 3 (reading t))) ?_
      (run_finishUnknown rt .refused hslot' hst' hacc rfl fun saved => .row (some saved))
    simp only [ResearchRuntime.program, ResearchRuntime.cancel, Program.bind_assoc, List.cons_append,
      List.nil_append, List.replicate_succ, List.replicate_zero]
    rw [Program.run_perform (r := s.request? row.operationId) (t := s) rfl, hst]
    simp only [hopen, Bool.false_eq_true, if_false, Program.bind_assoc]
    rw [Program.run_perform (r := t) (t := s) rfl]
    simp only [hmark, Option.isSome_none, Bool.false_eq_true, if_false, Program.bind_assoc]
    rw [← hmarked, Program.run_perform hsave]
    have hh' : marked.handle = some handle := by rw [hmarked]; exact hh
    exact run_cancelRemote hh'

/-- An ADMITTED request is claimed and sent; whether its submission raises or it has no
lawful submission, its outcome is then classified. -/
theorem submit_releases (hc : Consistent s) (hslot : s.slot = some row.operationId)
    (hst : s.request? row.operationId = some row) (hs : row.state = .admitted) :
    rt.Releasable s := by
  obtain ⟨t, ht⟩ : ∃ t, t = row.admittedAtMs := ⟨_, rfl⟩
  have hrow := hc.accepted _ row hst
  have hacc := claimed_accepted hrow (le_of_eq ht.symm)
  obtain ⟨claimed, hclaimed⟩ : ∃ claimed, claimed = row.claimed t := ⟨_, rfl⟩
  have hop : claimed.operationId = row.operationId := by rw [hclaimed]; rfl
  have hself : (claimedState s row.operationId t).request? claimed.operationId = some claimed := by
    rw [hop, hclaimed]
    simp [request?_claimedState, hst]
  have hslot' : (claimedState s row.operationId t).slot = some claimed.operationId := by
    rw [hop]
    exact hslot
  have hclaim : rt.exec (reading t) (.claimSubmission row.operationId) s =
      (.ok (some claimed), claimedState s row.operationId t) := by
    refine transact_eq rfl ?_
    simp only [claimSubmission, hst, hs, hclaimed]
    rw [if_neg (by simp), if_pos (show (row.claimed (reading t).clockMs).updateAccepted = true from hacc)]
    rfl
  -- up to the claim the call runs the same way
  have hrun : ∀ envs, Program.run rt.exec (List.replicate 4 (reading t) ++ envs)
      (rt.program .submitPending) s =
      Program.run rt.exec envs (rt.submitClaimed claimed >>= fun saved =>
        .done (CallResult.row (some saved))) (claimedState s row.operationId t) := by
    intro envs
    simp only [ResearchRuntime.program, ResearchRuntime.submitPending, ResearchRuntime.activeRow,
      Program.bind_assoc, List.replicate_succ, List.replicate_zero, List.cons_append,
      List.nil_append]
    rw [Program.run_perform (r := true) (t := s) rfl]
    simp only [Bool.true_eq_false, if_false, Program.bind_assoc]
    rw [Program.run_perform (r := s.slot) (t := s) rfl, hslot]
    simp only []
    rw [Program.run_perform (r := s.request? row.operationId) (t := s) rfl, hst]
    simp only [hs, ne_eq, not_true_eq_false, if_false, Program.bind_assoc]
    rw [Program.run_perform hclaim]
    simp only [Program.bind_assoc, Program.pure_eq, Program.done_bind]
  cases hreq : ProviderRequest.ofRecord? claimed.record with
  | none =>
    have hraised := hrun []
    simp only [ResearchRuntime.submitClaimed, hreq, Program.fail_bind, Program.run_nil] at hraised
    have hstep : Completed (rt.system always true) s (claimedState s row.operationId t) := by
      refine ⟨.submitPending, List.replicate 4 (reading t) ++ [], ?_, ?_⟩
      · exact (congrArg (fun r => r.1.settled) hraised).trans rfl
      · exact (congrArg Prod.snd hraised).symm
    have hc' := consistent_claimed hc hst hs hacc
    have hsub : claimed.state = .submitting := by rw [hclaimed]; rfl
    obtain ⟨s', hrec, hfree⟩ := recover_releases rt hc' hslot' hself hsub
    exact ⟨s', .tail (.single hstep) hrec, hfree⟩
  | some request =>
    have hclaimedAt : claimed.admittedAtMs ≤ t := by rw [hclaimed, ht]; exact le_rfl
    have hfinish := overwrite_accepted rfl rfl (finished_accepted (hclaimed ▸ hacc) hclaimedAt
      .submissionUnknown (some .submissionUnknown) .unknown)
    obtain ⟨sent, hsent⟩ : ∃ sent : ResearchState, sent = { claimedState s row.operationId t with
      submitted := (claimedState s row.operationId t).submitted ++ [request.operationId] } := ⟨_, rfl⟩
    have hslotSent : sent.slot = some claimed.operationId := by rw [hsent]; exact hslot'
    have hselfSent : sent.request? claimed.operationId = some claimed := by rw [hsent]; exact hself
    have hend := run_finishUnknown rt .submissionUnknown hslotSent hselfSent hfinish rfl
      fun saved => CallResult.row (some saved)
    obtain ⟨s', hstep, hfree⟩ := completed_of_run (s := s) .submitPending
      (List.replicate 4 (reading t) ++
        ({ fault := true } :: List.replicate 3 (reading t))) (by
      rw [hrun]
      simp only [ResearchRuntime.submitClaimed, hreq, Program.bind_assoc]
      exact Program.run_attempt (r := .error .other) (by rw [hsent]; rfl)) hend
    exact ⟨s', .single hstep, hfree⟩

/-- Every request that holds the slot and is not wedged has an exit. -/
theorem releasable_of_not_wedged {op : String} (hc : Consistent s) (hn : SlotNames s)
    (hslot : s.slot = some op) (hw : ¬ Wedged s op) : rt.Releasable s := by
  obtain ⟨row, hst, hopen⟩ := hn.named op hslot
  have hop : row.operationId = op := ResearchState.request?_operationId hst
  subst hop
  cases hh : row.handle with
  | some handle =>
    obtain ⟨s', hstep, hfree⟩ := cancel_releases rt hc hslot hst hopen (by rw [hh]; rfl)
    exact ⟨s', .single hstep, hfree⟩
  | none =>
    cases hs : row.state with
    | admitted => exact submit_releases hc hslot hst hs
    | submitting =>
      obtain ⟨s', hstep, hfree⟩ := recover_releases rt hc hslot hst hs
      exact ⟨s', .single hstep, hfree⟩
    | running => exact absurd ⟨hslot, row, hst, hh, Or.inl hs⟩ hw
    | cancelRequested => exact absurd ⟨hslot, row, hst, hh, Or.inr hs⟩ hw
    | validating =>
      have hsome := ((hc.wellFormed _ row hst).validating hs).1
      rw [hh] at hsome
      cases hsome
    | _ => simp [ResearchRequestRow.terminal, hs, isTerminalLifecycle] at hopen

end Exits

section Traps
variable {rt : ResearchRuntime} {g : Memory} {env : Env} {e : Effect} {s : ResearchState}
  {op : String}

/- RUNNING and CANCEL_REQUESTED: only a handle leads on from here. -/
def ResearchRequestRow.waits (row : ResearchRequestRow) : Prop :=
  row.state = .running ∨ row.state = .cancelRequested

theorem waits_not_terminal {row : ResearchRequestRow} (h : row.waits) : row.terminal = false := by
  obtain h | h := h
  · simp [ResearchRequestRow.terminal, h, isTerminalLifecycle]
  · simp [ResearchRequestRow.terminal, h, isTerminalLifecycle]

/-- A caller may rewrite a wedged request only into a wedged request. -/
theorem saveAllowed_wedged {basis row : ResearchRequestRow} (h : rt.SaveAllowed g basis row)
    (hw : basis.waits) (hh : basis.handle = none)
    (hc : ∀ c, g.completed = some c → c.operationId ≠ basis.operationId) :
    row.waits ∧ row.handle = none := by
  have hopen := waits_not_terminal hw
  have hnot : ¬ g.worksOn basis := by
    intro hworks
    obtain hcall | hcall := worksOn_call hworks
    · have hstate := hworks.2.2
      simp only [hcall] at hstate
      obtain hs | hs := hw
      · simp [hs] at hstate
      · simp [hs] at hstate
    · have hstate := hworks.2.2
      simp [hcall, hh] at hstate
  cases h with
  | running observation nowMs hworks hs ho hk => exact absurd hworks hnot
  | touched nowMs hworks hs => exact absurd hworks hnot
  | validating handle answer nowMs hworks hs hcancel he => exact absurd hworks hnot
  | finished state code accounting nowMs ht hcon =>
    have hcall := hcon.2
    cases hg : g.call with
    | submitPending =>
      simp only [hg] at hcall
      obtain ⟨hworks, -⟩ | ⟨c, hdone, hop, -⟩ := hcall
      · exact absurd hworks hnot
      · exact absurd hop (hc c hdone)
    | pollOnce =>
      simp only [hg] at hcall
      obtain ⟨hworks, -⟩ | ⟨c, hdone, hop, -⟩ := hcall
      · exact absurd hworks hnot
      · exact absurd hop (hc c hdone)
    | recover =>
      simp only [hg] at hcall
      obtain hs | hs := hw
      · simp [hs] at hcall
      · simp [hs] at hcall
    | cancel operationId => simp [hg, hh] at hcall
    | _ => simp [hg] at hcall
  | cancelMarked nowMs ho hg ht hnone => exact ⟨Or.inr rfl, hh⟩
  | confirmed confirmedAtMs updatedAtMs hg ho hs hreq =>
    simp [ResearchRequestRow.terminal, hs, isTerminalLifecycle] at hopen
  | cleaned cleanup nowMs hg ht =>
    rw [ht] at hopen
    cases hopen

/-- A wedge is for ever: no effect of any caller undoes it. -/
theorem wedged_step (hm : rt.may g e) (hcoh : Coherent g s) (hcur : Current g s)
    (hc : ∀ c, g.completed = some c → c.operationId ≠ op) (hw : Wedged s op) :
    Wedged (rt.exec env e s).2 op := by
  obtain ⟨hslot, stored, hst, hh, hs⟩ := hw
  have hans := exec_answered rt env e s
  have hrow : ∃ row, (rt.exec env e s).2.request? op = some row ∧ row.handle = none ∧ row.waits := by
    obtain h | ⟨row, rfl, hop, h⟩ | ⟨nowMs, rfl, hadm, h⟩ | ⟨c, recordId, nowMs, rfl, hop, -, h⟩ :=
      answered_request hans hst
    · exact ⟨stored, h, hh, hs⟩
    · obtain ⟨basis, hseen, hsave⟩ := hm
      rw [hop] at hseen
      obtain ⟨stored', hst', hstate, hhandle⟩ := hcur.seen op basis hseen
      cases hst.symm.trans hst'
      have hbasis : basis.waits := by
        unfold ResearchRequestRow.waits
        rw [← hstate]
        exact hs
      obtain ⟨hwaits, hnone⟩ := saveAllowed_wedged hsave hbasis (hhandle ▸ hh) fun c hdone =>
        (hcoh.seen op basis hseen).operationId ▸ hc c hdone
      exact ⟨_, h, hnone, hwaits⟩
    · obtain hs | hs := hs
      · simp [hadm] at hs
      · simp [hadm] at hs
    · exact ⟨_, h, hh, hs⟩
  refine ⟨?_, hrow⟩
  obtain hkept | ⟨row, -, hop, hterm, hreq, -⟩ := answered_slot (g := g) hans hslot
  · exact hkept
  · obtain ⟨row', hrow', -, hwaits⟩ := hrow
    rw [hreq, hst] at hrow'
    cases hrow'
    have hopen := waits_not_terminal hwaits
    rw [ResearchRequestRow.overwrite_terminal, hterm] at hopen
    cases hopen

theorem wedge_preserved (rt : ResearchRuntime) (op : String) :
    Preserved (rt.system always true) (fun s => (Consistent s ∧ SlotNames s) ∧ Wedged s op)
      fun g s => (Coherent g s ∧ Current g s) ∧ ∀ c, g.completed = some c → c.operationId ≠ op := by
  refine (slot_preserved rt always true).and (fun _ _ _ _ _ h => nomatch h)
    (fun g env e s _ hT hw hc hm _ => wedged_step hm hT.1 hT.2 hc hw)
    fun g env e s hI hT hw hc hm _ c hdone => ?_
  obtain hold | rfl := note_completed hdone
  · exact hc c hold
  · -- it completes a request it holds VALIDATING, and the wedged one is not
    obtain ⟨basis, hseen, hval, -, -⟩ := hm
    obtain ⟨stored, hst, hstate, -⟩ := hT.2.seen _ basis hseen
    obtain ⟨-, row, hrow, -, hs⟩ := hw
    rintro rfl
    cases hst.symm.trans hrow
    rw [hstate, hval] at hs
    obtain hs | hs := hs
    · cases hs
    · cases hs

theorem wedged_forever (rt : ResearchRuntime) {s s' : ResearchState} (hc : Consistent s)
    (hn : SlotNames s) (hw : Wedged s op) (h : SeqReachable (rt.system always true) s s') :
    Wedged s' op :=
  ((wedge_preserved rt op).seqReachable (system_obedient rt always true) h ⟨⟨hc, hn⟩, hw⟩).2

/-- A slot that is held can be released unless it is wedged, and then never. -/
theorem releasable_iff (rt : ResearchRuntime) {s : ResearchState} (hc : Consistent s)
    (hn : SlotNames s) (hslot : s.slot = some op) : rt.Releasable s ↔ ¬ Wedged s op := by
  refine ⟨fun ⟨s', hcalls, hfree⟩ hw => ?_, releasable_of_not_wedged hc hn hslot⟩
  have hreach : SeqReachable (rt.system always true) s s' :=
    Relation.ReflTransGen.mono (fun _ _ h => Completed.seqStep (always_permits rt true) h) _ _ hcalls
  have hheld := (wedged_forever rt hc hn hw hreach).1
  rw [hfree] at hheld
  cases hheld

end Traps

section Handled
variable {rt : ResearchRuntime} {g : Memory} {env : Env} {e : Effect} {s : ResearchState}

def ResearchRequestRow.handled (row : ResearchRequestRow) : Prop :=
  row.waits → row.handle.isSome = true

def Handled (s : ResearchState) : Prop := ∀ op row, s.request? op = some row → row.handled

/- A submission answered PENDING or RUNNING has been given a handle. -/
def Memory.given (g : Memory) : Prop :=
  ∀ o, g.observed = some o → o.kind = .pending ∨ o.kind = .running → o.remoteHandle.isSome = true

theorem saveAllowed_handled {basis row : ResearchRequestRow} (h : rt.SaveAllowed g basis row)
    (hb : basis.handled) (ho : g.given)
    (hp : row.state = .cancelRequested → row.handle.isSome = true) : row.handled := by
  intro hw
  have hopen := waits_not_terminal hw
  cases h with
  | running observation nowMs hworks hs hobs hk =>
    have hsome := ho observation hobs hk
    obtain ⟨handle, hh⟩ := Option.isSome_iff_exists.mp hsome
    show (observation.remoteHandle.or basis.record.remoteHandle).isSome = true
    simp [hh]
  | touched nowMs hworks hs => exact hb hw
  | validating handle answer nowMs hworks hs hc he => rfl
  | finished state code accounting nowMs ht hc =>
    have hterm : (basis.finished state code accounting nowMs).terminal = true := ht
    rw [hterm] at hopen
    cases hopen
  | cancelMarked nowMs ho hg ht hc => exact hp rfl
  | confirmed confirmedAtMs updatedAtMs hg ho hs hc => exact hb hw
  | cleaned cleanup nowMs hg ht => exact hb hw

theorem handled_step (hm : rt.may g e) (hp : keepsHandle g env e s) (hcur : Current g s)
    (ho : g.given) (hs : Handled s) : Handled (rt.exec env e s).2 := by
  have hans := exec_answered rt env e s
  intro op row hrow
  cases hst : s.request? op with
  | none =>
    obtain ⟨admitted, reservation, rfl, -, rfl, -⟩ := answered_new hans hst hrow
    obtain ⟨hadm⟩ := hm
    have hstate := admitAllowed_state hadm
    intro hw
    have hw : admitted.state = .running ∨ admitted.state = .cancelRequested := hw
    simp [hstate] at hw
  | some stored =>
    obtain h | ⟨saved, rfl, hop, h⟩ | ⟨nowMs, rfl, hadm, h⟩ | ⟨c, recordId, nowMs, rfl, hop, -, h⟩ :=
      answered_request hans hst
    · cases h.symm.trans hrow
      exact hs op row hst
    · cases h.symm.trans hrow
      obtain ⟨basis, hseen, hsave⟩ := hm
      rw [hop] at hseen
      obtain ⟨stored', hst', hstate, hhandle⟩ := hcur.seen op basis hseen
      cases hst.symm.trans hst'
      have hbasis : basis.handled := by
        have hold := hs op stored hst
        unfold ResearchRequestRow.handled ResearchRequestRow.waits at hold ⊢
        rwa [← hstate, ← hhandle]
      show saved.handled
      exact saveAllowed_handled hsave hbasis ho hp
    · cases h.symm.trans hrow
      intro hw
      obtain hw | hw := hw
      · cases hw
      · cases hw
    · cases h.symm.trans hrow
      exact hs op stored hst

theorem given_own (hp : keepsHandle g env e s) (hg : g.given) :
    (g.note s e (rt.exec env e s).1).given := by
  intro o ho
  cases e with
  | submit request =>
    cases hf : env.fault with
    | true =>
      simp only [ResearchRuntime.exec, Env.answer, hf, Memory.note] at ho
      exact hg o ho
    | false =>
      simp only [ResearchRuntime.exec, Env.answer, hf, Memory.note] at ho
      cases ho
      exact hp hf
  | _ =>
    refine hg o ?_
    rw [← ho]
    unfold Memory.note
    split <;> first | rfl | contradiction

theorem handled_preserved (rt : ResearchRuntime) :
    Preserved (rt.system keepsHandle true) (fun s => (Consistent s ∧ SlotNames s) ∧ Handled s)
      fun g s => (Coherent g s ∧ Current g s) ∧ g.given :=
  (slot_preserved rt keepsHandle true).and (fun _ _ _ _ _ h => nomatch h)
    (fun _ _ _ _ _ hT hs ho hm hp => handled_step hm hp hT.2 ho hs)
    (fun _ _ _ _ _ _ _ ho _ hp => given_own hp ho)

end Handled

/-- Where cancellation marks only requests with a handle and a running submission has
one, no run wedges the slot; in any run, a held slot is stuck exactly when it is wedged. -/
theorem slot_never_wedged (rt : ResearchRuntime) : rt.NeverWedged keepsHandle ∧
    ∀ s op, SeqReachable (rt.system always true) .empty s → s.slot = some op →
      (rt.Releasable s ↔ ¬ Wedged s op) := by
  refine ⟨fun s hs hheld => ?_, fun s op hs hslot => ?_⟩
  · obtain ⟨⟨hc, hn⟩, hhandled⟩ := (handled_preserved rt).seqReachable
      (system_obedient rt keepsHandle true) hs
      ⟨⟨consistent_empty, slotNames_empty⟩, fun _ _ h => nomatch h⟩
    obtain ⟨op, hslot⟩ := Option.ne_none_iff_exists'.mp hheld
    refine releasable_of_not_wedged hc hn hslot fun ⟨_, row, hst, hh, hw⟩ => ?_
    have hsome := hhandled op row hst hw
    rw [hh] at hsome
    cases hsome
  · obtain ⟨hc, hn⟩ := (slot_preserved rt always true).seqReachable
      (system_obedient rt always true) hs ⟨consistent_empty, slotNames_empty⟩
    exact releasable_iff rt hc hn hslot

/- A submission accepted as PENDING with its handle, then marked by a cancellation. -/
def markedSlot : List (Call × List Env) :=
  [taken, (.submitPending, List.replicate 7 env), (.cancel "op-1", List.replicate 4 env)]

theorem marked_slot_releasable : (runtime.afterCalls markedSlot).slot = some "op-1" ∧
    runtime.Releasable (runtime.afterCalls markedSlot) := by
  have hslot : (runtime.afterCalls markedSlot).slot = some "op-1" := by decide +kernel
  have hreach : SeqReachable (runtime.system keepsHandle true) .empty
      (runtime.afterCalls markedSlot) := runtime.afterCalls_permitted (by decide +kernel)
  exact ⟨hslot, (slot_never_wedged runtime).1 _ hreach (by simp [hslot])⟩

/- A cancellation before any submission was claimed. -/
def cancelledSlot : ResearchState := runtime.afterCalls [taken, (.cancel "op-1", List.replicate 3 env)]

theorem cancelled_slot_wedged : ¬ runtime.NeverWedged always := by
  intro h
  have hreach : SeqReachable (runtime.system always true) .empty cancelledSlot :=
    runtime.afterCalls_reachable _
  have hslot : cancelledSlot.slot = some "op-1" := by decide +kernel
  obtain ⟨hc, hn⟩ := (slot_preserved runtime always true).seqReachable
    (system_obedient runtime always true) hreach ⟨consistent_empty, slotNames_empty⟩
  have hstuck : (cancelledSlot.request? "op-1").map (fun row => (row.handle, row.state)) =
      some (none, .cancelRequested) := by decide +kernel
  have hw : Wedged cancelledSlot "op-1" := by
    obtain ⟨row, hst, hrow⟩ := Option.map_eq_some_iff.mp hstuck
    exact ⟨hslot, row, hst, congrArg Prod.fst hrow, Or.inr (congrArg Prod.snd hrow)⟩
  exact (releasable_iff runtime hc hn hslot).mp (h _ hreach (by simp [hslot])) hw

end FrameNest.Research
