import FrameNest.Research.Runs

/-! One generation attempt for each request, and what becomes of an attempt whose
outcome was lost. -/
namespace FrameNest.Research
open Concurrent Sample

/-- The claim is won and no outcome of the submission has been saved. -/
def Memory.awaits (g : Memory) (op : String) : Prop :=
  g.claimed = some op ∧ ∃ basis, g.seen op = some basis ∧ basis.state = .submitting

instance (g : Memory) (op : String) : Decidable (g.awaits op) :=
  decidable_of_iff (g.claimed = some op ∧ (g.seen op).any (·.state = .submitting) = true)
    (by simp [Memory.awaits, Option.any_eq_true])

/- Of unknown outcome, before and after the restart has classified it. -/
def ResearchRequestRow.unresolved (row : ResearchRequestRow) : Prop :=
  row.state = .submitting ∨ row.state = .submissionUnknown

instance (row : ResearchRequestRow) : Decidable row.unresolved :=
  inferInstanceAs (Decidable (_ ∨ _))

/- The recovery of this process has returned, so other callers may start. -/
def recovered (w : Deployment) : Prop :=
  ∃ t ∈ w.threads, t.memory.call = .recover ∧ ∃ value, t.program = .done value

/-- Still SUBMITTING until the restart's recovery has returned, then SUBMISSION_UNKNOWN,
and never submitted again. -/
structure Unanswered (w w' : Deployment) (op : String) : Prop where
  request : ∃ row, w'.state.request? op = some row ∧ row.unresolved ∧
    (recovered w' → row.state = .submissionUnknown)
  submitted : w'.state.submitted.count op = w.state.submitted.count op

/-- Whatever the interleaving and the restarts: no operation is submitted twice, and a
crash that loses the outcome of a submission leaves it unanswered. -/
structure ResearchRuntime.OneAttempt (rt : ResearchRuntime)
    (permits : Memory → Env → Effect → ResearchState → Prop) : Prop where
  once : ∀ w, Reachable (rt.system permits true) .empty w → w.state.submitted.Nodup
  lost : ∀ w w' op, Reachable (rt.system permits true) .empty w →
    (∃ t ∈ w.threads, t.memory.awaits op) →
    Relation.ReflTransGen (Step (rt.system permits true)) ⟨w.state, []⟩ w' → Unanswered w w' op

/- Who may save a request whose outcome is unknown. -/
def Memory.mayClassify (g : Memory) (basis : ResearchRequestRow) : Prop :=
  match g.call with
  | .submitPending | .recover => True
  | .releaseRemotePending _ => basis.state = .submissionUnknown
  | _ => False

instance (g : Memory) (basis : ResearchRequestRow) : Decidable (g.mayClassify basis) := by
  delta Memory.mayClassify
  generalize g.call = c
  apply @Call.casesOn _ c <;> intros <;> infer_instance

/-- While the outcome of its submission is unknown, no cancellation and no poll saves a
request. -/
def respectsSubmission (g : Memory) (_ : Env) (e : Effect) (s : ResearchState) : Prop :=
  match e with
  | .save row => ∀ basis ∈ g.seen row.operationId, ∀ stored ∈ s.request? row.operationId,
    stored.unresolved → g.mayClassify basis
  | _ => True

instance (g : Memory) (env : Env) (e : Effect) (s : ResearchState) :
    Decidable (respectsSubmission g env e s) := by
  delta respectsSubmission
  apply @Effect.casesOn _ e <;> intros <;> infer_instance

section Submitted
variable (rt : ResearchRuntime) (permits : Memory → Env → Effect → ResearchState → Prop)
  {g : Memory} {env : Env} {e : Effect} {s : ResearchState}

structure Sent (s : ResearchState) : Prop where
  nodup : s.submitted.Nodup
  claimed : ∀ op ∈ s.submitted, ∃ stored, s.request? op = some stored ∧ stored.state ≠ .admitted

/- What a claim entitles its winner to. -/
structure Entitled (g : Memory) (s : ResearchState) : Prop where
  unsent : ∀ op, g.claimed = some op → g.sent = false → op ∉ s.submitted
  completes : ∀ c, g.call = .submitPending → g.completed = some c → g.claimed = some c.operationId

/- No two callers have won one claim. -/
def Memory.rivals (g g' : Memory) : Prop := ∀ op, g.claimed = some op → g'.claimed ≠ some op

theorem submits_spec {op : String} (h : op ∈ e.submits) :
    ∃ request, e = .submit request ∧ request.operationId = op := by
  cases e with
  | submit request => exact ⟨request, rfl, (List.mem_singleton.mp h).symm⟩
  | _ => cases h

theorem sent_step (hm : rt.may g e) (hg : Coherent g s) (hs : Sent s) (he : Entitled g s) :
    Sent (rt.exec env e s).2 := by
  have hlog := (exec_logs rt env e s).1
  have hgrow := answered_grows (exec_answered rt env e s) hm
  have hkeep : ∀ op stored, s.request? op = some stored → stored.state ≠ .admitted →
      ∃ stored', (rt.exec env e s).2.request? op = some stored' ∧ stored'.state ≠ .admitted := by
    intro op stored hst hadm
    obtain ⟨stored', hst', -, hback⟩ := hgrow.requests op stored hst
    exact ⟨stored', hst', fun h => hadm (hback h)⟩
  refine ⟨?_, fun op hop => ?_⟩
  · rw [hlog]
    cases e with
    | submit request =>
      obtain ⟨-, hclaimed, hsent⟩ := hm
      have hnew := he.unsent _ hclaimed hsent
      exact List.nodup_append.mpr ⟨hs.nodup, List.nodup_singleton _, fun a ha b hb => by
        rw [List.mem_singleton.mp hb]
        exact fun hab => hnew (hab ▸ ha)⟩
    | _ => simpa [Effect.submits] using hs.nodup
  · rw [hlog, List.mem_append] at hop
    obtain hold | hnew := hop
    · obtain ⟨stored, hst, hadm⟩ := hs.claimed op hold
      exact hkeep op stored hst hadm
    · obtain ⟨request, rfl, rfl⟩ := submits_spec hnew
      obtain ⟨stored, hst, hadm⟩ := hg.claimed _ hm.2.1
      exact hkeep _ stored hst hadm

theorem entitled_own (hm : rt.may g e) (hg : Coherent g s) (hs : Sent s) (he : Entitled g s) :
    Entitled (g.note s e (rt.exec env e s).1) (rt.exec env e s).2 := by
  have hans := exec_answered rt env e s
  have hlog := (exec_logs rt env e s).1
  refine ⟨fun op hc hsent => ?_, fun c hcall hc => ?_⟩
  · rw [hlog, List.mem_append]
    obtain ⟨hkept, hnosend⟩ | ⟨request, rfl, htrue⟩ := note_sent (g := g) (s := s) (e := e)
      (r := (rt.exec env e s).1)
    · rw [hkept] at hsent
      obtain hold | ⟨op', stored, nowMs, rfl, hst, hadm, -, hnew⟩ := note_claimed (g := g) hans
      · rw [hold] at hc
        rintro (hin | hin)
        · exact he.unsent op hc hsent hin
        · rw [hnosend] at hin
          cases hin
      · cases hnew.symm.trans hc
        rintro (hin | hin)
        · obtain ⟨found, hfound, hnot⟩ := hs.claimed op hin
          cases hst.symm.trans hfound
          exact hnot hadm
        · cases hin
    · rw [htrue] at hsent
      cases hsent
  · rw [Memory.note_call] at hcall
    have hclaimed : g.claimed = some c.operationId →
        (g.note s e (rt.exec env e s).1).claimed = some c.operationId := by
      intro hclaimed
      obtain hold | ⟨op', stored, nowMs, rfl, -⟩ := note_claimed (g := g) hans
      · rw [hold]
        exact hclaimed
      · have hnone : g.claimed = none := hm.2.2.2.1
        rw [hnone] at hclaimed
        cases hclaimed
    obtain hold | rfl := note_completed hc
    · exact hclaimed (he.completes c hcall hold)
    · obtain ⟨basis, hseen, -, hw, -⟩ := hm
      have hwork := hw.2.2
      simp only [hcall] at hwork
      rw [(hg.seen _ basis hseen).operationId] at hwork
      exact hclaimed hwork.1

theorem entitled_other {g' : Memory} (hm : rt.may g e) (he : Entitled g' s)
    (hrival : g.rivals g') : Entitled g' (rt.exec env e s).2 := by
  refine ⟨fun op hc hsent => ?_, he.completes⟩
  rw [(exec_logs rt env e s).1, List.mem_append]
  rintro (hin | hin)
  · exact he.unsent op hc hsent hin
  · obtain ⟨request, rfl, rfl⟩ := submits_spec hin
    exact hrival _ hm.2.1 hc

theorem rivals_own {g' : Memory} (hg' : Coherent g' s) (hrival : g.rivals g') :
    (g.note s e (rt.exec env e s).1).rivals g' := by
  intro op hc
  obtain hold | ⟨op', stored, nowMs, rfl, hst, hadm, -, hnew⟩ :=
    note_claimed (g := g) (exec_answered rt env e s)
  · rw [hold] at hc
    exact hrival op hc
  · cases hnew.symm.trans hc
    intro hc'
    obtain ⟨found, hfound, hnot⟩ := hg'.claimed op hc'
    cases hst.symm.trans hfound
    exact hnot hadm

theorem submission_interference (mayCrash : Bool) :
    Interference (rt.system permits mayCrash) (fun s => Consistent s ∧ Sent s)
      (fun g s => Coherent g s ∧ Entitled g s) Memory.rivals := by
  have hbase := (system_interference rt permits mayCrash).relate (A := Memory.rivals)
    (fun _ _ _ => trivial) (fun g g' h op hc hc' => h op hc' hc) (fun c g op hc => nomatch hc)
    (fun g g' env e s _ _ hg' h _ _ => rivals_own rt hg' h)
  have hstart : ∀ c s, Entitled { call := c } s := fun c s =>
    { unsent := fun _ hc => nomatch hc
      completes := fun _ _ hc => nomatch hc }
  exact hbase.and (fun c s _ _ => hstart c s)
    (fun g env e s _ hg hs he hm _ => sent_step rt hm hg hs he)
    (fun g env e s _ hg hs he hm _ => entitled_own rt hm hg hs he)
    (fun g g' env e s _ _ _ _ _ he' hrival hm _ => entitled_other rt hm he' hrival)

theorem sent_empty : Sent ResearchState.empty := ⟨List.nodup_nil, fun _ h => nomatch h⟩

/-- The provider is asked at most once for each operation, in every run. -/
theorem submitted_once {w : Deployment} {mayCrash : Bool}
    (h : Reachable (rt.system permits mayCrash) .empty w) : w.state.submitted.Nodup :=
  (h.sound (submission_interference rt permits mayCrash) (system_obedient rt permits mayCrash)
    ⟨consistent_empty, sent_empty⟩).state.2.nodup

/-- A save that may classify a request its caller has not claimed makes it
SUBMISSION_UNKNOWN. -/
theorem saveAllowed_classify {rt : ResearchRuntime} {basis row : ResearchRequestRow}
    (h : rt.SaveAllowed g basis row) (he : Entitled g s) (hp : g.mayClassify basis)
    (hmine : g.claimed ≠ some basis.operationId) : row.state = .submissionUnknown := by
  have hworks : ¬ g.worksOn basis := by
    intro hw
    have hwork := hw.2.2
    obtain hc | hc := worksOn_call hw
    · simp only [hc] at hwork
      exact hmine hwork.1
    · simp [Memory.mayClassify, hc] at hp
  cases h with
  | running handle nowMs hw hs => exact absurd hw hworks
  | touched nowMs hw hs => exact absurd hw hworks
  | validating handle answer nowMs hw hs hc he => exact absurd hw hworks
  | finished state code accounting nowMs hterm hc =>
    have hcall := hc.2
    cases hg : g.call with
    | submitPending =>
      simp only [hg] at hcall
      obtain hw | ⟨c, hcompl, hop, -⟩ := hcall
      · exact absurd hw.1 hworks
      · rw [← hop] at hmine
        exact absurd (he.completes c hg hcompl) hmine
    | recover =>
      simp only [hg] at hcall
      exact hcall.2.2
    | releaseRemotePending limit => simp [hg] at hcall
    | _ => simp [Memory.mayClassify, hg] at hp
  | cancelMarked nowMs ho hg ht hc => simp [Memory.mayClassify, hg] at hp
  | confirmed confirmedAtMs updatedAtMs hg ho hs hc => simp [Memory.mayClassify, hg] at hp
  | cleaned cleanup nowMs hg hterm =>
    obtain ⟨limit, hg⟩ := hg
    simp only [Memory.mayClassify, hg] at hp
    exact hp

/- Where a claim is held and its outcome is open, the stored request is unresolved. -/
def Attended (g : Memory) (s : ResearchState) : Prop :=
  ∀ op, g.awaits op → ∃ stored, s.request? op = some stored ∧ stored.unresolved

theorem attended_own (hm : rt.may g e) (hg : Attended g s) :
    Attended (g.note s e (rt.exec env e s).1) (rt.exec env e s).2 := by
  have hans := exec_answered rt env e s
  revert hans
  generalize (rt.exec env e s).1 = r
  generalize (rt.exec env e s).2 = s'
  rintro hans op ⟨hclaimed, basis, hseen, hsub⟩
  obtain hold | ⟨op', stored, nowMs, rfl, -, -, hst', hnew⟩ := note_claimed (g := g) hans
  · obtain hbasis | ⟨-, hread⟩ | ⟨rfl, -, -⟩ := note_seen hans hseen
    · rw [hold] at hclaimed
      obtain ⟨stored, hst, hun⟩ := hg op ⟨hclaimed, basis, hbasis, hsub⟩
      obtain h | ⟨row, rfl, hop, h⟩ | ⟨nowMs, -, -, h⟩ | ⟨c, recordId, nowMs, -, -, -, h⟩ :=
        answered_request hans hst
      · exact ⟨stored, h, hun⟩
      · -- a save of its own that went through is what the caller now holds
        cases hans with
        | failed e x s' hsame => exact ⟨stored, by rw [hsame.request?]; exact hst, hun⟩
        | plain e a s' hp hsame => cases hp
        | saved row found hfound hacc =>
          have hrow : basis = row := by
            simpa [Memory.note, Memory.learn, ← hop] using hseen.symm
          obtain ⟨basis', -, hsave⟩ := hm
          exact absurd (Or.inr (hrow ▸ hsub)) (saveAllowed_facts hsave).notFresh
      · exact ⟨_, h, Or.inl rfl⟩
      · exact ⟨_, h, hun⟩
    · exact ⟨basis, hread, Or.inl hsub⟩
    · obtain ⟨basis', -, hsave⟩ := hm
      exact absurd (Or.inr hsub) (saveAllowed_facts hsave).notFresh
  · cases hnew.symm.trans hclaimed
    exact ⟨_, hst', Or.inl rfl⟩

theorem attended_other {g' : Memory} (hm : rt.may g e) (hp : respectsSubmission g env e s)
    (hg : Coherent g s) (he : Entitled g s) (hrival : g.rivals g') (hg' : Attended g' s) :
    Attended g' (rt.exec env e s).2 := by
  intro op hawaits
  obtain ⟨stored, hst, hun⟩ := hg' op hawaits
  obtain h | ⟨row, rfl, rfl, h⟩ | ⟨nowMs, -, -, h⟩ | ⟨c, recordId, nowMs, -, -, -, h⟩ :=
    answered_request (exec_answered rt env e s) hst
  · exact ⟨stored, h, hun⟩
  · obtain ⟨basis, hseen, hsave⟩ := hm
    have hop := (hg.seen _ basis hseen).operationId
    have hmine : g.claimed ≠ some basis.operationId := fun hc =>
      hrival _ hc (hop ▸ hawaits.1)
    have hstate : row.state = .submissionUnknown :=
      saveAllowed_classify hsave he (hp basis hseen stored hst hun) hmine
    exact ⟨stored.overwrite row, h, Or.inr hstate⟩
  · exact ⟨stored.claimed nowMs, h, Or.inl rfl⟩
  · exact ⟨stored.bound recordId nowMs, h, hun⟩

theorem attended_interference (mayCrash : Bool) :
    Interference (rt.system respectsSubmission mayCrash) (fun s => (Consistent s ∧ Sent s) ∧ True)
      (fun g s => (Coherent g s ∧ Entitled g s) ∧ Attended g s) Memory.rivals :=
  (submission_interference rt respectsSubmission mayCrash).and
    (fun _ _ _ _ _ hawaits => nomatch hawaits.1) (fun _ _ _ _ _ _ _ _ _ _ => trivial)
    (fun _ _ _ _ _ _ _ hg hm _ => attended_own rt hm hg)
    (fun _ _ _ _ _ _ hT _ _ _ hg' hrival hm hp =>
      attended_other rt hm hp hT.1 hT.2 hrival hg')

/- After the crash: nobody claims `op` any more, and every row read of it is unresolved. -/
structure Abandoned (op : String) (k : Nat) (s : ResearchState) : Prop where
  request : ∃ stored, s.request? op = some stored ∧ stored.unresolved
  submitted : s.submitted.count op = k

structure Bystander (op : String) (g : Memory) : Prop where
  unclaimed : g.claimed ≠ some op
  seen : ∀ row, g.seen op = some row → row.unresolved

theorem abandoned_request {op : String} (hm : rt.may g e) (hp : respectsSubmission g env e s)
    (hg : Coherent g s) (he : Entitled g s) (hb : Bystander op g) {stored : ResearchRequestRow}
    (hst : s.request? op = some stored) (hun : stored.unresolved) :
    ∃ stored', (rt.exec env e s).2.request? op = some stored' ∧ stored'.unresolved ∧
      (stored.state = .submissionUnknown → stored'.state = .submissionUnknown) := by
  obtain h | ⟨row, rfl, rfl, h⟩ | ⟨nowMs, -, hadm, h⟩ | ⟨c, recordId, nowMs, -, -, -, h⟩ :=
    answered_request (exec_answered rt env e s) hst
  · exact ⟨stored, h, hun, id⟩
  · obtain ⟨basis, hseen, hsave⟩ := hm
    have hop := (hg.seen _ basis hseen).operationId
    have hstate : row.state = .submissionUnknown :=
      saveAllowed_classify hsave he (hp basis hseen stored hst hun) (hop ▸ hb.unclaimed)
    exact ⟨stored.overwrite row, h, Or.inr hstate, fun _ => hstate⟩
  · obtain hs | hs := hun
    · simp [hadm] at hs
    · simp [hadm] at hs
  · exact ⟨stored.bound recordId nowMs, h, hun, id⟩

theorem abandoned_step {op : String} {k : Nat} (hm : rt.may g e)
    (hp : respectsSubmission g env e s) (hg : Coherent g s) (he : Entitled g s)
    (hb : Bystander op g) (hs : Abandoned op k s) : Abandoned op k (rt.exec env e s).2 := by
  obtain ⟨stored, hst, hun⟩ := hs.request
  obtain ⟨stored', hst', hun', -⟩ := abandoned_request rt hm hp hg he hb hst hun
  refine ⟨⟨stored', hst', hun'⟩, ?_⟩
  have hnot : op ∉ e.submits := by
    intro hin
    obtain ⟨request, rfl, rfl⟩ := submits_spec hin
    exact hb.unclaimed hm.2.1
  rw [(exec_logs rt env e s).1, List.count_append, List.count_eq_zero_of_not_mem hnot]
  exact hs.submitted

theorem bystander_own {op : String} {k : Nat} (hm : rt.may g e)
    (hp : respectsSubmission g env e s) (hg : Coherent g s) (he : Entitled g s)
    (hb : Bystander op g) (hs : Abandoned op k s) :
    Bystander op (g.note s e (rt.exec env e s).1) := by
  have hans := exec_answered rt env e s
  obtain ⟨stored, hst, hun⟩ := hs.request
  obtain ⟨stored', hst', hun', -⟩ := abandoned_request rt hm hp hg he hb hst hun
  refine ⟨fun hc => ?_, fun row hseen => ?_⟩
  · obtain hold | ⟨op', found, nowMs, rfl, hfound, hadm, -, hnew⟩ := note_claimed (g := g) hans
    · exact hb.unclaimed (hold ▸ hc)
    · cases hnew.symm.trans hc
      cases hst.symm.trans hfound
      obtain hs | hs := hun
      · simp [hadm] at hs
      · simp [hadm] at hs
  · obtain hold | ⟨-, hread⟩ | ⟨-, -, found, -, hsaved⟩ := note_seen hans hseen
    · exact hb.seen row hold
    · cases hst'.symm.trans hread
      exact hun'
    · cases hst'.symm.trans hsaved
      exact hun'

theorem abandoned_interference (mayCrash : Bool) (op : String) (k : Nat) :
    Interference (rt.system respectsSubmission mayCrash)
      (fun s => (Consistent s ∧ Sent s) ∧ Abandoned op k s)
      (fun g s => (Coherent g s ∧ Entitled g s) ∧ Bystander op g) Memory.rivals :=
  (submission_interference rt respectsSubmission mayCrash).and
    (fun _ _ _ _ =>
      { unclaimed := fun hc => nomatch hc
        seen := fun _ hseen => nomatch hseen })
    (fun _ _ _ _ _ hT hs hb hm hp => abandoned_step rt hm hp hT.1 hT.2 hb hs)
    (fun _ _ _ _ _ hT hs hb hm hp => bystander_own rt hm hp hT.1 hT.2 hb hs)
    (fun _ _ _ _ _ _ _ _ _ _ hb' _ _ _ => hb')

/-- A recovery that returns has classified the abandoned request of the active slot. -/
theorem recover_classifies {envs : List Env} {s s' : ResearchState} {value : CallResult}
    {op : String} {stored : ResearchRequestRow} (hs : Consistent s)
    (hst : s.request? op = some stored) (hsub : stored.state = .submitting)
    (h : Program.run rt.exec envs (rt.program .recover) s = (.done value, s')) :
    ∃ row, s'.request? op = some row ∧ row.state = .submissionUnknown := by
  have hslot : s.slot = some op := hs.fresh op stored hst (Or.inr hsub)
  have hop : stored.operationId = op := ResearchState.request?_operationId hst
  unfold ResearchRuntime.program ResearchRuntime.recover ResearchRuntime.activeRow at h
  simp only [Program.bind_assoc] at h
  obtain ⟨env₁, envs₁, slot, rfl, hr₁, h⟩ := Program.run_perform_done h
  have hslot' : slot = s.slot := Env.answer_ok hr₁
  rw [hslot', hslot] at h
  obtain ⟨env₂, envs₂, row, rfl, hr₂, h⟩ := Program.run_perform_done h
  have hrow : row = s.request? op := Env.answer_ok hr₂
  rw [hrow, hst] at h
  simp only [hsub, if_true, ResearchRuntime.finishUnknown, ResearchRuntime.finish,
    Program.bind_assoc] at h
  obtain ⟨env₃, envs₃, nowMs, rfl, -, h⟩ := Program.run_perform_done h
  obtain ⟨env₄, envs₄, saved, rfl, hr₄, h⟩ := Program.run_perform_done h
  obtain ⟨hsaved, -, hstate⟩ := exec_save_ok hr₄
  obtain ⟨env₅, envs₅, hold, rfl, -, h⟩ := Program.run_perform_done h
  rw [hstate] at h
  have hs' := congrArg Prod.snd h
  simp only [Program.pure_eq, Program.done_bind, Program.run_done] at hs'
  obtain ⟨row', hrow'⟩ : ∃ row', row' = stored.finished .submissionUnknown
    (some .submissionUnknown) .unknown nowMs := ⟨_, rfl⟩
  rw [← hrow'] at hs'
  have hop' : row'.operationId = op := by rw [hrow', ← hop]; rfl
  have hself : (savedState s row').request? op = some (stored.overwrite row') := by
    rw [← hop'] at hst ⊢
    exact savedState_self hst
  have hfinal : s'.request? op = (savedState s row').request? op := by
    rw [← hs', exec_reconcile_request?]
    rfl
  refine ⟨stored.overwrite row', hfinal.trans hself, ?_⟩
  rw [ResearchRequestRow.overwrite_state, hrow']
  rfl

abbrev AfterCrash (op : String) (k : Nat) : Deployment → Prop :=
  Sound (rt.system respectsSubmission true) rt.outcome
    (fun s => (Consistent s ∧ Sent s) ∧ Abandoned op k s)
    (fun g s => (Coherent g s ∧ Entitled g s) ∧ Bystander op g) Memory.rivals

/- How far a restart has come: the request is classified, or only its recovery runs. -/
def Recovering (op : String) (w : Deployment) : Prop :=
  (∃ row, w.state.request? op = some row ∧ row.state = .submissionUnknown) ∨ w.threads = [] ∨
    ∃ envs g p s₀ stored, Consistent s₀ ∧ s₀.request? op = some stored ∧
      stored.state = .submitting ∧ w.threads = [⟨g, p⟩] ∧
      Program.run rt.exec envs (rt.program .recover) s₀ = (p, w.state)

theorem recovering_step {op : String} {k : Nat} {w w' : Deployment}
    (hw : AfterCrash rt op k w) (h : Step (rt.system respectsSubmission true) w w') (hr : Recovering rt op w) :
    Recovering rt op w' := by
  obtain ⟨stored, hst, hun⟩ := hw.state.2.request
  obtain hdone | hempty | ⟨envs, g, p, s₀, stored₀, hs₀, hst₀, hsub₀, hthreads, hrun⟩ := hr
  · obtain ⟨row, hrow, hunknown⟩ := hdone
    left
    obtain hsame | ⟨t, ht, env, e, next, hprogram, hp, hexec⟩ := h.cases_state
    · exact ⟨row, by rw [hsame]; exact hrow, hunknown⟩
    · obtain ⟨hT, hO⟩ := hw.threads t ht
      rw [hprogram] at hO
      obtain ⟨row', hrow', -, hkeep⟩ := abandoned_request rt hO.1 hp hT.1.1 hT.1.2 hT.2 hrow
        (Or.inr hunknown)
      exact ⟨row', by rw [hexec]; exact hrow', hkeep hunknown⟩
  · cases h with
    | start c hstart =>
      rw [hempty] at hstart
      have hc : c = .recover := by simpa [ResearchRuntime.system, startable] using hstart
      subst hc
      obtain hsub | hunknown := hun
      · exact Or.inr (Or.inr ⟨[], _, _, w.state, stored, hw.state.1.1, hst, hsub, by
          rw [hempty]; rfl, Program.run_nil _ _⟩)
      · exact Or.inl ⟨stored, hst, hunknown⟩
    | call n env g e next hn hp => simp [hempty] at hn
    | crash hc => exact Or.inr (Or.inl rfl)
  · cases h with
    | start c hstart =>
      rw [hthreads] at hstart
      cases p with
      | done value => exact Or.inl (recover_classifies rt hs₀ hst₀ hsub₀ hrun)
      | fail x => simp [ResearchRuntime.system, startable] at hstart
      | call e next => simp [ResearchRuntime.system, startable] at hstart
    | call n env g' e next hn hp =>
      rw [hthreads] at hn
      obtain ⟨rfl, hthread⟩ : n = 0 ∧ (⟨g, p⟩ : Thread _ _ _ _ _) = ⟨g', .call e next⟩ := by
        rw [List.getElem?_singleton] at hn
        split at hn
        · rename_i hzero
          exact ⟨hzero, by simpa using hn⟩
        · cases hn
      cases hthread
      refine Or.inr (Or.inr ⟨envs ++ [env], _, _, s₀, stored₀, hs₀, hst₀, hsub₀, by
        rw [hthreads]; rfl, ?_⟩)
      rw [Program.run_append, hrun]
      simp [ResearchRuntime.system, ResearchRuntime.protocol]
    | crash hc => exact Or.inr (Or.inl rfl)

/-- While no cancellation and no poll saves a request of unknown outcome, each request
gets one generation attempt and a lost one is classified, never repeated. -/
theorem one_generation_attempt : rt.OneAttempt respectsSubmission := by
  refine ⟨fun w h => submitted_once rt respectsSubmission h, fun w w' op hreach hlost hsteps => ?_⟩
  obtain ⟨t, ht, hawaits⟩ := hlost
  have hobedient := system_obedient rt respectsSubmission true
  have hw := hreach.sound (attended_interference rt true) hobedient
    ⟨⟨consistent_empty, sent_empty⟩, trivial⟩
  have hrequest := (hw.threads t ht).1.2 op hawaits
  have hinterference := abandoned_interference rt true op (w.state.submitted.count op)
  have hcrashed : AfterCrash rt op (w.state.submitted.count op) ⟨w.state, []⟩ :=
    Sound.init ⟨hw.state.1, hrequest, rfl⟩
  have hw' := hcrashed.steps hinterference hobedient hsteps
  have hrecovering : Recovering rt op w' := by
    clear hw'
    induction hsteps with
    | refl => exact Or.inr (Or.inl rfl)
    | tail hsteps hstep ih =>
      exact recovering_step rt (hcrashed.steps hinterference hobedient hsteps) hstep ih
  obtain ⟨stored, hst, hun⟩ := hw'.state.2.request
  refine ⟨⟨stored, hst, hun, fun hrec => ?_⟩, hw'.state.2.submitted⟩
  have hclassified : ∃ row, w'.state.request? op = some row ∧ row.state = .submissionUnknown := by
    obtain hdone | hempty | ⟨envs, g, p, s₀, stored₀, hs₀, hst₀, hsub₀, hthreads, hrun⟩ :=
      hrecovering
    · exact hdone
    · obtain ⟨t', ht', -⟩ := hrec
      simp [hempty] at ht'
    · obtain ⟨t', ht', -, value, hvalue⟩ := hrec
      rw [hthreads, List.mem_singleton] at ht'
      subst ht'
      cases hvalue
      exact recover_classifies rt hs₀ hst₀ hsub₀ hrun
  obtain ⟨row, hrow, hunknown⟩ := hclassified
  cases hst.symm.trans hrow
  exact hunknown

/-- However the callers are interleaved and cut down by crashes, whatever provider, clock and
database answer: the tables fit each other, no operation is submitted twice, and no request and
no document is lost later on. -/
theorem research_tables_fit (script rest : Script) :
    Consistent (rt.after script).state ∧ (rt.after script).state.submitted.Nodup ∧
      Grows (rt.after script).state (rt.after (script ++ rest)).state := by
  have hreach := rt.after_reachable script
  have hinterference := system_interference rt always true
  have hobedient := system_obedient rt always true
  have hw := hreach.sound hinterference hobedient consistent_empty
  refine ⟨hw.state, submitted_once rt always hreach, ?_⟩
  apply hw.stable (J := Grows (rt.after script).state) hinterference hobedient _
    (rt.after_append script rest)
  · exact Grows.of_same (.refl _)
  · intro g env e s _ _ hm _ hs
    exact hs.trans (answered_grows (exec_answered rt env e s) hm)

end Submitted

/- The submission has been sent when the process dies, its outcome unsaved. -/
def crashMidSubmission : Script := admission ++ .start .submitPending :: calls 2 5 env

def recovery : Script := .start .recover :: calls 0 5 env

theorem lost_submission_unanswered : Unanswered (runtime.after crashMidSubmission)
    (runtime.after (crashMidSubmission ++ [.crash] ++ recovery)) "op-1" := by
  have hsteps : Relation.ReflTransGen (Step (runtime.system respectsSubmission true))
      (runtime.after (crashMidSubmission ++ [.crash]))
      (runtime.after (crashMidSubmission ++ [.crash] ++ recovery)) :=
    runtime.append_permitted (by decide +kernel)
  rw [runtime.after_crash crashMidSubmission] at hsteps
  exact (one_generation_attempt runtime).lost _ _ "op-1"
    (runtime.after_permitted (by decide +kernel)) (by decide +kernel) hsteps

/- The same crash after `cancel` has marked the SUBMITTING request. -/
def cancelledMidSubmission : Script :=
  crashMidSubmission ++ .start (.cancel "op-1") :: calls 3 3 env

theorem lost_submission_unclassified : ¬ runtime.OneAttempt always := by
  intro h
  have hsteps := runtime.after_append (cancelledMidSubmission ++ [.crash]) recovery
  rw [runtime.after_crash cancelledMidSubmission] at hsteps
  have hstate : ((runtime.after (cancelledMidSubmission ++ [.crash] ++ recovery)).state.request?
      "op-1").map (·.state) = some .cancelRequested := by decide +kernel
  obtain ⟨row, hrow, hun, -⟩ := (h.lost _ _ "op-1"
    (runtime.after_reachable cancelledMidSubmission) (by decide +kernel) hsteps).request
  rw [hrow, Option.map_some] at hstate
  obtain hs | hs := hun
  · simp [hs] at hstate
  · simp [hs] at hstate

end FrameNest.Research
