import FrameNest.Capture.Commits

/-! Every call of the manager commits only such changes, each from the pair before. -/
namespace FrameNest.Capture
variable {b : Bridge} {m : Moment} {mem : Memory} {p : Plan}

/-- What a call may plan. -/
structure Planned (m : Moment) (mem : Memory) (p : Plan) : Prop where
  chain : Chain m mem.published p.writes
  first : ∀ w, p.writes.head? = some w → w.held = mem.published

theorem planned_answer (r : Reply) : Planned m mem (mem.answer r) :=
  ⟨trivial, fun _ h => (by cases h)⟩

theorem planned_commit {q : Published} (r : Reply) (h : Commits m mem.published q) :
    Planned m mem (mem.commit q r) := by
  refine ⟨⟨rfl, rfl, h, trivial⟩, fun w hw => ?_⟩
  cases hw
  rfl

section Services
variable {s : Service}

theorem Service.yields_refl (s : Service) : s.Yields s := ⟨rfl, id⟩

/-- A block names an intervention. -/
theorem Service.block_yields (reason : String) (browser : Bool) (fresh : Uuid) :
    s.Yields (s.block reason browser fresh) :=
  ⟨rfl, fun h => ⟨fun _ => rfl, h.runner, h.browser⟩⟩

theorem Service.ready_yields : s.Yields s.ready :=
  ⟨rfl, fun h => ⟨fun hb => (by cases hb), h.runner, h.browser⟩⟩

theorem Service.resume_yields (resumeId : Option String) :
    s.Yields { s with resumeId := resumeId } :=
  ⟨rfl, fun h => ⟨h.intervention, h.runner, h.browser⟩⟩

theorem Service.register_yields {known : KnownHello} (hr : identity known.runnerId = true)
    (hb : identity known.browserSession = true) : s.Yields (s.register known) := by
  refine ⟨rfl, fun h => ⟨h.intervention, fun r hrun => ?_, fun r hbrowser => ?_⟩⟩
  · cases hrun
    exact hr
  · cases hbrowser
    exact hb

theorem Service.Yields.trans {s s' s'' : Service} (h : s.Yields s') (h' : s'.Yields s'') :
    s.Yields s'' := ⟨h'.1.trans h.1, fun hs => h'.2 (h.2 hs)⟩

end Services

/-! The calls that commit at most once. -/

theorem active_of_not_terminal {s : JobStatus} (h : ¬ s.terminal = true) : s.active = true := by
  simpa [JobStatus.terminal] using h

/-- What is known of a request that may be admitted. -/
theorem check_identity {r : JobRequest} {requestId : String} {ask : Immutable}
    (h : r.check = .ok (requestId, ask)) : identity requestId = true := by
  unfold JobRequest.check at h
  split at h
  · cases h
  · split at h
    · cases h
    · cases h
    · split at h
      · cases h
      · cases h
      · split at h
        · rename_i admitted hadmissible
          cases h
          unfold JobRequest.admissible at hadmissible
          split at hadmissible
          · rename_i text prompt hid hprompt
            have hidentity : identity text = true := (Option.filter_eq_some_iff.mp hid).2
            dsimp only at hadmissible
            split at hadmissible
            · split at hadmissible
              · cases hadmissible
                exact hidentity
              · cases hadmissible
            · cases hadmissible
          · cases hadmissible
        · cases h

/-- A job is admitted only by a manager that is available, idle, ready, connected and has
space. -/
theorem refusal_none (h : refusal b m mem = none) :
    mem.unavailable = false ∧ active? mem.jobs = none ∧ mem.service.state = .ready ∧
      mem.connected b (m.clock 0) = true ∧
      (prune (m.wall 0) mem.jobs).length < jobRetentionMaxItems := by
  unfold refusal at h
  split at h
  · cases h
  · rename_i havailable
    split at h
    · cases h
    · rename_i hidle
      split at h
      · cases h
      · split at h
        · cases h
        · rename_i hready
          split at h
          · cases h
          · rename_i hspace
            simp only [not_or, not_not, Bool.not_eq_false] at hready
            refine ⟨by simpa using havailable, by simpa using hidle, hready.1, hready.2, ?_⟩
            omega

theorem createJob_planned {r : JobRequest} (hfresh : m.token ∉ mem.jobs.map (·.jobId))
    (h : createJob b m r mem = .ok p) : Planned m mem p := by
  unfold createJob at h
  split at h
  · cases h
  · rename_i requestId ask hcheck
    split at h
    · split at h
      · cases h
        exact planned_answer _
      · cases h
    · rename_i hnew
      split at h
      · cases h
      · rename_i hrefusal
        split at h
        · cases h
        · rename_i project hproject
          cases h
          obtain ⟨-, hidle, hready, -, hspace⟩ := refusal_none hrefusal
          apply planned_commit
          refine Commits.create b mem.service 0 ask project hidle ?_ (check_identity hcheck) hfresh
            hspace hready
          intro j hj heq
          have hother := List.find?_eq_none.mp hnew j hj
          simp [heq] at hother

section Steps
variable {j j' : Job} {s s' : Service}

theorem JobStep.single (h : JobStep m (j, s) (j', s')) : JobSteps m (j, s) (j', s') := .single h

/-- A step, and then the entry it leaves in the job. -/
theorem JobSteps.noted {j'' : Job} (h : JobSteps m (j, s) (j', s')) (ha : j'.Alike j'') :
    JobSteps m (j, s) (j'', s') := h.tail (.note s' ha)

theorem JobSteps.served {s'' : Service} (h : JobSteps m (j, s) (j', s')) (hy : s'.Yields s'') :
    JobSteps m (j, s) (j', s'') := h.tail (.serve j' hy)

theorem offer_steps (hoffer : j.offerable = true) (hready : s.state = .ready)
    (runnerId epoch : Field String) : JobSteps m (j, s) (j.offer m runnerId epoch, s) := by
  simp only [Job.offerable, Bool.and_eq_true, decide_eq_true_eq, Option.isNone_iff_eq_none] at hoffer
  have hstep : JobSteps m (j, s) _ := JobStep.single
    (.offer s hoffer.1 hoffer.2 hready (m.uuid 0).text runnerId.text? epoch.text?)
  exact hstep.noted (by simp [Job.Alike, Job.offer, Job.event])

theorem terminate_steps (hactive : j.status.active = true) (k i : Nat) (code step : String) :
    JobSteps m (j, s) (j.terminate (m.clock k) (m.wall i) code step, s) :=
  JobStep.single (.finish s hactive k i code step)

theorem cancel_steps (hactive : j.status.active = true) : JobSteps m (j, s) (j.cancel m, s) := by
  unfold Job.cancel
  split
  · exact terminate_steps hactive 0 0 "E_CANCELLED" "cancel"
  · split
    · exact .refl
    · exact JobStep.single (.note s (by simp [Job.Alike]))

/-- The wait of a job that is paused ends, or the job does. -/
theorem unpause_steps {i : Nat} (hj : j.Sound) (hstatus : j.status = .needsAdmin) :
    JobSteps m (j, s) (j.unpause m s i) := by
  obtain ⟨started, hstarted⟩ := Option.isSome_iff_exists.mp (hj.waiting hstatus)
  unfold Job.unpause
  rw [hstarted]
  dsimp only [Option.getD_some]
  split
  · exact terminate_steps (by simp [hstatus, JobStatus.active]) _ _ _ _
  · rename_i hwait
    have hstep : JobSteps m (j, s) _ := JobStep.single
      (.endWait s hstarted (.inr ⟨hstatus, rfl⟩) (2 * i + 1) (Int.not_le.mp hwait))
    refine (hstep.noted ?_).served Service.ready_yields
    simp [Job.Alike, Job.endWait]

theorem pause_steps {reason : String} {i : Nat} (hj : j.Sound) (hstatus : j.status = .running) :
    JobSteps m (j, s) (j.pause m reason i, { s.block reason false (m.uuid (2 * i + 1)) with
      interventionId := (j.pause m reason i).interventionId }) := by
  have hstep : JobSteps m (j, s) _ := JobStep.single
    (.wait s (hj.moving (.inr hstatus)) (.inr ⟨hstatus, rfl⟩) (m.uuid (2 * i)) (2 * i + 1) i)
  refine (hstep.noted ?_).tail (.refuse rfl rfl rfl rfl rfl)
  simp [Job.Alike, Job.wait, Job.pause]

/-- One event of a batch. -/
theorem applyEvent_steps {i : Nat} {type : Field String} {data : EventData} (hj : j.Sound)
    (h : applyEvent m i type data j s = .ok (j', s')) : JobSteps m (j, s) (j', s') := by
  unfold applyEvent at h
  split at h
  · split at h
    · split at h
      · rename_i hstatus
        cases h
        exact (JobStep.single (.accept s hstatus)).noted (by simp [Job.Alike])
      · cases h
    · cases h
  · split at h
    · cases h
    · rename_i hfree
      split at h
      · cases h
      · cases h
        simp only [not_or, not_not] at hfree
        exact (JobStep.single (.send s hfree.1 hfree.2.1)).noted (by simp [Job.Alike])
  · split at h
    · rename_i response hresponse
      split at h
      · rename_i hsent
        cases h
        exact JobStep.single (.confirm s hsent response)
      · cases h
    · cases h
  · split at h
    · rename_i reason hreason
      split at h
      · cases h
      · rename_i hrunning
        split at h
        · cases h
        · cases h
          exact pause_steps hj (not_not.mp hrunning)
    · cases h
  · split at h
    · cases h
    · rename_i hknown
      simp only [not_or, not_not] at hknown
      have hsteps : JobSteps m (j, s) (j.unpause m s i) := unpause_steps hj hknown.1
      rwa [Except.ok.inj h] at hsteps
  · split at h
    · cases h
      exact JobStep.single (.note s (by simp [Job.Alike]))
    · cases h
  · cases h
    exact .refl
  · cases h

/-- A batch of events. -/
theorem applyEvents_steps {i : Nat} {batch : List EventIn} (hj : j.Sound) (hs : s.Sound)
    (h : applyEvents m i batch j s = .ok (j', s')) : JobSteps m (j, s) (j', s') := by
  induction batch generalizing i j s with
  | nil =>
    cases h
    exact .refl
  | cons e rest ih =>
    cases e with
    | malformed => cases h
    | event type data =>
      unfold applyEvents at h
      split at h
      · cases h
      · rename_i j₁ s₁ happlied
        have hsteps := (applyEvent_steps hj happlied).noted
          (j₁.event_alike (type.text?.getD "") (some j₁.phase) none)
        obtain ⟨hj₁, hs₁⟩ := hsteps.sound hj hs
        exact hsteps.trans (ih hj₁ hs₁ h)

theorem deliver_steps {d : Delivery} (hactive : j.status.active = true)
    (h : j.deliver m d = .ok j') : JobSteps m (j, s) (j', s) := by
  unfold Job.deliver at h
  split at h
  · split at h
    · cases h
    · rename_i hsent
      split at h
      · cases h
      · split at h
        · cases h
        · cases h
          exact JobStep.single (.answer s hactive (not_not.mp hsent) 0 _)
  · cases h
    exact terminate_steps hactive 1 0 _ _
  · cases h
    exact terminate_steps hactive 1 0 _ _
  · cases h

end Steps

/-- A call that commits one job. -/
theorem planned_job {j j' : Job} {s' : Service} (r : Reply) (hj : find? mem.jobs j'.jobId = some j)
    (hactive : j.status.active = true) (h : JobSteps m (j, mem.service) (j', s')) :
    Planned m mem (mem.commit ⟨put mem.jobs j', s'⟩ r) :=
  planned_commit r (.job hj hactive h)

theorem nextOffer_planned {kind : String} {runnerId epoch : Field String}
    (hids : (mem.jobs.map (·.jobId)).Nodup)
    (h : nextOffer b m kind runnerId epoch mem = .ok p) : Planned m mem p := by
  unfold nextOffer at h
  split at h
  · cases h
  · split at h
    · cases h
    · split at h
      · rename_i hready
        split at h
        · rename_i original hfound
          cases h
          have hoffer : original.offerable = true := List.find?_some hfound
          have hsteps : JobSteps m (original, mem.service) _ :=
            offer_steps hoffer hready runnerId epoch
          have hfind := mem_find? hids (List.mem_of_find?_eq_some hfound)
          simp only [Job.offerable, Bool.and_eq_true, decide_eq_true_eq] at hoffer
          exact planned_job _ (hsteps.same.jobId ▸ hfind) (by simp [hoffer.1, JobStatus.active])
            hsteps
        · cases h
          exact planned_answer _
      · cases h
        exact planned_answer _

theorem appendEvents_planned {jobId : String} {events : Field (List EventIn)} {e : Envelope}
    (hp : Orderly mem.published) (h : appendEvents b m jobId events e mem = .ok p) :
    Planned m mem p := by
  unfold appendEvents at h
  split at h
  · rename_i batch
    split at h
    · cases h
    · split at h
      · cases h
      · rename_i job hfound
        split at h
        · cases h
        · split at h
          · cases h
            exact planned_answer _
          · rename_i hterminal
            split at h
            · cases h
            · rename_i job' state happlied
              cases h
              have hsteps : JobSteps m (job, mem.service) (_, state) :=
                applyEvents_steps (hp.sound job (find?_mem hfound)) hp.service happlied
              have hnoted : JobSteps m (job, mem.service) ({ job' with
                  lastProgressMono := m.clock (2 * batch.length + 1) }, state) :=
                hsteps.noted (by simp [Job.Alike])
              refine planned_job _ ?_ (active_of_not_terminal hterminal) hnoted
              exact hnoted.same.jobId ▸ find?_id hfound ▸ hfound
  · cases h

theorem resume_planned {r : ResumeRequest} (h : resume m r mem = .ok p) : Planned m mem p := by
  unfold resume at h
  dsimp only at h
  split at h
  · cases h
  · cases h
    exact planned_commit _ (.serve _ (Service.resume_yields _))

theorem resolve_planned {jobId : String} {d : Delivery} (h : resolve b m jobId d mem = .ok p) :
    Planned m mem p := by
  unfold resolve at h
  split at h
  · cases h
  · rename_i job hfound
    split at h
    · cases h
    · split at h
      · cases h
      · rename_i delivery hdelivery
        split at h
        · split at h
          · cases h
          · cases h
            exact planned_answer _
        · rename_i hterminal
          split at h
          · cases h
          · rename_i ended hended
            cases h
            have hactive := active_of_not_terminal hterminal
            have hdelivered : JobSteps m (job, mem.service) (ended, mem.service) :=
              deliver_steps hactive hended
            have hnoted : JobSteps m (job, mem.service) (({ ended with
                deliveryId := some delivery
                deliveryDigest := some (b.digest d) }.event "status" none none), mem.service) :=
              hdelivered.noted (by simp [Job.Alike, Job.event])
            refine planned_job _ ?_ hactive (hnoted.served ?_)
            · exact hnoted.same.jobId ▸ find?_id hfound ▸ hfound
            · split
              · exact Service.block_yields _ _ _
              · exact Service.yields_refl _

theorem cancel_planned {jobId : String} (h : cancel m jobId mem = .ok p) : Planned m mem p := by
  unfold cancel at h
  split at h
  · cases h
  · rename_i job hfound
    split at h
    · cases h
      exact planned_answer _
    · rename_i hterminal
      cases h
      have hactive := active_of_not_terminal hterminal
      have hsteps : JobSteps m (job, mem.service) (job.cancel m, mem.service) :=
        cancel_steps hactive
      exact planned_job _ (hsteps.same.jobId ▸ find?_id hfound ▸ hfound) hactive hsteps

/-! The calls that may commit several times. -/

/-- What was published last. -/
def lastPair (base : Published) (writes : List Write) : Published :=
  (writes.getLast?.map (·.pair)).getD base

theorem lastPair_cons (base : Published) (w : Write) (ws : List Write) :
    lastPair base (w :: ws) = lastPair w.pair ws := by
  unfold lastPair
  rw [List.getLast?_cons]
  cases ws.getLast? <;> rfl

@[simp] theorem lastPair_append (base : Published) (ws : List Write) (w : Write) :
    lastPair base (ws ++ [w]) = w.pair := by
  simp [lastPair]

theorem Chain.append {base : Published} {ws : List Write} {w : Write} (h : Chain m base ws)
    (hjobs : w.held.jobs = (lastPair base ws).jobs)
    (hepoch : w.held.service.epoch = (lastPair base ws).service.epoch)
    (hw : Commits m (lastPair base ws) w.pair) : Chain m base (ws ++ [w]) := by
  induction ws generalizing base with
  | nil => exact ⟨hjobs, hepoch, hw, trivial⟩
  | cons x ws ih =>
    rw [lastPair_cons] at hjobs hepoch hw
    exact ⟨h.1, h.2.1, h.2.2.1, ih h.2.2.2 hjobs hepoch hw⟩

theorem watch_commits {q r : Published} {job : Job} {i : Nat}
    (hfound : find? q.jobs job.jobId = some job) (h : watch b m q job i = some r) :
    Commits m q r ∧ ∀ id, id ≠ job.jobId → find? r.jobs id = find? q.jobs id := by
  unfold watch at h
  split at h
  · cases h
  · rename_i hterminal
    split at h
    · cases h
    · rename_i code hcode
      cases h
      have hactive := active_of_not_terminal hterminal
      have hended : JobSteps m (job, q.service) (_, q.service) :=
        terminate_steps hactive (i + 1) i code "watchdog"
      have hserved : JobSteps m (job, q.service) (job.terminate (m.clock (i + 1)) (m.wall i) code
          "watchdog", if job.status = .queued then q.service
            else q.service.block code false (m.uuid i)) := by
        refine hended.served ?_
        split
        · exact Service.yields_refl _
        · exact Service.block_yields _ _ _
      refine ⟨.job (hended.same.jobId ▸ hfound) hactive hserved, fun id hid => ?_⟩
      exact find?_put_ne (hended.same.jobId ▸ hid)

theorem watchAll_chain {jobs : List Job} {q : Published} {i : Nat}
    (hnodup : (jobs.map (·.jobId)).Nodup) (hjobs : ∀ j ∈ jobs, find? q.jobs j.jobId = some j) :
    Chain m q (watchAll b m q i jobs).2 ∧
      lastPair q (watchAll b m q i jobs).2 = (watchAll b m q i jobs).1 ∧
      ∀ w, (watchAll b m q i jobs).2.head? = some w → w.held = q := by
  induction jobs generalizing q i with
  | nil => exact ⟨trivial, rfl, fun _ h => (by cases h)⟩
  | cons job rest ih =>
    rw [List.map_cons, List.nodup_cons] at hnodup
    unfold watchAll
    split
    · exact ih hnodup.2 fun j hj => hjobs j (List.mem_cons_of_mem _ hj)
    · rename_i r hwatch
      obtain ⟨hcommits, hothers⟩ := watch_commits (hjobs job List.mem_cons_self) hwatch
      have hrest : ∀ j ∈ rest, find? r.jobs j.jobId = some j := by
        intro j hj
        have hne : j.jobId ≠ job.jobId := fun heq => hnodup.1 (heq ▸ List.mem_map_of_mem hj)
        rw [hothers _ hne]
        exact hjobs j (List.mem_cons_of_mem _ hj)
      obtain ⟨hchain, hlast, -⟩ := @ih r (i + 1) hnodup.2 hrest
      refine ⟨⟨rfl, rfl, hcommits, hchain⟩, ?_, fun w hw => ?_⟩
      · rw [lastPair_cons]
        exact hlast
      · cases hw
        rfl

theorem watchdog_planned (hids : (mem.jobs.map (·.jobId)).Nodup) :
    Planned m mem (watchdog b m mem) := by
  have hall := @watchAll_chain b m mem.jobs mem.published 0 hids fun j hj => mem_find? hids hj
  obtain ⟨hchain, hlast, hfirst⟩ := hall
  unfold watchdog
  dsimp only
  split
  · exact ⟨hchain, hfirst⟩
  · refine ⟨hchain.append ?_ ?_ ?_, fun w hw => ?_⟩
    · rw [hlast]
    · rw [hlast]
    · rw [hlast]
      exact .prune _ _ _
    · cases hwrites : (watchAll b m mem.published 0 mem.jobs).2 with
      | nil =>
        rw [hwrites] at hw hlast
        cases hw
        exact hlast.symm
      | cons x ws =>
        rw [hwrites] at hw
        exact hfirst w (by rw [hwrites]; exact hw)

section Hello
variable {l : Losing} {known : KnownHello} {s : Service} {i : Nat} {reply : Reply}
  {lastHello : Option Int}

/-- The loop over a lost runner's jobs, at some round: what it committed last is what it works
on, and nothing was installed before the first commit. -/
structure Losing.Follows (m : Moment) (mem : Memory) (l : Losing) : Prop where
  chain : Chain m mem.published l.writes
  last : lastPair mem.published l.writes = ⟨l.jobs, l.state⟩
  fresh : l.installed = false → l.writes = [] ∧ l.jobs = mem.jobs ∧ l.state = mem.service
  begun : l.installed = true → l.writes ≠ []
  first : ∀ w, l.writes.head? = some w → w.held = mem.published
  epoch : l.state.epoch = mem.service.epoch
  ids : l.jobs.map (·.jobId) = mem.jobs.map (·.jobId)

theorem Losing.Follows.start : Losing.Follows m mem ⟨mem.jobs, mem.service, false, []⟩ :=
  ⟨trivial, rfl, fun _ => ⟨rfl, rfl, rfl⟩, fun h => (by cases h), fun _ h => (by cases h), rfl,
    rfl⟩

/-- One more commit of the call; memory shows the working copy meanwhile, if it was installed. -/
theorem Losing.Follows.write (h : l.Follows m mem) {jobs : List Job} {state : Service}
    (hepoch : state.epoch = l.state.epoch) (hc : Commits m ⟨l.jobs, l.state⟩ ⟨jobs, state⟩) :
    Planned m mem ⟨l.writes ++ [⟨⟨l.jobs, { l with state := state }.shown mem.service⟩,
      ⟨jobs, state⟩⟩], reply, lastHello⟩ := by
  have hshown : ({ l with state := state }.shown mem.service).epoch = l.state.epoch := by
    unfold Losing.shown
    split
    · exact hepoch
    · exact h.epoch.symm
  refine ⟨h.chain.append ?_ ?_ ?_, fun w hw => ?_⟩
  · rw [h.last]
  · rw [h.last]
    exact hshown
  · rw [h.last]
    exact hc
  · cases hinstalled : l.installed with
    | false =>
      obtain ⟨hwrites, hjobs, -⟩ := h.fresh hinstalled
      rw [hwrites] at hw
      cases hw
      simp [Losing.shown, hinstalled, hjobs, Memory.published]
    | true =>
      cases hwrites : l.writes with
      | nil =>
        exact absurd hwrites (h.begun hinstalled)
      | cons x ws =>
        rw [hwrites] at hw
        exact h.first w (by rw [hwrites]; exact hw)

/-- One round of the loop. -/
theorem Losing.Follows.lose (h : l.Follows m mem) {job : Job}
    (hfound : find? l.jobs job.jobId = some job) : (l.lose m mem.service job i).Follows m mem ∧
      ∀ id, id ≠ job.jobId → find? (l.lose m mem.service job i).jobs id = find? l.jobs id := by
  unfold Losing.lose
  split
  · rename_i hflight
    have hactive : job.status.active = true := by
      revert hflight
      cases job.status <;> simp [JobStatus.inFlight, JobStatus.active]
    have hended : JobSteps m (job, l.state) (_, l.state) :=
      terminate_steps hactive (i + 1) i "E_AMBIGUOUS_SEND" "runner_lost"
    have hcommits : Commits m ⟨l.jobs, l.state⟩ ⟨_, l.state.block "E_AMBIGUOUS_SEND" false
        (m.uuid i)⟩ := .job (hended.same.jobId ▸ hfound) hactive
          (hended.served (Service.block_yields _ _ _))
    have hepoch : (l.state.block "E_AMBIGUOUS_SEND" false (m.uuid i)).epoch = l.state.epoch := rfl
    have hplanned : Planned m mem ⟨_, .none, none⟩ := h.write hepoch hcommits
    refine ⟨⟨hplanned.chain, lastPair_append _ _ _, fun hi => (by cases hi), fun _ => by simp,
      hplanned.first, h.epoch, ?_⟩, fun id hid => find?_put_ne (hended.same.jobId ▸ hid)⟩
    rw [← h.ids]
    exact map_id_put_found (hended.same.jobId ▸ hfound)
  · exact ⟨h, fun _ _ => rfl⟩

theorem Losing.Follows.loseAll {jobs : List Job} (h : l.Follows m mem)
    (hnodup : (jobs.map (·.jobId)).Nodup) (hjobs : ∀ j ∈ jobs, find? l.jobs j.jobId = some j) :
    (l.loseAll m mem.service i jobs).Follows m mem := by
  induction jobs generalizing l i with
  | nil => exact h
  | cons job rest ih =>
    rw [List.map_cons, List.nodup_cons] at hnodup
    obtain ⟨hfollows, hothers⟩ := @Losing.Follows.lose m mem l i h job
      (hjobs job List.mem_cons_self)
    refine ih hfollows hnodup.2 fun j hj => ?_
    have hne : j.jobId ≠ job.jobId := fun heq => hnodup.1 (heq ▸ List.mem_map_of_mem hj)
    rw [hothers _ hne]
    exact hjobs j (List.mem_cons_of_mem _ hj)

/-- The queued job after a hello, and the record with it. -/
def Admitted (m : Moment) (s : Service) (queued : Option Job) (next : Service × Option Job) : Prop :=
  match queued with
  | none => next.2 = none ∧ s.Yields next.1
  | some j => ∃ j', next.2 = some j' ∧ JobSteps m (j, s) (j', next.1)

theorem readmit_steps {j : Job} (hqueued : j.status = .queued) :
    JobSteps m (j, s) (j.readmit m i, s) := by
  unfold Job.readmit
  split
  · rename_i started hstarted
    dsimp only
    split
    · exact terminate_steps (by simp [hqueued, JobStatus.active]) _ _ _ _
    · rename_i hwait
      have hstep : JobSteps m (j, s) _ := JobStep.single
        (.endWait s hstarted (.inl ⟨hqueued, rfl⟩) (i + 1) (Int.not_le.mp hwait))
      exact hstep.noted (by simp [Job.Alike, Job.endWait, hqueued])
  · exact .refl

theorem nowReady_admitted {active queued : Option Job}
    (hqueued : ∀ j, queued = some j → j.status = .queued) :
    Admitted m s queued (nowReady m known s active queued i) := by
  unfold nowReady
  split
  · cases queued with
    | none => exact ⟨rfl, Service.ready_yields⟩
    | some j =>
      refine ⟨_, rfl, (readmit_steps (hqueued j rfl)).served ?_⟩
      dsimp only
      split
      · exact Service.ready_yields
      · exact Service.yields_refl _
  · cases queued with
    | none => exact ⟨rfl, Service.yields_refl _⟩
    | some j => exact ⟨j, rfl, .refl⟩

theorem refuse_yields : s.Yields (s.refuse m known i) := by
  have hblock : s.Yields (s.block known.reason (known.state = .browserUnavailable) (m.uuid i)) :=
    Service.block_yields _ _ _
  unfold Service.refuse
  dsimp only
  split
  · exact hblock
  · exact hblock.trans (Service.resume_yields _)

theorem refuse_fields : (s.refuse m known i).epoch = s.epoch ∧
    (s.refuse m known i).runnerId = s.runnerId ∧
      (s.refuse m known i).browserSession = s.browserSession := by
  unfold Service.refuse
  dsimp only
  split
  · exact ⟨rfl, rfl, rfl⟩
  · exact ⟨rfl, rfl, rfl⟩

theorem hold_steps {j : Job} {reason : String} (hqueued : j.status = .queued) :
    JobSteps m (j, s) (j.hold m reason i, s) ∧ (j.hold m reason i).adminStarted.isSome = true := by
  unfold Job.hold
  split
  · rename_i started hstarted
    exact ⟨JobStep.single (.note s (by simp [Job.Alike])), by simp [hstarted]⟩
  · rename_i hfree
    have hstep : JobSteps m (j, s) _ := JobStep.single (.wait s hfree (.inl ⟨hqueued, rfl⟩)
      (m.uuid (i + 1)) (i + 1) i)
    exact ⟨hstep.noted (by simp [Job.Alike, Job.wait, hqueued]), rfl⟩

theorem notReady_admitted {queued : Option Job}
    (hqueued : ∀ j, queued = some j → j.status = .queued) :
    Admitted m s queued (notReady m known s queued i) := by
  cases queued with
  | none => exact ⟨rfl, refuse_yields⟩
  | some j =>
    obtain ⟨hsteps, hpaused⟩ : JobSteps m (j, s) (j.hold m known.reason i, s) ∧ _ :=
      hold_steps (hqueued j rfl)
    obtain ⟨hepoch, hrunner, hbrowser⟩ : (s.refuse m known i).epoch = s.epoch ∧ _ := refuse_fields
    exact ⟨_, rfl, hsteps.tail (.refuse hpaused rfl hepoch hrunner hbrowser)⟩

theorem check_identities {payload : Hello} (h : payload.check = .ok known) :
    identity known.runnerId = true ∧ identity known.browserSession = true := by
  unfold Hello.check at h
  split at h
  · cases h
  · split at h
    · cases h
    · split at h
      · rename_i runnerId browserSession hrunner hbrowser
        split at h
        · split at h
          · split at h
            · cases h
              exact ⟨(Option.filter_eq_some_iff.mp hrunner).2,
                (Option.filter_eq_some_iff.mp hbrowser).2⟩
            · cases h
          · cases h
        · cases h
      · cases h

theorem lostRunner_follows (hids : (mem.jobs.map (·.jobId)).Nodup) :
    (lostRunner m known mem).Follows m mem := by
  unfold lostRunner
  dsimp only
  split
  · exact Losing.Follows.start.loseAll hids fun j hj => mem_find? hids hj
  · exact .start

theorem greeted_commits (h : l.Follows m mem) (hids : (mem.jobs.map (·.jobId)).Nodup)
    (hregistered : l.state.Yields (l.state.register known)) :
    Commits m ⟨l.jobs, l.state⟩ ⟨putAll l.jobs (greeted m known l i).2, (greeted m known l i).1⟩ := by
  have hactive : ∀ j, (active? l.jobs).filter (fun j => j.status = .queued) = some j →
      find? l.jobs j.jobId = some j ∧ j.status = .queued := by
    intro j hj
    obtain ⟨hfound, hqueued⟩ := Option.filter_eq_some_iff.mp hj
    exact ⟨mem_find? (h.ids ▸ hids) (active?_some hfound).1, of_decide_eq_true hqueued⟩
  have hadmitted : Admitted m (l.state.register known)
      ((active? l.jobs).filter fun j => j.status = .queued) (greeted m known l i) := by
    unfold greeted
    dsimp only
    split
    · exact nowReady_admitted fun j hj => (hactive j hj).2
    · exact notReady_admitted fun j hj => (hactive j hj).2
  cases hq : (active? l.jobs).filter fun j => j.status = .queued with
  | none =>
    rw [hq] at hadmitted
    rw [hadmitted.1]
    exact .serve _ (hregistered.trans hadmitted.2)
  | some j =>
    rw [hq] at hadmitted
    obtain ⟨j', hj', hsteps⟩ := hadmitted
    obtain ⟨hfound, hqueued⟩ := hactive j hq
    rw [hj']
    have hall : JobSteps m (j, l.state) (j', (greeted m known l i).1) :=
      .head (.serve j hregistered) hsteps
    exact .job (hall.same.jobId ▸ hfound) (by simp [hqueued, JobStatus.active]) hall

theorem hello_planned {payload : Hello} (hids : (mem.jobs.map (·.jobId)).Nodup)
    (h : hello b m payload mem = .ok p) : Planned m mem p := by
  unfold hello at h
  split at h
  · cases h
  · rename_i known hcheck
    obtain ⟨hrunner, hbrowser⟩ := check_identities hcheck
    dsimp only at h
    split at h
    · cases h
    · cases h
      have hfollows : (lostRunner m known mem).Follows m mem := lostRunner_follows hids
      have hcommits := @greeted_commits m mem _ known mem.jobs.length hfollows hids
        (Service.register_yields hrunner hbrowser)
      exact hfollows.write hcommits.epoch hcommits

end Hello

/-- Every call of the manager. -/
theorem plan_planned {r : Request} (hp : Orderly mem.published)
    (hfresh : m.token ∉ mem.jobs.map (·.jobId)) (h : plan b m r mem = .ok p) : Planned m mem p := by
  cases r with
  | hello payload => exact hello_planned hp.keyed.ids h
  | createJob request => exact createJob_planned hfresh h
  | nextOffer kind runnerId epoch => exact nextOffer_planned hp.keyed.ids h
  | appendEvents jobId events envelope => exact appendEvents_planned hp h
  | resume payload => exact resume_planned h
  | resolve jobId result => exact resolve_planned h
  | cancel jobId => exact cancel_planned h
  | watchdog =>
    cases h
    exact watchdog_planned hp.keyed.ids

end FrameNest.Capture
