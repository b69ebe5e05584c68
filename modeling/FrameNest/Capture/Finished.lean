import FrameNest.Capture.History

/-! A job that has ended. Its record is never written again; what is read of it can still move when
its pause was not closed, which only the delivery of an answer leaves open. -/
namespace FrameNest.Capture
variable {b : Bridge} {m : Moment} {mem : Memory}

/-! What is read of a job. Its kind never varies, and the stamps of its creation and of its last
event, which no decision looks at, are left out. -/

structure JobView where
  jobId : String
  status : JobStatus
  phase : String
  submission : Submission
  interventionId : Option String
  interventionReason : Option String
  adminWait : Int
  cancelRequested : Bool
  requestId : String
  timeoutS : Int
  result : Option JobResult
  resultId : Option String
deriving DecidableEq

/-- `view`, with what `metadata` gives. -/
def Job.view (job : Job) (now : Int) : JobView where
  jobId := job.jobId
  status := job.status
  phase := job.phase
  submission := job.submission
  interventionId := job.interventionId
  interventionReason := job.interventionReason
  adminWait := job.waited now
  cancelRequested := job.cancelRequested
  requestId := job.requestId
  timeoutS := job.timeoutS
  result := job.result
  resultId := job.resultId

/-- `get`. -/
def Memory.get (mem : Memory) (jobId : String) (since : Nat) (now : Int) :
    Except BridgeError (JobView × List JobEvent) :=
  match find? mem.jobs jobId with
  | none => .error missing
  | some job => .ok (job.view now, job.events.filter fun e => since < e.seq)

/-- `result_record`: the text and the address. -/
def Memory.resultRecord (mem : Memory) (resultId : String) :
    Option (Option String × Option String) :=
  match find? mem.jobs resultId with
  | none => none
  | some job =>
    if job.status ≠ .done then none else job.result.map fun result => (result.answer, result.url)

/-- A job that has ended does not wait any more. -/
def Job.Settled (j : Job) : Prop := j.status.terminal = true → j.adminStarted = none

/-- None of the jobs that have ended waits. -/
def Settled (jobs : List Job) : Prop := ∀ j ∈ jobs, j.Settled

section Plans
variable {j : Job} {jobs : List Job} {p : Plan}

theorem Job.Settled.terminate (j : Job) (clock wall : Int) (code step : String) :
    (j.terminate clock wall code step).Settled :=
  fun _ => (j.terminate_fields clock wall code step).2.2.2.2

/- A job that has not ended is settled. -/
theorem Job.Settled.active (h : j.status.active = true) : j.Settled := by
  intro hend
  rw [JobStatus.terminal, h] at hend
  cases hend

/- What holds of the jobs and of one more holds of the jobs with it. -/
theorem put_all {P : Job → Prop} (h : ∀ i ∈ jobs, P i) (hj : P j) : ∀ i ∈ put jobs j, P i := by
  intro i hi
  rcases mem_put.mp hi with rfl | ⟨hi, -⟩
  · exact hj
  · exact h i hi

theorem prune_all {P : Job → Prop} (h : ∀ i ∈ jobs, P i) (wall : Int) : ∀ i ∈ prune wall jobs, P i :=
  fun i hi => h i (List.mem_filter.mp hi).1

/-- All that a call plans to commit has a property. -/
def Plan.Every (P : Job → Prop) (p : Plan) : Prop := ∀ w ∈ p.writes, ∀ j ∈ w.pair.jobs, P j

theorem every_answer (P : Job → Prop) (r : Reply) : (mem.answer r).Every P :=
  fun _ hw => absurd hw List.not_mem_nil

theorem every_commit {P : Job → Prop} {q : Published} (r : Reply) (h : ∀ j ∈ q.jobs, P j) :
    (mem.commit q r).Every P := by
  intro w hw
  rw [List.mem_singleton.mp hw]
  exact h

/-! The calls that go through all jobs keep what their steps keep. -/

section Loops
variable {P : Job → Prop}

def Losing.Every (P : Job → Prop) (l : Losing) : Prop :=
  (∀ j ∈ l.jobs, P j) ∧ ∀ w ∈ l.writes, ∀ j ∈ w.pair.jobs, P j

theorem Losing.Every.lose (hend : ∀ j clock wall code step, P j → P (Job.terminate j clock wall code step))
    {l : Losing} (h : l.Every P) (service : Service) {job : Job} (hjob : P job) (i : Nat) :
    (l.lose m service job i).Every P := by
  unfold Losing.lose
  split
  · have hput := put_all h.1 (hend job (m.clock (i + 1)) (m.wall i) "E_AMBIGUOUS_SEND"
      "runner_lost" hjob)
    refine ⟨hput, ?_⟩
    intro w hw
    rcases List.mem_append.mp hw with hw | hw
    · exact h.2 w hw
    · rw [List.mem_singleton.mp hw]
      exact hput
  · exact h

theorem Losing.Every.loseAll
    (hend : ∀ j clock wall code step, P j → P (Job.terminate j clock wall code step))
    {l : Losing} (h : l.Every P) (service : Service) (i : Nat) {jobs : List Job}
    (hjobs : ∀ j ∈ jobs, P j) : (l.loseAll m service i jobs).Every P := by
  induction jobs generalizing l i with
  | nil => exact h
  | cons job rest ih =>
    have hone := h.lose (m := m) hend service (hjobs job List.mem_cons_self) i
    exact ih hone (i + 1) fun j hj => hjobs j (List.mem_cons_of_mem _ hj)

theorem greeted_every (hhold : ∀ j reason i, P j → j.status = .queued → P (Job.hold m j reason i))
    (hready : ∀ j i, P j → j.status = .queued → P (Job.readmit m j i)) (known : KnownHello)
    {l : Losing} (h : l.Every P) (i : Nat) :
    ∀ job, (greeted m known l i).2 = some job → P job := by
  have hqueued : ∀ job, ((active? l.jobs).filter fun j => j.status = .queued) = some job →
      P job ∧ job.status = .queued := by
    intro job hjob
    obtain ⟨hactive, hstatus⟩ := Option.filter_eq_some_iff.mp hjob
    exact ⟨h.1 job (active?_some hactive).1, by simpa using hstatus⟩
  unfold greeted
  dsimp only
  generalize ((active? l.jobs).filter fun j => j.status = .queued) = queued at hqueued
  intro job hjob
  split at hjob
  · unfold nowReady at hjob
    split at hjob
    · obtain ⟨original, horiginal, rfl⟩ := Option.map_eq_some_iff.mp hjob
      obtain ⟨hp, hstatus⟩ := hqueued original horiginal
      exact hready original i hp hstatus
    · exact (hqueued job hjob).1
  · unfold notReady at hjob
    cases queued with
    | none => cases hjob
    | some original =>
      cases hjob
      obtain ⟨hp, hstatus⟩ := hqueued original rfl
      exact hhold original _ _ hp hstatus

theorem hello_every (hend : ∀ j clock wall code step, P j → P (Job.terminate j clock wall code step))
    (hhold : ∀ j reason i, P j → j.status = .queued → P (Job.hold m j reason i))
    (hready : ∀ j i, P j → j.status = .queued → P (Job.readmit m j i)) {payload : Hello}
    (hmem : ∀ j ∈ mem.jobs, P j) (h : hello b m payload mem = .ok p) : p.Every P := by
  unfold hello at h
  split at h
  · cases h
  · rename_i known hcheck
    split at h
    · cases h
    · cases h
      have hlost : (lostRunner m known mem).Every P := by
        have hstart : Losing.Every P ⟨mem.jobs, mem.service, false, []⟩ :=
          ⟨hmem, fun _ hw => absurd hw List.not_mem_nil⟩
        unfold lostRunner
        dsimp only
        split
        · exact hstart.loseAll hend _ _ hmem
        · exact hstart
      intro w hw
      rcases List.mem_append.mp hw with hw | hw
      · exact hlost.2 w hw
      · rw [List.mem_singleton.mp hw]
        have hnext := greeted_every hhold hready known hlost mem.jobs.length
        cases hjob : (greeted m known (lostRunner m known mem) mem.jobs.length).2 with
        | none => exact hlost.1
        | some job => exact put_all hlost.1 (hnext job hjob)

theorem watchAll_every
    (hend : ∀ j clock wall code step, P j → P (Job.terminate j clock wall code step))
    (b : Bridge) (m : Moment) {jobs : List Job} (hjobs : ∀ j ∈ jobs, P j) (q : Published) (i : Nat)
    (hq : ∀ j ∈ q.jobs, P j) : (∀ j ∈ (watchAll b m q i jobs).1.jobs, P j) ∧
      ∀ w ∈ (watchAll b m q i jobs).2, ∀ j ∈ w.pair.jobs, P j := by
  induction jobs generalizing q i with
  | nil => exact ⟨hq, fun _ hw => absurd hw List.not_mem_nil⟩
  | cons job rest ih =>
    have hrest : ∀ j ∈ rest, P j := fun j hj => hjobs j (List.mem_cons_of_mem _ hj)
    rw [watchAll]
    cases hwatch : watch b m q job i with
    | none => exact ih hrest q (i + 1) hq
    | some next =>
      have hnext : ∀ j ∈ next.jobs, P j := by
        unfold watch at hwatch
        split at hwatch
        · cases hwatch
        · split at hwatch
          · cases hwatch
          · cases hwatch
            exact put_all hq (hend _ _ _ _ _ (hjobs job List.mem_cons_self))
      obtain ⟨hlast, hwrites⟩ := ih hrest next (i + 1) hnext
      refine ⟨hlast, ?_⟩
      intro w hw
      rcases List.mem_cons.mp hw with rfl | hw
      · exact hnext
      · exact hwrites w hw

theorem watchdog_every
    (hend : ∀ j clock wall code step, P j → P (Job.terminate j clock wall code step))
    (hmem : ∀ j ∈ mem.jobs, P j) : (watchdog b m mem).Every P := by
  obtain ⟨hlast, hwrites⟩ := watchAll_every hend b m hmem mem.published 0 hmem
  unfold watchdog
  dsimp only
  split
  · exact hwrites
  · intro w hw
    rcases List.mem_append.mp hw with hw | hw
    · exact hwrites w hw
    · rw [List.mem_singleton.mp hw]
      exact prune_all hlast _

end Loops

theorem hold_fields (j : Job) (reason : String) (i : Nat) :
    (j.hold m reason i).status = j.status ∧ (j.hold m reason i).jobId = j.jobId := by
  unfold Job.hold
  split <;> exact ⟨rfl, rfl⟩

theorem readmit_fields (j : Job) (i : Nat) : (j.readmit m i).jobId = j.jobId ∧
    ((j.readmit m i).status = j.status ∨ (j.readmit m i).adminStarted = none) := by
  unfold Job.readmit
  split
  · dsimp only
    split
    · have hfields := j.terminate_fields (m.clock (i + 2)) (m.wall i) "E_INTERVENTION_TIMEOUT"
        "intervention"
      exact ⟨hfields.1.jobId, Or.inr hfields.2.2.2.2⟩
    · exact ⟨rfl, Or.inl rfl⟩
  · exact ⟨rfl, Or.inl rfl⟩

/-! What a call settles. -/

theorem hello_settled {payload : Hello} (hmem : Settled mem.jobs)
    (h : hello b m payload mem = .ok p) : p.Every Job.Settled := by
  apply hello_every ?_ ?_ ?_ hmem h
  · intro j clock wall code step _
    exact Job.Settled.terminate j clock wall code step
  · intro j reason i _ hqueued
    apply Job.Settled.active
    rw [(hold_fields j reason i).1, hqueued]
    rfl
  · intro j i _ hqueued hend
    rcases (readmit_fields j i).2 with hsame | hnone
    · rw [hsame, hqueued] at hend
      cases hend
    · exact hnone

theorem createJob_settled {r : JobRequest} (hmem : Settled mem.jobs)
    (h : createJob b m r mem = .ok p) : p.Every Job.Settled := by
  unfold createJob at h
  split at h
  · cases h
  · split at h
    · split at h
      · cases h
        exact every_answer _ _
      · cases h
    · split at h
      · cases h
      · split at h
        · cases h
        · cases h
          apply every_commit
          apply put_all (prune_all hmem _)
          apply Job.Settled.active
          rfl

theorem nextOffer_settled {kind : String} {runnerId epoch : Field String} (hmem : Settled mem.jobs)
    (h : nextOffer b m kind runnerId epoch mem = .ok p) : p.Every Job.Settled := by
  unfold nextOffer at h
  split at h
  · cases h
  · split at h
    · cases h
    · split at h
      · split at h
        · cases h
          apply every_commit
          apply put_all hmem
          apply Job.Settled.active
          rfl
        · cases h
          exact every_answer _ _
      · cases h
        exact every_answer _ _

theorem applyEvent_settled {i : Nat} {type : Field String} {data : EventData} {s s' : Service}
    {j' : Job} (hj : j.Settled) (h : applyEvent m i type data j s = .ok (j', s')) : j'.Settled := by
  unfold applyEvent at h
  split at h
  · split at h
    · split at h
      · cases h
        exact Job.Settled.active rfl
      · cases h
    · cases h
  · split at h
    · cases h
    · split at h
      · cases h
      · cases h
        exact hj
  · split at h
    · split at h
      · cases h
        exact hj
      · cases h
    · cases h
  · split at h
    · split at h
      · cases h
      · split at h
        · cases h
        · cases h
          exact Job.Settled.active rfl
    · cases h
  · split at h
    · cases h
    · have hpair := Except.ok.inj h
      unfold Job.unpause at hpair
      dsimp only at hpair
      split at hpair
      · cases hpair
        exact Job.Settled.terminate _ _ _ _ _
      · cases hpair
        exact fun _ => rfl
  · split at h
    · cases h
      exact hj
    · cases h
  · cases h
    exact hj
  · cases h

theorem applyEvents_settled {i : Nat} {batch : List EventIn} {s s' : Service} {j' : Job}
    (hj : j.Settled) (h : applyEvents m i batch j s = .ok (j', s')) : j'.Settled := by
  induction batch generalizing i j s with
  | nil =>
    cases h
    exact hj
  | cons event rest ih =>
    cases event with
    | malformed => cases h
    | event type data =>
      rw [applyEvents] at h
      cases hone : applyEvent m i type data j s with
      | error e =>
        rw [hone] at h
        cases h
      | ok next =>
        simp only [hone] at h
        have hnext : next.1.Settled := applyEvent_settled hj hone
        exact ih (j := next.1.event (type.text?.getD "") (some next.1.phase) none) hnext h

theorem appendEvents_settled {jobId : String} {events : Field (List EventIn)} {e : Envelope}
    (hmem : Settled mem.jobs) (h : appendEvents b m jobId events e mem = .ok p) : p.Every Job.Settled := by
  unfold appendEvents at h
  split at h
  · split at h
    · cases h
    · split at h
      · cases h
      · rename_i job hfound
        split at h
        · cases h
        · split at h
          · cases h
            exact every_answer _ _
          · split at h
            · cases h
            · rename_i next state happlied
              cases h
              have hnext : next.Settled := applyEvents_settled (hmem job (find?_mem hfound)) happlied
              apply every_commit
              apply put_all hmem
              exact hnext
  · cases h

theorem cancel_settled {jobId : String} (hmem : Settled mem.jobs)
    (h : cancel m jobId mem = .ok p) : p.Every Job.Settled := by
  unfold cancel at h
  split at h
  · cases h
  · rename_i job hfound
    split at h
    · cases h
      exact every_answer _ _
    · cases h
      apply every_commit
      apply put_all hmem
      unfold Job.cancel
      split
      · exact Job.Settled.terminate _ _ _ _ _
      · split
        · exact hmem job (find?_mem hfound)
        · exact hmem job (find?_mem hfound)

theorem watchdog_settled (hmem : Settled mem.jobs) : (watchdog b m mem).Every Job.Settled :=
  watchdog_every (fun j clock wall code step _ => Job.Settled.terminate j clock wall code step) hmem

/-- An answer is not delivered for a job whose pause is open. -/
def Memory.AnswersMoving (mem : Memory) : Request → Prop
  | .resolve jobId d => d.status = .value "done" →
      ∀ job, find? mem.jobs jobId = some job → job.status.terminal = true ∨ job.adminStarted = none
  | _ => True

theorem resolve_settled {jobId : String} {d : Delivery} (hmem : Settled mem.jobs)
    (hmoving : mem.AnswersMoving (.resolve jobId d)) (h : resolve b m jobId d mem = .ok p) :
    p.Every Job.Settled := by
  unfold resolve at h
  split at h
  · cases h
  · rename_i job hfound
    split at h
    · cases h
    · split at h
      · cases h
      · rename_i delivery hdelivery
        split at h
        · split at h
          · cases h
          · cases h
            exact every_answer _ _
        · rename_i hactive
          split at h
          · cases h
          · rename_i ended hended
            cases h
            apply every_commit
            apply put_all hmem
            have hsettled : ended.Settled := by
              unfold Job.deliver at hended
              split at hended
              · rename_i hdone
                split at hended
                · cases hended
                · split at hended
                  · cases hended
                  · split at hended
                    · cases hended
                    · cases hended
                      rcases hmoving hdone job hfound with hend | hnone
                      · exact absurd hend hactive
                      · exact fun _ => hnone
              · cases hended
                exact Job.Settled.terminate _ _ _ _ _
              · cases hended
                exact Job.Settled.terminate _ _ _ _ _
              · cases hended
            exact hsettled

/-- A call that delivers no answer for a waiting job settles the jobs it ends. -/
theorem plan_settled {r : Request} (hmem : Settled mem.jobs) (hmoving : mem.AnswersMoving r)
    (h : plan b m r mem = .ok p) : p.Every Job.Settled := by
  cases r with
  | hello payload => exact hello_settled hmem h
  | createJob request => exact createJob_settled hmem h
  | nextOffer kind runnerId epoch => exact nextOffer_settled hmem h
  | appendEvents jobId events envelope => exact appendEvents_settled hmem h
  | resume payload =>
    change resume m payload mem = .ok p at h
    unfold resume at h
    dsimp only at h
    split at h
    · cases h
    · cases h
      exact every_commit _ hmem
  | resolve jobId result => exact resolve_settled hmem hmoving h
  | cancel jobId => exact cancel_settled hmem h
  | watchdog =>
    cases h
    exact watchdog_settled hmem

theorem recover_settled (hj : j.Settled) (i : Nat) : (j.recover m i).1.Settled := by
  unfold Job.recover
  split
  · exact Job.Settled.terminate _ _ _ _ _
  · split
    · rename_i hqueued
      unfold Job.requeue
      dsimp only
      split
      · exact Job.Settled.terminate _ _ _ _ _
      · split
        · exact Job.Settled.terminate _ _ _ _ _
        · apply Job.Settled.active
          have hstatus : (j.carryWait m i).status = j.status := by
            unfold Job.carryWait
            split <;> rfl
          change (j.carryWait m i).status.active = true
          rw [hstatus, hqueued]
          rfl
    · exact hj

theorem recoverJobs_settled {i : Nat} (h : Settled jobs) : Settled (recoverJobs m i jobs).1 := by
  induction jobs generalizing i with
  | nil => exact h
  | cons job rest ih =>
    intro k hk
    rcases List.mem_cons.mp hk with rfl | hk
    · exact recover_settled (h job List.mem_cons_self) i
    · exact ih (fun i hi => h i (List.mem_cons_of_mem _ hi)) k hk

theorem recovery_settled {previous : Option Service} {q : Published} (h : Settled jobs)
    (hq : recovery m jobs previous = .ok q) : Settled q.jobs := by
  rw [(recovery_ok hq).2.1]
  exact prune_all (recoverJobs_settled h) _

/-- A call that commits more than once brings no new job. -/
theorem plan_known {r : Request} (h : plan b m r mem = .ok p) :
    p.writes.length ≤ 1 ∨ p.Every fun j => j.jobId ∈ mem.jobs.map (·.jobId) := by
  have hone : ∀ (q : Published) (r : Reply), (mem.commit q r).writes.length ≤ 1 :=
    fun _ _ => Nat.le_refl 1
  have hnone : ∀ r : Reply, (mem.answer r).writes.length ≤ 1 := fun _ => Nat.zero_le 1
  have hmem : ∀ j ∈ mem.jobs, j.jobId ∈ mem.jobs.map (·.jobId) :=
    fun j hj => List.mem_map_of_mem hj
  have hend : ∀ (j : Job) (clock wall : Int) (code step : String),
      j.jobId ∈ mem.jobs.map (·.jobId) →
      (j.terminate clock wall code step).jobId ∈ mem.jobs.map (·.jobId) := by
    intro j clock wall code step hj
    rw [(j.terminate_fields clock wall code step).1.jobId]
    exact hj
  cases r with
  | hello payload =>
    right
    refine hello_every hend ?_ ?_ hmem h
    · intro j reason i hj _
      rw [(hold_fields j reason i).2]
      exact hj
    · intro j i hj _
      rw [(readmit_fields j i).1]
      exact hj
  | watchdog =>
    right
    cases h
    exact watchdog_every hend hmem
  | createJob request =>
    left
    change createJob b m request mem = .ok p at h
    unfold createJob at h
    split at h
    · cases h
    · split at h
      · split at h
        · cases h
          exact hnone _
        · cases h
      · split at h
        · cases h
        · split at h
          · cases h
          · cases h
            exact hone _ _
  | nextOffer kind runnerId epoch =>
    left
    change nextOffer b m kind runnerId epoch mem = .ok p at h
    unfold nextOffer at h
    split at h
    · cases h
    · split at h
      · cases h
      · split at h
        · split at h <;> cases h
          · exact hone _ _
          · exact hnone _
        · cases h
          exact hnone _
  | appendEvents jobId events envelope =>
    left
    change appendEvents b m jobId events envelope mem = .ok p at h
    unfold appendEvents at h
    split at h
    · split at h
      · cases h
      · split at h
        · cases h
        · split at h
          · cases h
          · split at h
            · cases h
              exact hnone _
            · split at h
              · cases h
              · cases h
                exact hone _ _
    · cases h
  | resume payload =>
    left
    change resume m payload mem = .ok p at h
    unfold resume at h
    dsimp only at h
    split at h
    · cases h
    · cases h
      exact hone _ _
  | resolve jobId result =>
    left
    change resolve b m jobId result mem = .ok p at h
    unfold resolve at h
    split at h
    · cases h
    · split at h
      · cases h
      · split at h
        · cases h
        · split at h
          · split at h
            · cases h
            · cases h
              exact hnone _
          · split at h
            · cases h
            · cases h
              exact hone _ _
  | cancel jobId =>
    left
    change cancel m jobId mem = .ok p at h
    unfold cancel at h
    split at h
    · cases h
    · split at h
      · cases h
        exact hnone _
      · cases h
        exact hone _ _

end Plans

def Process.memory : Process → Option Memory
  | .idle mem => some mem
  | .busy c => some c.memory
  | .gone => none

namespace World
variable {w w' : World} {n k : Nat}

/-- What a process holds in memory, also while it waits for a commit. -/
def memory (w : World) (n : Nat) : Option Memory := (w.processes[n]?).bind Process.memory

/-- No call delivers an answer for a job whose pause is open. -/
def AnswersMoving (w : World) : Move → Prop
  | .call n r _ =>
    match w.processes[n]? with
    | some (.idle mem) => mem.AnswersMoving r
    | _ => True
  | _ => True

/-- Where in the history each process stands: its jobs are those of a durable pair, a process that
started later stands no earlier, and a process that was replaced has an epoch that is over. -/
structure Placed (w : World) (pos : Nat → Nat) : Prop where
  shown : ∀ n mem, w.memory n = some mem →
    ∃ p, w.durable[pos n]? = some p ∧ p.jobs = mem.jobs ∧ p.service.epoch = mem.service.epoch
  order : ∀ n k mem mem', n ≤ k → w.memory n = some mem → w.memory k = some mem' → pos n ≤ pos k
  newest : ∀ n k mem mem' d, n < k → w.memory n = some mem → w.memory k = some mem' →
    w.last = some d → mem.service.epoch ≠ d.service.epoch

/-- The jobs of every pair, and of every pair that waits, are settled. -/
structure AllSettled (w : World) : Prop where
  durable : ∀ p ∈ w.durable, Settled p.jobs
  waiting : ∀ (n : Nat) (c : Running), w.processes[n]? = some (.busy c) →
    ∀ write ∈ c.write :: c.later, Settled write.pair.jobs

/- What a call holds while it waits is of the pair it goes on from. -/
theorem Waits.same {c : Running} (h : Waits c) :
    c.memory.jobs = c.base.jobs ∧ c.memory.service.epoch = c.base.service.epoch := by
  obtain ⟨hjobs, hepoch, -, -⟩ := h.chain
  exact ⟨h.jobs.trans hjobs, by rw [h.service]; exact hepoch⟩

theorem memory_set {p q : Process} (hn : w.processes[n]? = some q)
    (hw : w'.processes = w.processes.set n p) :
    w'.memory = Function.update w.memory n p.memory := by
  unfold memory
  rw [hw]
  exact set_bind _ hn

theorem memory_append {p : Process} (hw : w'.processes = w.processes ++ [p]) :
    w'.memory = Function.update w.memory w.processes.length p.memory := by
  unfold memory
  rw [hw]
  exact append_bind _

theorem Historic.empty : World.empty.Historic :=
  ⟨.nil, .nil, fun n c hn => (by simp [World.empty] at hn)⟩

/-- Nothing becomes durable, and no call begins to wait. -/
theorem Historic.keep (h : w.Historic) (hdurable : w'.durable = w.durable)
    (hbusy : ∀ (k : Nat) (c : Running), w'.processes[k]? = some (.busy c) →
      w.processes[k]? = some (.busy c) ∨ w.Draws c) : w'.Historic := by
  have hlast : w'.last = w.last := by rw [last, last, hdurable]
  refine ⟨hdurable ▸ h.before, hdurable ▸ h.next, ?_⟩
  intro k c hk hbase
  have hdraws : w.Draws c := by
    rcases hbusy k c hk with hold | hdraws
    · exact h.tokens k c hold (hlast ▸ hbase)
    · exact hdraws
  unfold Draws at hdraws ⊢
  rw [hdurable]
  exact hdraws

theorem busy_set {p : Process} (hw : w'.processes = w.processes.set n p)
    (hp : ∀ c : Running, p ≠ .busy c) (k : Nat) (c : Running)
    (hk : w'.processes[k]? = some (.busy c)) : w.processes[k]? = some (.busy c) := by
  rw [hw] at hk
  rcases mem_set hk with heq | hold
  · exact absurd heq.symm (hp c)
  · exact hold

/-- The commit of a call becomes durable. -/
theorem Historic.publish (hinv : w.Inv) (h : w.Historic) {c : Running} {p : Process}
    (hn : w.processes[n]? = some (.busy c)) (hlast : w.last = some c.base)
    (hprocesses : w'.processes = w.processes.set n p)
    (hp : ∀ c' : Running, p = .busy c' → c'.moment = c.moment ∧ c.later = c'.write :: c'.later)
    (hdurable : w'.durable = w.durable ++ [c.write.pair]) : w'.Historic := by
  obtain ⟨-, -, hcommits, -⟩ := (hinv.waits n c hn).chain
  have hkeyed := (hinv.orderly _ (last_mem hlast)).keyed
  have hdraws := h.tokens n c hn hlast
  have hlast' : w'.last = some c.write.pair := by simp [last, hdurable]
  have horigin : ∀ j' ∈ c.write.pair.jobs, (∃ j ∈ c.base.jobs, j.Later j') ∨
      ∀ p ∈ w.durable, j'.jobId ∉ p.jobs.map (·.jobId) := by
    intro j' hj'
    rcases hcommits.origin hkeyed hj' with hold | htoken
    · exact Or.inl hold
    · rcases hdraws with ⟨-, hnew⟩ | hunused
      · right
        intro p hp
        rw [htoken]
        exact hnew p hp
      · exact absurd htoken (hunused c.write List.mem_cons_self j' hj')
  have hnext : c.base.Next c.write.pair := fun hne => absurd hcommits.epoch.symm hne
  obtain ⟨hbefore, hchain⟩ := h.append hlast hkeyed hdurable hnext horigin
  refine ⟨hbefore, hchain, ?_⟩
  intro k c' hk hbase
  rw [hprocesses] at hk
  rcases mem_set hk with heq | hold
  · obtain ⟨hmoment, hlater⟩ := hp c' heq.symm
    rcases hdraws with ⟨hnone, -⟩ | hunused
    · rw [hnone] at hlater
      cases hlater
    · right
      intro write hwrite
      rw [hmoment]
      rw [← hlater] at hwrite
      exact hunused write (List.mem_cons_of_mem _ hwrite)
  · -- another call that waits is of another epoch
    exfalso
    rw [hlast'] at hbase
    have hcopy : w.copies n = some c.base := by simp [copies, hn, Process.copy]
    have hcopy' : w.copies k = some c'.base := by simp [copies, hold, Process.copy]
    have hepoch : c.base.service.epoch = c'.base.service.epoch := by
      rw [← Option.some.inj hbase, hcommits.epoch]
    have hsame : n = k := hinv.fenced.apart n k _ _ hcopy hcopy' hepoch
    subst hsame
    rw [List.getElem?_set_self (List.getElem?_eq_some_iff.mp hn).1] at hk
    obtain ⟨-, hlater⟩ := hp c' (Option.some.inj hk)
    rw [hn] at hold
    cases hold
    have hlength := congrArg List.length hlater
    rw [List.length_cons] at hlength
    omega

/-- A restart publishes what it recovered. -/
theorem Historic.open (hinv : w.Inv) (h : w.Historic) {m : Moment} {q : Published} {p : Process}
    (hq : recovery m w.journal.load.1 w.journal.load.2 = .ok q)
    (hfresh : ∀ r ∈ w.durable, r.service.epoch ≠ q.service.epoch)
    (hbusy : ∀ c : Running, p ≠ .busy c) (hprocesses : w'.processes = w.processes ++ [p])
    (hdurable : w'.durable = w.durable ++ [q]) : w'.Historic := by
  have hlast' : w'.last = some q := by simp [last, hdurable]
  have htokens : ∀ (k : Nat) (c : Running), w'.processes[k]? = some (.busy c) →
      w'.last = some c.base → w'.Draws c := by
    intro k c hk hbase
    exfalso
    rw [hprocesses, List.getElem?_append] at hk
    split at hk
    · have hcopy : w.copies k = some c.base := by simp [copies, hk, Process.copy]
      rw [hlast'] at hbase
      exact hfresh c.base (hinv.known k _ hcopy) (by rw [Option.some.inj hbase])
    · rw [List.getElem?_singleton] at hk
      split at hk
      · exact hbusy c (Option.some.inj hk)
      · cases hk
  cases hlast : w.last with
  | none =>
    have hempty : w.durable = [] := List.getLast?_eq_none_iff.mp hlast
    rw [hempty, List.nil_append] at hdurable
    exact ⟨hdurable ▸ List.pairwise_singleton _ _, hdurable ▸ .singleton _, htokens⟩
  | some d =>
    have horderly := hinv.orderly d (last_mem hlast)
    have hload := hinv.load
    rw [hlast] at hload
    rw [hload] at hq
    have hsource : ∀ j' ∈ q.jobs, ∃ j ∈ d.jobs, Recovered j j' := fun j' hj' =>
      recovery_mem hq horderly.sound hj'
    have hnext : d.Next q := by
      intro _ j hj hflight j' hj' hid
      obtain ⟨i, hi, hrec⟩ := hsource j' hj'
      have hsame : i = j := eq_of_id horderly.keyed.ids hi hj (hrec.same.jobId.symm.trans hid)
      exact hrec.inFlight (hsame ▸ hflight)
    obtain ⟨hbefore, hchain⟩ := h.append hlast horderly.keyed hdurable hnext fun j' hj' => by
      obtain ⟨j, hj, hrec⟩ := hsource j' hj'
      exact Or.inl ⟨j, hj, hrec.later⟩
    exact ⟨hbefore, hchain, htokens⟩

theorem Historic.moved {b : Bridge} (hinv : w.Inv) (h : w.Historic) {mv : Move}
    (hfresh : mv.Fresh w) (hm : Moved b w mv w') : w'.Historic := by
  cases hm with
  | still mv => exact h
  | answered hn hplan hwrites =>
    exact h.keep rfl fun k c hk => Or.inl (busy_set rfl (fun _ hp => (by cases hp)) k c hk)
  | refused hn hplan =>
    exact h.keep rfl fun k c hk => Or.inl (busy_set rfl (fun _ hp => (by cases hp)) k c hk)
  | @began n r m mem p write later hn hplan hwrites havailable hwaits =>
    refine h.keep rfl ?_
    intro k c hk
    rcases mem_set hk with heq | hold
    · right
      cases heq
      have hcopy : w.copies n = some mem.published := by
        simp [copies, hn, Process.copy, havailable]
      have hknown := plan_known hplan
      rw [hwrites] at hknown
      rcases hknown with hone | hall
      · left
        rw [List.length_cons] at hone
        have hlater : later = [] := List.length_eq_zero_iff.mp (by omega)
        exact ⟨hlater, hfresh⟩
      · right
        intro write' hwrite' j hj htoken
        rw [← hwrites] at hwrite'
        have hid : j.jobId ∈ mem.jobs.map (·.jobId) := hall write' hwrite' j hj
        rw [htoken] at hid
        exact hfresh _ (hinv.known n _ hcopy) hid
    · exact Or.inl hold
  | failed hn hrefused =>
    exact h.keep rfl fun k c hk => Or.inl (busy_set rfl (fun _ hp => (by cases hp)) k c hk)
  | lost hn hlast hj => exact h.publish hinv hn hlast rfl (fun _ hp => (by cases hp)) rfl
  | published hn hlast hj hlater =>
    refine h.publish hinv hn hlast rfl ?_ rfl
    intro c' hc'
    cases hc'
    exact ⟨rfl, hlater⟩
  | acknowledged hn hlast hj hlater =>
    exact h.publish hinv hn hlast rfl (fun _ hp => (by cases hp)) rfl
  | crashed n =>
    exact h.keep rfl fun k c hk => Or.inl (busy_set rfl (fun _ hp => (by cases hp)) k c hk)
  | opened hfound hj hnew => exact h.open hinv hfound hnew (fun _ hp => (by cases hp)) rfl rfl
  | openLost hfound hj hnew => exact h.open hinv hfound hnew (fun _ hp => (by cases hp)) rfl rfl
  | openFailed m o =>
    refine h.keep rfl ?_
    intro k c hk
    left
    have hk' : (w.processes ++ [.gone])[k]? = some (.busy c) := hk
    rw [List.getElem?_append] at hk'
    split at hk'
    · exact hk'
    · rw [List.getElem?_singleton] at hk'
      split at hk' <;> cases hk'

/-! Where the processes stand. -/

variable {pos : Nat → Nat}

theorem Placed.lt (h : w.Placed pos) {mem : Memory} (hn : w.memory n = some mem) :
    pos n < w.durable.length := by
  obtain ⟨p, hp, -, -⟩ := h.shown n mem hn
  exact (List.getElem?_eq_some_iff.mp hp).1

/- The epoch of a process is one that became durable. -/
theorem Placed.epoch (h : w.Placed pos) {mem : Memory} (hn : w.memory n = some mem) :
    ∃ p ∈ w.durable, p.service.epoch = mem.service.epoch := by
  obtain ⟨p, hp, -, hepoch⟩ := h.shown n mem hn
  exact ⟨p, List.mem_of_getElem? hp, hepoch⟩

/-- No process holds anything new. -/
theorem Placed.keep (h : w.Placed pos) {held : Option Memory}
    (hmemory : w'.memory = Function.update w.memory n held)
    (hheld : ∀ mem', held = some mem' → ∃ mem, w.memory n = some mem ∧ mem'.jobs = mem.jobs ∧
      mem'.service.epoch = mem.service.epoch)
    {extra : List Published} (hdurable : w'.durable = w.durable ++ extra)
    (hlast : ∀ k l mem mem' d, k < l → w.memory k = some mem → w.memory l = some mem' →
      w'.last = some d → mem.service.epoch ≠ d.service.epoch) :
    w'.Placed pos ∧ ∀ k mem', w'.memory k = some mem' → ∃ mem, w.memory k = some mem := by
  have hold : ∀ k mem', w'.memory k = some mem' → ∃ mem, w.memory k = some mem ∧
      mem'.jobs = mem.jobs ∧ mem'.service.epoch = mem.service.epoch := by
    intro k mem' hk
    rw [hmemory] at hk
    by_cases hkn : k = n
    · subst hkn
      rw [Function.update_self] at hk
      exact hheld mem' hk
    · rw [Function.update_of_ne hkn] at hk
      exact ⟨mem', hk, rfl, rfl⟩
  refine ⟨⟨?_, ?_, ?_⟩, ?_⟩
  · intro k mem' hk
    obtain ⟨mem, hmem, hjobs, hepoch⟩ := hold k mem' hk
    obtain ⟨p, hp, hpjobs, hpepoch⟩ := h.shown k mem hmem
    refine ⟨p, ?_, hpjobs.trans hjobs.symm, hpepoch.trans hepoch.symm⟩
    rw [hdurable]
    exact List.getElem?_append_left (h.lt hmem) ▸ hp
  · intro k l mem mem' hkl hk hl
    obtain ⟨_, hk', -, -⟩ := hold k mem hk
    obtain ⟨_, hl', -, -⟩ := hold l mem' hl
    exact h.order k l _ _ hkl hk' hl'
  · intro k l mem mem' d hkl hk hl hd
    obtain ⟨_, hk', -, hepoch⟩ := hold k mem hk
    obtain ⟨_, hl', -, -⟩ := hold l mem' hl
    rw [hepoch]
    exact hlast k l _ _ d hkl hk' hl' hd
  · intro k mem' hk
    obtain ⟨mem, hmem, -, -⟩ := hold k mem' hk
    exact ⟨mem, hmem⟩

/-- The newest process holds the pair that became durable now. -/
theorem Placed.advance (h : w.Placed pos) {mem' : Memory} {p : Published}
    (hmemory : w'.memory = Function.update w.memory n (some mem'))
    (hjobs : p.jobs = mem'.jobs) (hepoch : p.service.epoch = mem'.service.epoch)
    (hdurable : w'.durable = w.durable ++ [p]) (hlater : ∀ k, n < k → w.memory k = none)
    (hover : ∀ k mem, k < n → w.memory k = some mem → mem.service.epoch ≠ p.service.epoch) :
    w'.Placed (Function.update pos n w.durable.length) := by
  have hlast : w'.last = some p := by simp [last, hdurable]
  have hother : ∀ k mem, k ≠ n → w'.memory k = some mem → w.memory k = some mem ∧ k < n := by
    intro k mem hk hmem
    rw [hmemory, Function.update_of_ne hk] at hmem
    refine ⟨hmem, ?_⟩
    by_contra hnot
    rw [hlater k (by omega)] at hmem
    cases hmem
  have hself : ∀ mem, w'.memory n = some mem → mem = mem' := by
    intro mem hmem
    rw [hmemory, Function.update_self] at hmem
    exact (Option.some.inj hmem).symm
  refine ⟨?_, ?_, ?_⟩
  · intro k mem hk
    by_cases hkn : k = n
    · subst hkn
      rw [hself mem hk, Function.update_self]
      exact ⟨p, by simp [hdurable], hjobs, hepoch⟩
    · obtain ⟨hold, -⟩ := hother k mem hkn hk
      obtain ⟨q, hq, hqjobs, hqepoch⟩ := h.shown k mem hold
      rw [Function.update_of_ne hkn]
      refine ⟨q, ?_, hqjobs, hqepoch⟩
      rw [hdurable]
      exact List.getElem?_append_left (h.lt hold) ▸ hq
  · intro k l mem other hkl hk hl
    by_cases hln : l = n
    · subst hln
      rw [Function.update_self]
      by_cases hkl' : k = l
      · rw [hkl', Function.update_self]
      · obtain ⟨hold, -⟩ := hother k mem hkl' hk
        rw [Function.update_of_ne hkl']
        exact Nat.le_of_lt (h.lt hold)
    · obtain ⟨hold, hlt⟩ := hother l other hln hl
      have hkn : k ≠ n := by omega
      obtain ⟨hold', -⟩ := hother k mem hkn hk
      rw [Function.update_of_ne hln, Function.update_of_ne hkn]
      exact h.order k l _ _ hkl hold' hold
  · intro k l mem other d hkl hk hl hd
    rw [hlast] at hd
    cases hd
    by_cases hkn : k = n
    · subst hkn
      obtain ⟨-, hlt⟩ := hother l other (by omega) hl
      omega
    · obtain ⟨hold, hlt⟩ := hother k mem hkn hk
      exact hover k mem hlt hold

/-- A process stands where it stood or further, or it stands beyond all that was durable. -/
def Forward (w w' : World) (pos pos' : Nat → Nat) : Prop :=
  ∀ k mem', w'.memory k = some mem' →
    (∃ mem, w.memory k = some mem ∧ pos k ≤ pos' k) ∨ w.durable.length ≤ pos' k

theorem Forward.keep (h : ∀ k mem', w'.memory k = some mem' → ∃ mem, w.memory k = some mem) :
    w.Forward w' pos pos := by
  intro k mem' hk
  obtain ⟨mem, hmem⟩ := h k mem' hk
  exact Or.inl ⟨mem, hmem, Nat.le_refl _⟩

theorem Forward.advance {held : Option Memory}
    (hmemory : w'.memory = Function.update w.memory n held) :
    w.Forward w' pos (Function.update pos n w.durable.length) := by
  intro k mem' hk
  by_cases hkn : k = n
  · right
    rw [hkn, Function.update_self]
  · left
    rw [hmemory, Function.update_of_ne hkn] at hk
    rw [Function.update_of_ne hkn]
    exact ⟨mem', hk, Nat.le_refl _⟩

theorem memory_of {q : Process} (hn : w.processes[n]? = some q) : w.memory n = q.memory := by
  unfold memory
  rw [hn]
  rfl

/-- Every move keeps the processes in their places, or moves the newest one forward. -/
theorem Placed.moved {b : Bridge} (hinv : w.Inv) (h : w.Placed pos) {mv : Move}
    (hm : Moved b w mv w') : ∃ pos', w'.Placed pos' ∧ w.Forward w' pos pos' := by
  have hstill : ∀ {q p : Process} {n : Nat} {w' : World}, w.processes[n]? = some q →
      w'.processes = w.processes.set n p → w'.durable = w.durable →
      (∀ mem', p.memory = some mem' → ∃ mem, q.memory = some mem ∧ mem'.jobs = mem.jobs ∧
        mem'.service.epoch = mem.service.epoch) →
      ∃ pos', w'.Placed pos' ∧ w.Forward w' pos pos' := by
    intro q p n w' hn hprocesses hdurable hheld
    have hlast : w'.last = w.last := by rw [last, last, hdurable]
    obtain ⟨hplaced, hsame⟩ := h.keep (memory_set hn hprocesses) (by
      rw [memory_of hn]
      exact hheld) (hdurable.trans (List.append_nil _).symm) (by
      rw [hlast]
      exact h.newest)
    exact ⟨pos, hplaced, .keep hsame⟩
  have hpublish : ∀ {c : Running} {p : Process} {mem' : Memory} {n : Nat} {w' : World},
      w.processes[n]? = some (.busy c) → w.last = some c.base →
      w'.processes = w.processes.set n p → w'.durable = w.durable ++ [c.write.pair] →
      p.memory = some mem' → c.write.pair.jobs = mem'.jobs →
      c.write.pair.service.epoch = mem'.service.epoch →
      ∃ pos', w'.Placed pos' ∧ w.Forward w' pos pos' := by
    intro c p mem' n w' hn hlast hprocesses hdurable hp hjobs hepoch
    have hmemory := memory_set hn hprocesses
    rw [hp] at hmemory
    have hwaits := hinv.waits n c hn
    obtain ⟨-, -, hcommits, -⟩ := hwaits.chain
    have hmem : w.memory n = some c.memory := memory_of hn
    refine ⟨_, h.advance hmemory hjobs hepoch hdurable ?_ ?_, .advance hmemory⟩
    · intro k hk
      cases hkmem : w.memory k with
      | none => rfl
      | some other =>
        exact absurd hwaits.same.2 (h.newest n k _ _ _ hk hmem hkmem hlast)
    · intro k mem hk hkmem
      rw [hcommits.epoch]
      exact h.newest k n _ _ _ hk hkmem hmem hlast
  have hopen : ∀ {q : Published} {mem' : Memory} {p : Process} {w' : World},
      (∀ r ∈ w.durable, r.service.epoch ≠ q.service.epoch) →
      w'.processes = w.processes ++ [p] → w'.durable = w.durable ++ [q] →
      p.memory = some mem' → q.jobs = mem'.jobs → q.service.epoch = mem'.service.epoch →
      ∃ pos', w'.Placed pos' ∧ w.Forward w' pos pos' := by
    intro q mem' p w' hnew hprocesses hdurable hp hjobs hepoch
    have hmemory := memory_append hprocesses
    rw [hp] at hmemory
    refine ⟨_, h.advance hmemory hjobs hepoch hdurable ?_ ?_, .advance hmemory⟩
    · intro k hk
      have hout : w.processes[k]? = none := List.getElem?_eq_none_iff.mpr (by omega)
      simp [memory, hout]
    · intro k mem hk hkmem
      obtain ⟨r, hr, hrepoch⟩ := h.epoch hkmem
      rw [← hrepoch]
      exact hnew r hr
  have hgone : ∀ {w' : World} (extra : List Published),
      w'.processes = w.processes ++ [.gone] → w'.durable = w.durable ++ extra →
      (∀ k mem d, w.memory k = some mem → w'.last = some d → extra ≠ [] →
        mem.service.epoch ≠ d.service.epoch) → ∃ pos', w'.Placed pos' ∧ w.Forward w' pos pos' := by
    intro w' extra hprocesses hdurable hover
    obtain ⟨hplaced, hsame⟩ := h.keep (memory_append hprocesses) (fun _ hp => (by cases hp))
      hdurable (by
        intro k l mem mem' d hkl hk hl hd
        by_cases hextra : extra = []
        · rw [hextra, List.append_nil] at hdurable
          have hlast : w'.last = w.last := by rw [last, last, hdurable]
          rw [hlast] at hd
          exact h.newest k l mem mem' d hkl hk hl hd
        · exact hover k mem d hk hd hextra)
    exact ⟨pos, hplaced, .keep hsame⟩
  cases hm with
  | still mv => exact ⟨pos, h, .keep fun k mem hk => ⟨mem, hk⟩⟩
  | answered hn hplan hwrites =>
    refine hstill hn rfl rfl ?_
    intro mem' hmem'
    cases hmem'
    exact ⟨_, rfl, rfl, rfl⟩
  | refused hn hplan =>
    refine hstill hn rfl rfl ?_
    intro mem' hmem'
    cases hmem'
    exact ⟨_, rfl, rfl, rfl⟩
  | @began n r m mem p write later hn hplan hwrites havailable hwaits =>
    refine hstill hn rfl rfl ?_
    intro mem' hmem'
    cases hmem'
    obtain ⟨-, hheld⟩ := hwaits.fresh rfl
    have hheld : write.held = mem.published := hheld
    exact ⟨mem, rfl, by rw [hheld]; rfl, by rw [hheld]; rfl⟩
  | failed hn hrefused =>
    refine hstill hn rfl rfl ?_
    intro mem' hmem'
    cases hmem'
    exact ⟨_, rfl, rfl, rfl⟩
  | @lost n c j hn hlast hj =>
    obtain ⟨-, -, hcommits, -⟩ := (hinv.waits n c hn).chain
    have hmemory : ((w.publish j c.write.pair).finish n c.request c.moment c.began
        (.error journalUnavailable) { c.memory with unavailable := true }).memory =
        Function.update w.memory n (some { c.memory with unavailable := true }) :=
      memory_set (p := .idle { c.memory with unavailable := true }) hn rfl
    obtain ⟨hplaced, hsame⟩ := h.keep hmemory (by
        rw [memory_of hn]
        intro mem' hmem'
        cases hmem'
        exact ⟨_, rfl, rfl, rfl⟩) rfl (by
        intro k l mem mem' d hkl hk hl hd
        have hd' : d = c.write.pair := by
          have hpair : World.last (World.publish w j c.write.pair) = some d := hd
          simpa [last, publish] using hpair.symm
        rw [hd', hcommits.epoch]
        exact h.newest k l mem mem' _ hkl hk hl hlast)
    exact ⟨pos, hplaced, .keep hsame⟩
  | @published n c j write later hn hlast hj hlater =>
    have hwaits := hinv.waits n c hn
    obtain ⟨-, -, -, hrest⟩ := hwaits.chain
    rw [hlater] at hrest
    exact hpublish hn hlast rfl rfl rfl hrest.1.symm hrest.2.1.symm
  | acknowledged hn hlast hj hlater => exact hpublish hn hlast rfl rfl rfl rfl rfl
  | crashed n =>
    cases hn : w.processes[n]? with
    | none =>
      have hsame : w.processes.set n .gone = w.processes :=
        List.set_eq_of_length_le (List.getElem?_eq_none_iff.mp hn)
      rw [become, hsame]
      exact ⟨pos, h, .keep fun k mem hk => ⟨mem, hk⟩⟩
    | some q => exact hstill hn rfl rfl fun _ hp => (by cases hp)
  | opened hfound hj hnew => exact hopen hnew rfl rfl rfl rfl rfl
  | @openLost m p j hfound hj hnew =>
    refine hgone [p] rfl rfl ?_
    intro k mem d hk hd _
    have hd' : d = p := by
      have hpair : World.last (World.publish w j p) = some d := hd
      simpa [last, publish] using hpair.symm
    obtain ⟨r, hr, hrepoch⟩ := h.epoch hk
    rw [← hrepoch, hd']
    exact hnew r hr
  | openFailed m o =>
    exact hgone [] rfl (List.append_nil _).symm fun _ _ _ _ _ hne => absurd rfl hne

theorem Placed.empty : World.empty.Placed fun _ => 0 :=
  ⟨fun n mem hn => (by simp [memory, World.empty] at hn),
    fun n k mem mem' _ hn => (by simp [memory, World.empty] at hn),
    fun n k mem mem' d _ hn => (by simp [memory, World.empty] at hn)⟩

/-! The jobs that have ended are settled. -/

theorem AllSettled.empty : World.empty.AllSettled :=
  ⟨fun _ hp => (by cases hp), fun n c hn => (by simp [World.empty] at hn)⟩

theorem AllSettled.moved {b : Bridge} (hinv : w.Inv) (hplaced : w.Placed pos) (h : w.AllSettled)
    {mv : Move} (hallowed : w.AnswersMoving mv) (hm : Moved b w mv w') : w'.AllSettled := by
  have hset : ∀ {p : Process} {n : Nat} {w' : World}, w'.processes = w.processes.set n p →
      (∀ q ∈ w'.durable, Settled q.jobs) →
      (∀ c : Running, p = .busy c → ∀ write ∈ c.write :: c.later, Settled write.pair.jobs) →
      w'.AllSettled := by
    intro p n w' hprocesses hdurable hp
    refine ⟨hdurable, ?_⟩
    intro k c hk
    rw [hprocesses] at hk
    rcases mem_set hk with heq | hold
    · exact hp c heq.symm
    · exact h.waiting k c hold
  have hmore : ∀ {q : Published}, Settled q.jobs → ∀ r ∈ w.durable ++ [q], Settled r.jobs := by
    intro q hq r hr
    rcases List.mem_append.mp hr with hr | hr
    · exact h.durable r hr
    · rw [List.mem_singleton.mp hr]
      exact hq
  have happend : ∀ {p : Process} {w' : World}, w'.processes = w.processes ++ [p] →
      (∀ c : Running, p ≠ .busy c) → (∀ q ∈ w'.durable, Settled q.jobs) → w'.AllSettled := by
    intro p w' hprocesses hp hdurable
    refine ⟨hdurable, ?_⟩
    intro k c hk
    rw [hprocesses, List.getElem?_append] at hk
    split at hk
    · exact h.waiting k c hk
    · rw [List.getElem?_singleton] at hk
      split at hk
      · exact absurd (Option.some.inj hk) (hp c)
      · cases hk
  have hrecovered : ∀ {m : Moment} {q : Published},
      recovery m w.journal.load.1 w.journal.load.2 = .ok q → Settled q.jobs := by
    intro m q hq
    rw [hinv.load] at hq
    cases hlast : w.last with
    | none =>
      rw [hlast] at hq
      exact recovery_settled (fun _ hj => absurd hj List.not_mem_nil) hq
    | some d =>
      rw [hlast] at hq
      exact recovery_settled (h.durable d (last_mem hlast)) hq
  cases hm with
  | still mv => exact h
  | answered hn hplan hwrites => exact hset rfl h.durable fun _ hc => (by cases hc)
  | refused hn hplan => exact hset rfl h.durable fun _ hc => (by cases hc)
  | @began n r m mem p write later hn hplan hwrites havailable hwaits =>
    refine hset rfl h.durable ?_
    intro c hc write' hwrite'
    cases hc
    have hmem : Settled mem.jobs := by
      obtain ⟨q, hq, hjobs, -⟩ := hplaced.shown n mem (memory_of hn)
      rw [← hjobs]
      exact h.durable q (List.mem_of_getElem? hq)
    have hmoving : mem.AnswersMoving r := by
      unfold AnswersMoving at hallowed
      simp only [hn] at hallowed
      exact hallowed
    rw [← hwrites] at hwrite'
    exact plan_settled hmem hmoving hplan write' hwrite'
  | failed hn hrefused => exact hset rfl h.durable fun _ hc => (by cases hc)
  | lost hn hlast hj =>
    exact hset rfl (hmore (h.waiting _ _ hn _ List.mem_cons_self)) fun _ hc => (by cases hc)
  | @published n c j write later hn hlast hj hlater =>
    refine hset rfl (hmore (h.waiting _ _ hn _ List.mem_cons_self)) ?_
    intro c' hc' write' hwrite'
    cases hc'
    apply h.waiting _ _ hn
    rw [hlater]
    exact List.mem_cons_of_mem _ hwrite'
  | acknowledged hn hlast hj hlater =>
    exact hset rfl (hmore (h.waiting _ _ hn _ List.mem_cons_self)) fun _ hc => (by cases hc)
  | crashed n => exact hset rfl h.durable fun _ hc => (by cases hc)
  | opened hfound hj hnew =>
    exact happend rfl (fun _ hp => (by cases hp)) (hmore (hrecovered hfound))
  | openLost hfound hj hnew =>
    exact happend rfl (fun _ hp => (by cases hp)) (hmore (hrecovered hfound))
  | openFailed m o => exact happend rfl (fun _ hp => (by cases hp)) h.durable

end World

/-- Runs that go on from a world. -/
inductive Leads (b : Bridge) (allowed : World → Move → Prop) (w : World) : World → Prop
  | here : Leads b allowed w w
  | move {w' : World} (h : Leads b allowed w w') {mv : Move} (hfresh : mv.Fresh w')
      (hallowed : allowed w' mv) : Leads b allowed w (w'.move b mv)

theorem Reachable.leads {b : Bridge} {allowed : World → Move → Prop} {w w' : World}
    (h : Reachable b allowed w) (hrun : Leads b allowed w w') : Reachable b allowed w' := by
  induction hrun with
  | here => exact h
  | move _ hfresh hallowed ih => exact ih.move hfresh hallowed

theorem Leads.script {b : Bridge} {allowed : World → Move → Prop} {w w' : World}
    (h : Leads b allowed w w') {moves : List Move} (hmoves : Follows b allowed w' moves) :
    Leads b allowed w (moves.foldl (fun w mv => w.move b mv) w') := by
  induction moves generalizing w' with
  | nil => exact h
  | cons mv rest ih => exact ih (h.move hmoves.1 hmoves.2.1) hmoves.2.2

/-- A job that has ended, as the same process or a later one holds it afterwards: its record is the
same, what is read of it is the same at any time, and of deliveries only the recorded one passes. -/
structure Frozen (b : Bridge) (mem mem' : Memory) (j : Job) : Prop where
  record : find? mem'.jobs j.jobId = some j
  view : ∀ since now now', mem'.get j.jobId since now' = mem.get j.jobId since now
  result : mem'.resultRecord j.jobId = mem.resultRecord j.jobId
  repeated : ∀ m d, d.deliveryId.identity?.isSome = true → d.deliveryId.text? = j.deliveryId →
    j.deliveryDigest = some (b.digest d) → fenceError b m mem' j d.envelope = none →
    resolve b m j.jobId d mem' = .ok (mem'.answer (.status j.status))
  differing : ∀ m d, j.deliveryId.isSome = true →
    d.deliveryId.text? ≠ j.deliveryId ∨ j.deliveryDigest ≠ some (b.digest d) →
    ∃ e, resolve b m j.jobId d mem' = .error e

/-- From one world to a later one, whatever job has ended stays as it is until it is removed. -/
def KeepsFrozen (b : Bridge) (w w' : World) : Prop :=
  ∀ (n k : Nat) (mem mem' : Memory) (j : Job), n ≤ k → w.processes[n]? = some (.idle mem) →
    w'.processes[k]? = some (.idle mem') → find? mem.jobs j.jobId = some j →
    j.status.terminal = true → (find? mem'.jobs j.jobId).isSome = true → Frozen b mem mem' j

section Frozen
variable {b : Bridge} {w w' : World}

/-- What a job that has ended answers to a delivery. -/
theorem resolve_ended (b : Bridge) {mem : Memory} {j : Job} (hj : find? mem.jobs j.jobId = some j)
    (hend : j.status.terminal = true) (m : Moment) (d : Delivery) :
    resolve b m j.jobId d mem =
      match fenceError b m mem j d.envelope with
      | some e => .error e
      | none =>
        match d.deliveryId.identity? with
        | none => .error (failure "E_INTERNAL" "result" 400)
        | some delivery =>
          if j.deliveryId.isSome ∧ (j.deliveryId ≠ some delivery ∨
              j.deliveryDigest ≠ some (b.digest d)) then
            .error (failure "E_IDEMPOTENCY_CONFLICT" "result")
          else .ok (mem.answer (.status j.status)) := by
  rw [resolve, hj]
  cases hfence : fenceError b m mem j d.envelope with
  | some e => simp only [hfence]
  | none =>
    cases hid : d.deliveryId.identity? with
    | none => simp only [hfence]
    | some delivery => simp only [hfence, hend, if_true]

theorem frozen_of_settled {mem mem' : Memory} {j : Job} (hj : find? mem.jobs j.jobId = some j)
    (hj' : find? mem'.jobs j.jobId = some j) (hend : j.status.terminal = true)
    (hsettled : j.Settled) : Frozen b mem mem' j := by
  have hnone := hsettled hend
  refine ⟨hj', ?_, ?_, ?_, ?_⟩
  · intro since now now'
    have hview : j.view now' = j.view now := by
      unfold Job.view Job.waited
      rw [hnone]
    simp only [Memory.get, hj, hj', hview]
  · simp only [Memory.resultRecord, hj, hj']
  · intro m d hidentity hid hdigest hfence
    obtain ⟨delivery, hdelivery⟩ := Option.isSome_iff_exists.mp hidentity
    have htext : d.deliveryId.text? = some delivery := (Option.filter_eq_some_iff.mp hdelivery).1
    rw [resolve_ended b hj' hend, hfence, hdelivery]
    dsimp only
    rw [if_neg]
    rintro ⟨-, hne | hne⟩
    · exact hne (hid.symm.trans htext)
    · exact hne hdigest
  · intro m d hrecorded hne
    rw [resolve_ended b hj' hend]
    cases fenceError b m mem' j d.envelope with
    | some e => exact ⟨e, rfl⟩
    | none =>
      dsimp only
      cases hdelivery : d.deliveryId.identity? with
      | none => exact ⟨_, rfl⟩
      | some delivery =>
        have htext : d.deliveryId.text? = some delivery :=
          (Option.filter_eq_some_iff.mp hdelivery).1
        refine ⟨_, if_pos ⟨hrecorded, ?_⟩⟩
        rcases hne with hne | hne
        · left
          intro heq
          exact hne (htext.trans heq.symm)
        · exact Or.inr hne

/-- What holds of every run in which no answer is delivered for a job whose pause is open. -/
theorem Reachable.placed (h : Reachable b World.AnswersMoving w) :
    w.Historic ∧ w.AllSettled ∧ ∃ pos, w.Placed pos := by
  apply h.induct (P := fun w => w.Historic ∧ w.AllSettled ∧ ∃ pos, w.Placed pos)
    ⟨.empty, .empty, _, .empty⟩
  intro w mv hinv hlaws hfresh hallowed
  obtain ⟨hhistoric, hsettled, pos, hplaced⟩ := hlaws
  have hmoved := World.move_moved (b := b) hinv hfresh
  obtain ⟨pos', hplaced', -⟩ := hplaced.moved hinv hmoved
  exact ⟨hhistoric.moved hinv hfresh hmoved, hsettled.moved hinv hplaced hallowed hmoved, pos',
    hplaced'⟩

/-- A process that holds jobs later in a run stands no earlier than those before it stood. -/
theorem Leads.forward {allowed : World → Move → Prop} (h : Reachable b allowed w)
    {pos : Nat → Nat} (hplaced : w.Placed pos) (hrun : Leads b allowed w w') :
    w.durable <+: w'.durable ∧ ∃ pos', w'.Placed pos' ∧
      ∀ n k mem mem', n ≤ k → w.memory n = some mem → w'.memory k = some mem' → pos n ≤ pos' k := by
  induction hrun with
  | here => exact ⟨List.prefix_refl _, pos, hplaced, hplaced.order⟩
  | @move w' hrun mv hfresh hallowed ih =>
    obtain ⟨hgrown, pos', hplaced', hforward⟩ := ih
    have hinv := (h.leads hrun).inv
    have hmoved := World.move_moved (b := b) hinv hfresh
    obtain ⟨pos'', hplaced'', hstep⟩ := hplaced'.moved hinv hmoved
    have hmore : w'.durable <+: (w'.move b mv).durable := by
      generalize w'.move b mv = next at hmoved
      cases hmoved <;> simp [World.finish, World.become, World.publish]
    refine ⟨hgrown.trans hmore, pos'', hplaced'', ?_⟩
    intro n k mem mem'' hnk hn hk
    rcases hstep k mem'' hk with ⟨mem', hk', hle⟩ | hbeyond
    · exact Nat.le_trans (hforward n k mem mem' hnk hn hk') hle
    · have hlt := hplaced.lt hn
      have hlength := hgrown.length_le
      omega

/-- In every run in which no answer is delivered for a job whose pause is open, a job that has
ended is frozen until it is removed. -/
theorem finished_jobs_frozen (h : Reachable b World.AnswersMoving w)
    (hrun : Leads b World.AnswersMoving w w') : KeepsFrozen b w w' := by
  intro n k mem mem' j hnk hn hk hj hend hkept
  obtain ⟨-, hsettled, pos, hplaced⟩ := h.placed
  obtain ⟨hhistoric, -, -⟩ := (h.leads hrun).placed
  obtain ⟨hgrown, pos', hplaced', hforward⟩ := hrun.forward h hplaced
  have hnmem : w.memory n = some mem := World.memory_of hn
  have hkmem : w'.memory k = some mem' := World.memory_of hk
  have hle := hforward n k mem mem' hnk hnmem hkmem
  obtain ⟨p, hp, hpjobs, -⟩ := hplaced.shown n mem hnmem
  obtain ⟨q, hq, hqjobs, -⟩ := hplaced'.shown k mem' hkmem
  have hp' : w'.durable[pos n]? = some p := by
    obtain ⟨more, hmore⟩ := hgrown
    rw [← hmore]
    exact List.getElem?_append_left (hplaced.lt hnmem) ▸ hp
  have hmem : j ∈ p.jobs := by
    rw [hpjobs]
    exact find?_mem hj
  have hrecord : find? mem'.jobs j.jobId = some j := by
    obtain ⟨j', hj'⟩ := Option.isSome_iff_exists.mp hkept
    rcases Nat.eq_or_lt_of_le hle with heq | hlt
    · rw [heq, hq] at hp'
      rw [← hqjobs, Option.some.inj hp', hpjobs]
      exact hj
    · have hbefore : p.Before q := by
        have hpairs := List.pairwise_iff_getElem.mp hhistoric.before
        obtain ⟨hplt, hpget⟩ := List.getElem?_eq_some_iff.mp hp'
        obtain ⟨hqlt, hqget⟩ := List.getElem?_eq_some_iff.mp hq
        have hpair := hpairs (pos n) (pos' k) hplt hqlt hlt
        rw [hpget, hqget] at hpair
        exact hpair
      have hmem' : j' ∈ q.jobs := by
        rw [hqjobs]
        exact find?_mem hj'
      have hlater := hbefore j hmem j' hmem' (find?_id hj')
      rw [hj', hlater.settled hend]
  exact frozen_of_settled hj hrecord hend (hsettled.durable p (List.mem_of_getElem? hp) j hmem)

end Frozen

/-! Runs of one process. -/

instance Memory.decidableAnswersMoving (mem : Memory) : (r : Request) →
    Decidable (mem.AnswersMoving r)
  | .resolve jobId d =>
    match h : find? mem.jobs jobId with
    | some job => decidable_of_iff (d.status = .value "done" →
        job.status.terminal = true ∨ job.adminStarted = none) (by simp [Memory.AnswersMoving, h])
    | none => isTrue (by simp [Memory.AnswersMoving, h])
  | .hello _ | .createJob _ | .nextOffer _ _ _ | .appendEvents _ _ _ | .resume _ | .cancel _
  | .watchdog => inferInstanceAs (Decidable True)

instance World.decidableAnswersMoving (w : World) : (mv : Move) → Decidable (w.AnswersMoving mv)
  | .call n r _ =>
    match h : w.processes[n]? with
    | some (.idle mem) => decidable_of_iff (mem.AnswersMoving r) (by simp [World.AnswersMoving, h])
    | some (.busy _) => isTrue (by simp [World.AnswersMoving, h])
    | some .gone => isTrue (by simp [World.AnswersMoving, h])
    | none => isTrue (by simp [World.AnswersMoving, h])
  | .commit _ _ | .start _ _ | .crash _ => inferInstanceAs (Decidable True)

namespace Sample

def jobId : String := (uuid 2).text

/-- The runner takes the job and sends it; the reply is seen to come. -/
def sent : List EventIn :=
  [.event (.value "status") { status := .value "accepted" }, .event (.value "send_intent") {},
    .event (.value "send_confirmed") { responseId := .value (uuid 5).text }]

/-- The runner asks for an administrator. -/
def captcha : EventIn := .event (.value "needs_admin") { reason := .value "E_CAPTCHA_REQUIRED" }

def delivery : Delivery where
  envelope := envelope
  deliveryId := .value (uuid 6).text
  status := .value "done"
  answer := .value "an answer"
  url := .absent
  errorCode := .absent
  activityStopped := true

/-- The job is answered after these events. -/
def answered (events : List EventIn) : List Move :=
  offered ++ [.call 0 (.appendEvents jobId (.value events) envelope) (moment 4 4), .commit 0 .ok,
    .call 0 (.resolve jobId delivery) (moment 5 6), .commit 0 .ok]

/-- The clean-up, the delivery once more, and a process after this one. -/
def aftermath : List Move :=
  [.call 0 .watchdog (moment 6 7), .call 0 (.resolve jobId delivery) (moment 7 8),
    .start (moment 8 9) .ok]

end Sample

open Sample in
theorem finished_jobs_frozen_answered :
    KeepsFrozen bridge (World.after bridge (answered sent))
      (aftermath.foldl (fun w mv => w.move bridge mv) (World.after bridge (answered sent))) :=
  finished_jobs_frozen (.after (by decide +kernel)) (Leads.here.script (by decide +kernel))

/- The answer comes while the job waits for an administrator; the wait goes on being counted. -/
open Sample in
theorem answered_while_paused_not_frozen : ¬ ∀ (b : Bridge) (w w' : World),
    Reachable b anyMove w → Leads b anyMove w w' → KeepsFrozen b w w' := by
  intro h
  have hrun : Follows bridge anyMove .empty (answered (sent ++ [captcha])) ∧
      ((World.after bridge (answered (sent ++ [captcha]))).processes[0]?).any (fun p =>
        p.waiting?.any fun mem => (find? mem.jobs jobId).any fun j =>
          j.jobId = jobId && j.status.terminal && decide ((mem.get jobId 0 (20 * second)).toOption ≠
            (mem.get jobId 0 (10 * second)).toOption)) = true := by decide +kernel
  have hlaw := h bridge _ _ (.after hrun.1) .here
  have hshown := hrun.2
  cases hp : (World.after bridge (answered (sent ++ [captcha]))).processes[0]? with
  | none =>
    rw [hp] at hshown
    cases hshown
  | some p =>
    rw [hp] at hshown
    cases p with
    | idle mem =>
      simp only [Option.any_some, Process.waiting?] at hshown
      cases hj : find? mem.jobs jobId with
      | none =>
        rw [hj] at hshown
        cases hshown
      | some j =>
        simp only [hj, Option.any_some, Bool.and_eq_true, decide_eq_true_eq] at hshown
        obtain ⟨⟨hid, hend⟩, hdiffer⟩ := hshown
        rw [← hid] at hj hdiffer
        have hfrozen := hlaw 0 0 mem mem j (Nat.le_refl 0) hp hp hj hend (by simp [hj])
        exact hdiffer (congrArg Except.toOption (hfrozen.view 0 (10 * second) (20 * second)))
    | busy c => cases hshown
    | gone => cases hshown

end FrameNest.Capture
