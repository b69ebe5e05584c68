import FrameNest.Capture.Processes
import Mathlib.Data.List.Nodup
import Mathlib.Logic.Relation

/-! What one commit may change, said once: it prunes, creates a job, or takes the steps below
on one job that has not ended, together with the service record. -/
namespace FrameNest.Capture

/-! The dictionary of jobs. -/

section Dictionary
variable {jobs : List Job} {job j : Job} {jobId : String}

theorem find?_id (h : find? jobs jobId = some job) : job.jobId = jobId :=
  of_decide_eq_true (List.find?_some (p := fun j : Job => j.jobId = jobId) h)

theorem find?_mem (h : find? jobs jobId = some job) : job ∈ jobs := List.mem_of_find?_eq_some h

theorem eq_of_id (h : (jobs.map (·.jobId)).Nodup) (hj : j ∈ jobs) (hjob : job ∈ jobs)
    (hid : j.jobId = job.jobId) : j = job := List.inj_on_of_nodup_map h hj hjob hid

theorem mem_find? (h : (jobs.map (·.jobId)).Nodup) (hj : j ∈ jobs) : find? jobs j.jobId = some j := by
  obtain ⟨job, hjob⟩ : ∃ job, find? jobs j.jobId = some job := by
    rw [← Option.isSome_iff_exists]
    exact List.find?_isSome.mpr ⟨j, hj, by simp⟩
  rw [hjob, eq_of_id h (find?_mem hjob) hj (find?_id hjob)]

theorem find?_none_iff : find? jobs jobId = none ↔ jobId ∉ jobs.map (·.jobId) := by
  simp [find?, List.find?_eq_none]

/-- A stored job replaces the one of its identity. -/
theorem put_found (h : find? jobs job.jobId = some j) :
    put jobs job = jobs.map fun i => if i.jobId = job.jobId then job else i := by
  simp [put, h]

theorem put_new (h : job.jobId ∉ jobs.map (·.jobId)) : put jobs job = jobs ++ [job] := by
  simp [put, find?_none_iff.mpr h]

theorem mem_put : j ∈ put jobs job ↔ j = job ∨ j ∈ jobs ∧ j.jobId ≠ job.jobId := by
  cases h : find? jobs job.jobId with
  | none =>
    have hne := find?_none_iff.mp h
    rw [put_new hne, List.mem_append, List.mem_singleton]
    constructor
    · rintro (hj | rfl)
      · exact .inr ⟨hj, fun heq => hne (heq ▸ List.mem_map_of_mem hj)⟩
      · exact .inl rfl
    · rintro (rfl | ⟨hj, -⟩)
      · exact .inr rfl
      · exact .inl hj
  | some old =>
    rw [put_found h, List.mem_map]
    constructor
    · rintro ⟨i, hi, rfl⟩
      split
      · exact .inl rfl
      · rename_i hne
        exact .inr ⟨hi, hne⟩
    · rintro (rfl | ⟨hj, hne⟩)
      · exact ⟨old, find?_mem h, if_pos (find?_id h)⟩
      · exact ⟨j, hj, if_neg hne⟩

theorem find?_replace_ne (h : jobId ≠ job.jobId) :
    find? (jobs.map fun i => if i.jobId = job.jobId then job else i) jobId = find? jobs jobId := by
  induction jobs with
  | nil => rfl
  | cons i rest ih =>
    unfold find? at ih ⊢
    rw [List.map_cons, List.find?_cons, List.find?_cons, ih]
    by_cases hi : i.jobId = job.jobId
    · simp [hi, Ne.symm h]
    · simp [hi]

theorem find?_put_ne (h : jobId ≠ job.jobId) : find? (put jobs job) jobId = find? jobs jobId := by
  unfold put
  split
  · exact find?_replace_ne h
  · simp [find?, List.find?_append, Ne.symm h]

theorem map_id_put_found (h : find? jobs job.jobId = some j) :
    (put jobs job).map (·.jobId) = jobs.map (·.jobId) := by
  rw [put_found h, List.map_map]
  apply List.map_congr_left
  intro i _
  by_cases hi : i.jobId = job.jobId
  · simp [hi]
  · simp [hi]

theorem map_request_put_found (h : find? jobs job.jobId = some j)
    (hnodup : (jobs.map (·.jobId)).Nodup) (hreq : j.requestId = job.requestId) :
    (put jobs job).map (·.requestId) = jobs.map (·.requestId) := by
  rw [put_found h, List.map_map]
  apply List.map_congr_left
  intro i hi
  by_cases hid : i.jobId = job.jobId
  · have hsame : i = j := eq_of_id hnodup hi (find?_mem h) (hid.trans (find?_id h).symm)
    show (if i.jobId = job.jobId then job else i).requestId = i.requestId
    rw [if_pos hid, hsame, hreq]
  · simp [hid]

theorem active?_none (h : active? jobs = none) (hj : j ∈ jobs) : j.status.active = false := by
  simpa using List.find?_eq_none.mp h j hj

theorem active?_some (h : active? jobs = some job) : job ∈ jobs ∧ job.status.active = true :=
  ⟨List.mem_of_find?_eq_some h, List.find?_some (p := fun j : Job => j.status.active) h⟩

end Dictionary

/-! One job, together with the service record. -/

/-- Only what no law is about has changed. -/
def Job.Alike (j j' : Job) : Prop :=
  j' = { j with
    phase := j'.phase
    events := j'.events
    lastSeq := j'.lastSeq
    lastProgressMono := j'.lastProgressMono
    cancelRequested := j'.cancelRequested
    cancelMono := j'.cancelMono
    interventionReason := j'.interventionReason
    deliveryId := j'.deliveryId
    deliveryDigest := j'.deliveryDigest }

/-- A blocked service has an intervention that an administrator can name, and the record names
canonical identities. -/
structure Service.Sound (s : Service) : Prop where
  intervention : s.state.blocked = true → s.interventionId.isSome = true
  runner : ∀ r, s.runnerId = some r → identity r = true
  browser : ∀ r, s.browserSession = some r → identity r = true

/-- The record changes within its epoch and stays sound. -/
def Service.Yields (s s' : Service) : Prop := s'.epoch = s.epoch ∧ (s.Sound → s'.Sound)

/-- A job waits for an administrator. -/
def Job.wait (j : Job) (status : JobStatus) (fresh : Uuid) (clock wall : Int) : Job :=
  { j with
    status := status
    interventionId := some fresh.text
    adminStarted := some clock
    adminStartedWall := some wall }

/-- It waits no longer. -/
def Job.endWait (j : Job) (status : JobStatus) (waited : Int) : Job :=
  { j with
    status := status
    adminWait := j.adminWait + waited
    deadlineMono := j.deadlineMono + waited
    adminStarted := none
    adminStartedWall := none
    interventionId := none }

inductive JobStep (m : Moment) : Job × Service → Job × Service → Prop
  | note {j j' : Job} (s : Service) (h : j.Alike j') : JobStep m (j, s) (j', s)
  | serve (j : Job) {s s' : Service} (h : s.Yields s') : JobStep m (j, s) (j, s')
  /-- The service is blocked by the intervention the job waits for. -/
  | refuse {j : Job} {s s' : Service} (h : j.adminStarted.isSome = true)
      (hid : s'.interventionId = j.interventionId) (hepoch : s'.epoch = s.epoch)
      (hrunner : s'.runnerId = s.runnerId) (hbrowser : s'.browserSession = s.browserSession) :
      JobStep m (j, s) (j, s')
  | offer {j : Job} (s : Service) (hstatus : j.status = .queued) (hpaused : j.adminStarted = none)
      (hready : s.state = .ready) (offerId : String) (runnerId epoch : Option String) :
      JobStep m (j, s) ({ j with
        status := .offered, runnerId := runnerId, epoch := epoch, offerId := some offerId }, s)
  | accept {j : Job} (s : Service) (hstatus : j.status = .offered) :
      JobStep m (j, s) ({ j with status := .running }, s)
  | send {j : Job} (s : Service) (hstatus : j.status = .running)
      (hnew : j.submission = .notStarted) :
      JobStep m (j, s) ({ j with submission := .sendIntentPersisted }, s)
  | confirm {j : Job} (s : Service) (hsent : j.submission = .sendIntentPersisted)
      (response : String) :
      JobStep m (j, s) ({ j with submission := .sendConfirmed, responseId := some response }, s)
  | wait {j : Job} (s : Service) {status : JobStatus} (hpaused : j.adminStarted = none)
      (hstatus : j.status = .queued ∧ status = .queued ∨ j.status = .running ∧ status = .needsAdmin)
      (fresh : Uuid) (k i : Nat) :
      JobStep m (j, s) (j.wait status fresh (m.clock k) (m.wall i), s)
  | endWait {j : Job} (s : Service) {status : JobStatus} {started : Int}
      (hpaused : j.adminStarted = some started)
      (hstatus : j.status = .queued ∧ status = .queued ∨ j.status = .needsAdmin ∧ status = .running)
      (k : Nat) (hwait : j.adminWait + max 0 (m.clock k - started) < adminWaitMax) :
      JobStep m (j, s) (j.endWait status (max 0 (m.clock k - started)), s)
  | finish {j : Job} (s : Service) (hactive : j.status.active = true) (k i : Nat)
      (code step : String) :
      JobStep m (j, s) (j.terminate (m.clock k) (m.wall i) code step, s)
  | answer {j : Job} (s : Service) (hactive : j.status.active = true)
      (hsent : j.submission = .sendConfirmed) (i : Nat) (result : JobResult) :
      JobStep m (j, s) ({ j with
        result := some result, resultId := some j.jobId, status := .done,
        terminalWall := some (m.wall i) }, s)

/-- The pause of a job is recorded on both clocks and can be named. -/
structure Job.Sound (j : Job) : Prop where
  wall : j.adminStarted.isSome = j.adminStartedWall.isSome
  intervention : j.adminStarted.isSome = true → j.interventionId.isSome = true
  waiting : j.status = .needsAdmin → j.adminStarted.isSome = true
  moving : j.status = .offered ∨ j.status = .running → j.adminStarted = none

abbrev JobSteps (m : Moment) : Job × Service → Job × Service → Prop :=
  Relation.ReflTransGen (JobStep m)

/-- What a step leaves of the identity of a job. -/
structure Job.Same (j j' : Job) : Prop where
  jobId : j'.jobId = j.jobId
  requestId : j'.requestId = j.requestId
  fingerprint : j'.fingerprint = j.fingerprint
  timeoutS : j'.timeoutS = j.timeoutS
  createdWall : j'.createdWall = j.createdWall

theorem Job.Same.refl (j : Job) : j.Same j := ⟨rfl, rfl, rfl, rfl, rfl⟩

theorem Job.Same.trans {j j' j'' : Job} (h : j.Same j') (h' : j'.Same j'') : j.Same j'' :=
  ⟨h'.jobId.trans h.jobId, h'.requestId.trans h.requestId, h'.fingerprint.trans h.fingerprint,
    h'.timeoutS.trans h.timeoutS, h'.createdWall.trans h.createdWall⟩

theorem Job.event_alike {j : Job} (type : String) (phase code : Option String) :
    j.Alike (j.event type phase code) := by simp [Job.Alike, Job.event]

/-- What the end of a job leaves. -/
theorem Job.terminate_fields (j : Job) (clock wall : Int) (code step : String) :
    j.Same (j.terminate clock wall code step) ∧
      (j.terminate clock wall code step).status =
        (if code = "E_CANCELLED" then .cancelled else .failed) ∧
      (j.terminate clock wall code step).submission = j.submission ∧
      (j.terminate clock wall code step).adminWait = j.waited clock ∧
      (j.terminate clock wall code step).adminStarted = none := by
  unfold Job.terminate Job.waited
  cases hs : j.adminStarted with
  | none => exact ⟨⟨rfl, rfl, rfl, rfl, rfl⟩, rfl, rfl, by simp [Job.event], rfl⟩
  | some started => exact ⟨⟨rfl, rfl, rfl, rfl, rfl⟩, rfl, rfl, rfl, rfl⟩

theorem Job.terminate_terminal (j : Job) (clock wall : Int) (code step : String) :
    (j.terminate clock wall code step).status.active = false := by
  rw [(j.terminate_fields clock wall code step).2.1]
  split <;> rfl

theorem Job.Sound.terminate {j : Job} (h : j.Sound) (clock wall : Int) (code step : String) :
    (j.terminate clock wall code step).Sound := by
  have hend := j.terminate_terminal clock wall code step
  have hfields := j.terminate_fields clock wall code step
  refine ⟨?_, fun hp => ?_, fun hw => ?_, fun hw => ?_⟩
  · have hwall := h.wall
    unfold Job.terminate
    cases hs : j.adminStarted with
    | none => simpa [hs, Job.event] using hwall
    | some started => rfl
  · rw [hfields.2.2.2.2] at hp
    cases hp
  · rw [hw] at hend
    cases hend
  · rcases hw with hw | hw <;> rw [hw] at hend <;> cases hend

section Steps
variable {m : Moment} {j j' : Job} {s s' : Service}

theorem JobStep.same (h : JobStep m (j, s) (j', s')) : j.Same j' := by
  cases h with
  | note s h =>
    rw [h]
    exact ⟨rfl, rfl, rfl, rfl, rfl⟩
  | finish s hactive k i code step => exact (j.terminate_fields _ _ code step).1
  | _ => exact ⟨rfl, rfl, rfl, rfl, rfl⟩

theorem JobStep.epoch (h : JobStep m (j, s) (j', s')) : s'.epoch = s.epoch := by
  cases h with
  | serve j h => exact h.1
  | refuse _ _ hepoch _ _ => exact hepoch
  | _ => rfl

/-- A step keeps the pause of the job and the service record in order. -/
theorem JobStep.sound (h : JobStep m (j, s) (j', s')) (hj : j.Sound) (hs : s.Sound) :
    j'.Sound ∧ s'.Sound := by
  cases h with
  | note s h =>
    refine ⟨?_, hs⟩
    rw [h]
    exact ⟨hj.wall, hj.intervention, hj.waiting, hj.moving⟩
  | serve j h => exact ⟨hj, h.2 hs⟩
  | refuse hpaused hid hepoch hrunner hbrowser =>
    refine ⟨hj, fun _ => ?_, fun r hr => hs.runner r (hrunner ▸ hr),
      fun r hr => hs.browser r (hbrowser ▸ hr)⟩
    rw [hid]
    exact hj.intervention hpaused
  | offer s hstatus hpaused hready offerId runnerId epoch =>
    exact ⟨⟨hj.wall, hj.intervention, fun h => (by cases h), fun _ => hpaused⟩, hs⟩
  | accept s hstatus =>
    have hpaused : j.adminStarted = none := hj.moving (.inl hstatus)
    exact ⟨⟨hj.wall, hj.intervention, fun h => (by cases h), fun _ => hpaused⟩, hs⟩
  | send s hstatus hnew => exact ⟨⟨hj.wall, hj.intervention, hj.waiting, hj.moving⟩, hs⟩
  | confirm s hsent response => exact ⟨⟨hj.wall, hj.intervention, hj.waiting, hj.moving⟩, hs⟩
  | wait s hpaused hstatus fresh k i =>
    refine ⟨⟨rfl, fun _ => rfl, fun _ => rfl, fun h => ?_⟩, hs⟩
    rcases hstatus with ⟨-, rfl⟩ | ⟨-, rfl⟩ <;> rcases h with h | h <;> cases h
  | endWait s hpaused hstatus k hwait =>
    refine ⟨⟨rfl, fun h => (by cases h), fun h => ?_, fun _ => rfl⟩, hs⟩
    rcases hstatus with ⟨-, rfl⟩ | ⟨-, rfl⟩ <;> cases h
  | finish s hactive k i code step => exact ⟨hj.terminate _ _ code step, hs⟩
  | answer s hactive hsent i result =>
    exact ⟨⟨hj.wall, hj.intervention, fun h => (by cases h),
      fun h => (by rcases h with h | h <;> cases h)⟩, hs⟩

theorem JobSteps.same (h : JobSteps m (j, s) (j', s')) : j.Same j' := by
  have hall : ∀ x : Job × Service, JobSteps m (j, s) x → j.Same x.1 := by
    intro x hx
    induction hx with
    | refl => exact .refl j
    | tail _ hstep ih => exact ih.trans hstep.same
  exact hall _ h

theorem JobSteps.sound (h : JobSteps m (j, s) (j', s')) (hj : j.Sound) (hs : s.Sound) :
    j'.Sound ∧ s'.Sound := by
  have hall : ∀ x : Job × Service, JobSteps m (j, s) x → x.1.Sound ∧ x.2.Sound := by
    intro x hx
    induction hx with
    | refl => exact ⟨hj, hs⟩
    | tail _ hstep ih => exact hstep.sound ih.1 ih.2
  exact hall _ h

theorem JobSteps.epoch (h : JobSteps m (j, s) (j', s')) : s'.epoch = s.epoch := by
  have hall : ∀ x : Job × Service, JobSteps m (j, s) x → x.2.epoch = s.epoch := by
    intro x hx
    induction hx with
    | refl => rfl
    | tail _ hstep ih => exact hstep.epoch.trans ih
  exact hall _ h

end Steps

/-- One commit. -/
inductive Commits (m : Moment) : Published → Published → Prop
  | serve (jobs : List Job) {s s' : Service} (h : s.Yields s') : Commits m ⟨jobs, s⟩ ⟨jobs, s'⟩
  | job {jobs : List Job} {s s' : Service} {j j' : Job} (hj : find? jobs j'.jobId = some j)
      (hactive : j.status.active = true) (h : JobSteps m (j, s) (j', s')) :
      Commits m ⟨jobs, s⟩ ⟨put jobs j', s'⟩
  | create (b : Bridge) {jobs : List Job} (s : Service) (i : Nat) {requestId : String}
      (ask : Immutable) (project : Option Project) (hidle : active? jobs = none)
      (hnew : ∀ j ∈ jobs, j.requestId ≠ requestId) (hid : identity requestId = true)
      (hfresh : m.token ∉ jobs.map (·.jobId))
      (hspace : (prune (m.wall i) jobs).length < jobRetentionMaxItems) (hready : s.state = .ready) :
      Commits m ⟨jobs, s⟩ ⟨put (prune (m.wall i) jobs) (newJob b m requestId ask project), s⟩
  | prune (jobs : List Job) (s : Service) (i : Nat) : Commits m ⟨jobs, s⟩ ⟨prune (m.wall i) jobs, s⟩

/-- The commits of a call follow one another, each from the pair that was published before. -/
def Chain (m : Moment) (base : Published) : List Write → Prop
  | [] => True
  | w :: later => w.held.jobs = base.jobs ∧ w.held.service.epoch = base.service.epoch ∧
      Commits m base w.pair ∧ Chain m w.pair later

/-! The order that every commit keeps. -/

structure Orderly (p : Published) : Prop where
  keyed : Keyed p.jobs
  identities : ∀ j ∈ p.jobs, identity j.requestId = true
  single : ∀ j ∈ p.jobs, ∀ i ∈ p.jobs, j.status.active = true → i.status.active = true → j = i
  sound : ∀ j ∈ p.jobs, j.Sound
  service : p.service.Sound
  epoch : identity p.service.epoch = true
  few : p.jobs.length ≤ jobRetentionMaxItems

theorem Keyed.filter {jobs : List Job} (h : Keyed jobs) (keep : Job → Bool) :
    Keyed (jobs.filter keep) :=
  ⟨h.ids.sublist ((List.filter_sublist).map _), h.requests.sublist ((List.filter_sublist).map _)⟩

theorem Keyed.put {jobs : List Job} {j j' : Job} (h : Keyed jobs) (hj : find? jobs j'.jobId = some j)
    (hsame : j.Same j') : Keyed (put jobs j') := by
  refine ⟨?_, ?_⟩
  · rw [map_id_put_found hj]
    exact h.ids
  · rw [map_request_put_found hj h.ids hsame.requestId.symm]
    exact h.requests

theorem Keyed.append {jobs : List Job} {job : Job} (h : Keyed jobs)
    (hid : job.jobId ∉ jobs.map (·.jobId)) (hreq : ∀ j ∈ jobs, j.requestId ≠ job.requestId) :
    Keyed (Capture.put jobs job) := by
  rw [put_new hid]
  refine ⟨?_, ?_⟩
  · rw [List.map_append]
    exact List.nodup_append.mpr ⟨h.ids, by simp, fun a ha b hb heq => hid (by simp_all)⟩
  · rw [List.map_append]
    refine List.nodup_append.mpr ⟨h.requests, by simp, fun a ha b hb heq => ?_⟩
    obtain ⟨j, hj, rfl⟩ := List.mem_map.mp ha
    simp only [List.map_cons, List.map_nil, List.mem_singleton] at hb
    exact hreq j hj (heq.trans hb)

theorem newJob_fields (b : Bridge) (m : Moment) (requestId : String) (ask : Immutable)
    (project : Option Project) :
    (newJob b m requestId ask project).jobId = m.token ∧
      (newJob b m requestId ask project).requestId = requestId ∧
      (newJob b m requestId ask project).status = .queued ∧
      (newJob b m requestId ask project).Sound := by
  refine ⟨rfl, rfl, rfl, rfl, fun h => ?_, fun h => ?_, fun h => ?_⟩
  · cases h
  · cases h
  · rcases h with h | h <;> cases h

theorem Commits.epoch {m : Moment} {p q : Published} (h : Commits m p q) :
    q.service.epoch = p.service.epoch := by
  cases h with
  | serve jobs h => exact h.1
  | job hj hactive h => exact h.epoch
  | _ => rfl

/-- One commit keeps the order. -/
theorem Commits.orderly {m : Moment} {p q : Published} (h : Commits m p q) (hp : Orderly p) :
    Orderly q := by
  cases h with
  | serve jobs h =>
    exact ⟨hp.keyed, hp.identities, hp.single, hp.sound, h.2 hp.service, h.1 ▸ hp.epoch, hp.few⟩
  | @job jobs s s' j j' hj hactive h =>
    have hsame := h.same
    have hmem := find?_mem hj
    obtain ⟨hsound, hservice⟩ := h.sound (hp.sound j hmem) hp.service
    have hothers : ∀ i ∈ jobs, i.jobId ≠ j'.jobId → i.status.active = false := by
      intro i hi hne
      by_contra hactive'
      have heq := hp.single i hi j hmem (by simpa using hactive') hactive
      exact hne (heq ▸ hsame.jobId.symm)
    refine ⟨hp.keyed.put hj hsame, fun i hi => ?_, fun i hi k hk hia hka => ?_, fun i hi => ?_,
      hservice, h.epoch ▸ hp.epoch, ?_⟩
    · rcases mem_put.mp hi with rfl | ⟨hi, -⟩
      · rw [hsame.requestId]
        exact hp.identities j hmem
      · exact hp.identities i hi
    · rcases mem_put.mp hi with rfl | ⟨hi, hine⟩
      · rcases mem_put.mp hk with rfl | ⟨hk, hkne⟩
        · rfl
        · rw [hothers k hk hkne] at hka
          cases hka
      · rw [hothers i hi hine] at hia
        cases hia
    · rcases mem_put.mp hi with rfl | ⟨hi, -⟩
      · exact hsound
      · exact hp.sound i hi
    · have hlength : (put jobs j').length = jobs.length := by
        rw [put_found hj, List.length_map]
      exact hlength ▸ hp.few
  | @create b jobs s k requestId ask project hidle hnew hid hfresh hspace hready =>
    obtain ⟨hjobId, hrequestId, hstatus, hsound⟩ := newJob_fields b m requestId ask project
    have hsub : ∀ i ∈ Capture.prune (m.wall k) jobs, i ∈ jobs := fun i hi => (List.mem_filter.mp hi).1
    have hnone : (newJob b m requestId ask project).jobId ∉
        (Capture.prune (m.wall k) jobs).map (·.jobId) := by
      rw [hjobId]
      intro hmem
      obtain ⟨i, hi, heq⟩ := List.mem_map.mp hmem
      exact hfresh (List.mem_map.mpr ⟨i, hsub i hi, heq⟩)
    have hidle' : ∀ i ∈ Capture.prune (m.wall k) jobs, i.status.active = false := fun i hi =>
      active?_none hidle (hsub i hi)
    refine ⟨(hp.keyed.filter _).append hnone fun i hi => ?_, fun i hi => ?_,
      fun i hi l hl hia hla => ?_, fun i hi => ?_, hp.service, hp.epoch, ?_⟩
    · rw [hrequestId]
      exact hnew i (hsub i hi)
    · rcases mem_put.mp hi with rfl | ⟨hi, -⟩
      · exact hrequestId ▸ hid
      · exact hp.identities i (hsub i hi)
    · rcases mem_put.mp hi with rfl | ⟨hi, -⟩
      · rcases mem_put.mp hl with rfl | ⟨hl, -⟩
        · rfl
        · rw [hidle' l hl] at hla
          cases hla
      · rw [hidle' i hi] at hia
        cases hia
    · rcases mem_put.mp hi with rfl | ⟨hi, -⟩
      · exact hsound
      · exact hp.sound i (hsub i hi)
    · rw [put_new hnone, List.length_append, List.length_singleton]
      omega
  | prune jobs s k =>
    have hsub : ∀ i ∈ Capture.prune (m.wall k) jobs, i ∈ jobs := fun i hi => (List.mem_filter.mp hi).1
    refine ⟨hp.keyed.filter _, fun i hi => hp.identities i (hsub i hi),
      fun i hi l hl => hp.single i (hsub i hi) l (hsub l hl), fun i hi => hp.sound i (hsub i hi),
      hp.service, hp.epoch, ?_⟩
    have hfew : jobs.length ≤ jobRetentionMaxItems := hp.few
    have hle : (Capture.prune (m.wall k) jobs).length ≤ jobs.length := List.length_filter_le _ _
    exact Nat.le_trans hle hfew

end FrameNest.Capture
