import FrameNest.Capture.Plans

/-! What a restart makes of the journal, and what every commit and every restart keeps of the
jobs that were there. -/
namespace FrameNest.Capture
variable {m : Moment} {j : Job} {p q : Published}

/-- A job after a restart: it keeps its identity, and what was out has failed. -/
structure Recovered (j j' : Job) : Prop where
  same : j.Same j'
  submission : j'.submission = j.submission
  terminal : j.status.terminal = true → j' = j
  inFlight : j.status.inFlight = true → j'.status = .failed
  queued : j.status = .queued → j'.status = .queued ∨ j'.status = .failed
  sound : j'.Sound

theorem terminate_failed (clock wall : Int) {code : String} (step : String)
    (h : code ≠ "E_CANCELLED") : (j.terminate clock wall code step).status = .failed := by
  rw [(j.terminate_fields clock wall code step).2.1, if_neg h]

theorem settleWait_fields (hj : j.Sound) (i : Nat) :
    j.Same (j.settleWait m i) ∧ (j.settleWait m i).submission = j.submission ∧
      (j.settleWait m i).adminStarted = none ∧ (j.settleWait m i).adminStartedWall = none := by
  have hwall := hj.wall
  unfold Job.settleWait
  cases hs : j.adminStartedWall with
  | none =>
    rw [hs] at hwall
    exact ⟨.refl j, rfl, by simpa using hwall, hs⟩
  | some started => exact ⟨⟨rfl, rfl, rfl, rfl, rfl⟩, rfl, rfl, rfl⟩

theorem carryWait_fields (hj : j.Sound) (i : Nat) :
    j.Same (j.carryWait m i) ∧ (j.carryWait m i).submission = j.submission ∧
      (j.carryWait m i).status = j.status ∧ (j.carryWait m i).Sound := by
  unfold Job.carryWait
  cases hs : j.adminStartedWall with
  | none => exact ⟨.refl j, rfl, rfl, hj⟩
  | some started =>
    have hpaused : j.adminStarted.isSome = true := by simpa [hs] using hj.wall
    refine ⟨⟨rfl, rfl, rfl, rfl, rfl⟩, rfl, rfl, ⟨rfl, fun _ => hj.intervention hpaused,
      fun _ => rfl, fun h => ?_⟩⟩
    have hmoving := hj.moving h
    rw [hmoving] at hpaused
    cases hpaused

theorem terminal_not_inFlight {s : JobStatus} (h : s.inFlight = true) : s.terminal = false := by
  revert h
  cases s <;> simp [JobStatus.inFlight, JobStatus.terminal, JobStatus.active]

theorem settleWait_sound (hj : j.Sound) (i : Nat) (clock wall : Int) (code step : String) :
    ((j.settleWait m i).terminate clock wall code step).Sound := by
  obtain ⟨-, -, hpaused, hwall⟩ := settleWait_fields (m := m) hj i
  have hend := (j.settleWait m i).terminate_terminal clock wall code step
  have hnone : ((j.settleWait m i).terminate clock wall code step).adminStarted = none :=
    ((j.settleWait m i).terminate_fields clock wall code step).2.2.2.2
  have hnone' : ((j.settleWait m i).terminate clock wall code step).adminStartedWall = none := by
    unfold Job.terminate
    rw [hpaused]
    exact hwall
  refine ⟨by rw [hnone, hnone'], fun h => ?_, fun h => ?_, fun h => ?_⟩
  · rw [hnone] at h
    cases h
  · rw [h] at hend
    cases hend
  · exact hnone

theorem Job.requeue_fields (hj : j.Sound) (hqueued : j.status = .queued) (i : Nat) :
    j.Same (j.requeue m i) ∧ (j.requeue m i).submission = j.submission ∧
      ((j.requeue m i).status = .queued ∨ (j.requeue m i).status = .failed) ∧
      (j.requeue m i).Sound := by
  obtain ⟨hsame, hsubmission, hstatus, hsound⟩ := carryWait_fields (m := m) hj i
  unfold Job.requeue
  dsimp only
  split
  · have hfields := (j.carryWait m i).terminate_fields (m.clock (3 * i + 1)) (m.wall (4 * i + 3))
      "E_INTERVENTION_TIMEOUT" "recovery"
    exact ⟨hsame.trans hfields.1, hfields.2.2.1.trans hsubmission,
      .inr (terminate_failed _ _ _ (by decide)), hsound.terminate _ _ _ _⟩
  · split
    · have hfields := (j.carryWait m i).terminate_fields (m.clock (3 * i + 1)) (m.wall (4 * i + 3))
        "E_RESPONSE_TIMEOUT" "recovery"
      exact ⟨hsame.trans hfields.1, hfields.2.2.1.trans hsubmission,
        .inr (terminate_failed _ _ _ (by decide)), hsound.terminate _ _ _ _⟩
    · exact ⟨⟨hsame.jobId, hsame.requestId, hsame.fingerprint, hsame.timeoutS, hsame.createdWall⟩,
        hsubmission, .inl (hstatus.trans hqueued),
        ⟨hsound.wall, hsound.intervention, hsound.waiting, hsound.moving⟩⟩

theorem Job.recover_recovered (hj : j.Sound) (i : Nat) : Recovered j (j.recover m i).1 := by
  unfold Job.recover
  split
  · rename_i hflight
    obtain ⟨hsame, hsubmission, -, -⟩ := settleWait_fields (m := m) hj i
    have hfields := (j.settleWait m i).terminate_fields (m.clock (3 * i)) (m.wall (4 * i + 1))
      "E_AMBIGUOUS_SEND" "recovery"
    refine ⟨hsame.trans hfields.1, hfields.2.2.1.trans hsubmission, fun h => ?_,
      fun _ => terminate_failed _ _ _ (by decide), fun h => ?_, settleWait_sound hj i _ _ _ _⟩
    · rw [terminal_not_inFlight hflight] at h
      cases h
    · rw [h] at hflight
      cases hflight
  · rename_i hflight
    split
    · rename_i hqueued
      obtain ⟨hsame, hsubmission, hstatus, hsound⟩ := Job.requeue_fields (m := m) hj hqueued i
      refine ⟨hsame, hsubmission, fun h => ?_, fun h => ?_, fun _ => hstatus, hsound⟩
      · rw [hqueued] at h
        cases h
      · exact absurd h hflight
    · rename_i hqueued
      exact ⟨.refl j, rfl, fun _ => rfl, fun h => absurd h hflight, fun h => absurd h hqueued, hj⟩

theorem recoverJobs_forall (jobs : List Job) (i : Nat) (hj : ∀ j ∈ jobs, j.Sound) :
    List.Forall₂ Recovered jobs (recoverJobs m i jobs).1 := by
  induction jobs generalizing i with
  | nil => exact .nil
  | cons j rest ih =>
    exact .cons (Job.recover_recovered (hj j List.mem_cons_self) i)
      (ih (i + 1) fun k hk => hj k (List.mem_cons_of_mem _ hk))

/-! What follows the jobs that were stored. -/

/-- The jobs carry the identities of others, in their order. -/
abbrev SameKeys : List Job → List Job → Prop :=
  List.Forall₂ fun a b : Job => a.jobId = b.jobId ∧ a.requestId = b.requestId

theorem SameKeys.ids {old new : List Job} (h : SameKeys old new) :
    new.map (·.jobId) = old.map (·.jobId) ∧ new.map (·.requestId) = old.map (·.requestId) := by
  induction h with
  | nil => exact ⟨rfl, rfl⟩
  | cons hab _ ih => simp [← hab.1, ← hab.2, ih.1, ih.2]

theorem SameKeys.filter {old new : List Job} (h : SameKeys old new)
    (hnodup : (old.map (·.jobId)).Nodup) (keep : Job → Bool) (fresh : List Job)
    (hfresh : ∀ j ∈ fresh, j.jobId ∉ old.map (·.jobId)) :
    SameKeys (old.filter fun j => j.jobId ∈ (new.filter keep ++ fresh).map (·.jobId))
      (new.filter keep) := by
  induction h with
  | nil => exact .nil
  | @cons a b old new hab hrest ih =>
    rw [List.map_cons, List.nodup_cons] at hnodup
    have hfresh' : ∀ j ∈ fresh, j.jobId ∉ old.map (·.jobId) := fun j hj hmem =>
      hfresh j hj (List.mem_cons_of_mem _ hmem)
    have hnew : ∀ j ∈ new, j.jobId ≠ a.jobId := by
      intro j hj heq
      have hmem : j.jobId ∈ new.map (·.jobId) := List.mem_map_of_mem hj
      rw [(SameKeys.ids hrest).1, heq] at hmem
      exact hnodup.1 hmem
    have hafresh : ∀ j ∈ fresh, j.jobId ≠ a.jobId := by
      intro j hj heq
      exact hfresh j hj (heq ▸ List.mem_cons_self)
    have hothers : (old.filter fun j => j.jobId ∈ ((b :: new).filter keep ++ fresh).map (·.jobId)) =
        old.filter fun j => j.jobId ∈ (new.filter keep ++ fresh).map (·.jobId) := by
      apply List.filter_congr
      intro j hj
      have hne : j.jobId ≠ b.jobId := by
        intro heq
        exact hnodup.1 (hab.1 ▸ heq ▸ List.mem_map_of_mem hj)
      by_cases hkeep : keep b = true
      · simp [hkeep, hne]
      · simp [hkeep]
    by_cases hkeep : keep b = true
    · have hkept : (b :: new).filter keep = b :: new.filter keep := by simp [hkeep]
      have ha : a.jobId ∈ ((b :: new).filter keep ++ fresh).map (·.jobId) := by
        simp [hkept, hab.1]
      rw [List.filter_cons, if_pos (by simpa using ha), hothers, hkept]
      exact .cons hab (ih hnodup.2 hfresh')
    · have hdropped : (b :: new).filter keep = new.filter keep := by simp [hkeep]
      have ha : a.jobId ∉ ((b :: new).filter keep ++ fresh).map (·.jobId) := by
        rw [hdropped]
        intro hmem
        obtain ⟨j, hj, heq⟩ := List.mem_map.mp hmem
        rcases List.mem_append.mp hj with hj | hj
        · exact hnew j (List.mem_filter.mp hj).1 heq
        · exact hafresh j hj heq
      rw [List.filter_cons, if_neg (by simpa using ha), hothers, hdropped]
      exact ih hnodup.2 hfresh'

theorem SameKeys.continues {old new : List Job} (h : SameKeys old new)
    (hnodup : (old.map (·.jobId)).Nodup) (keep : Job → Bool) (fresh : List Job)
    (hfresh : ∀ j ∈ fresh, j.jobId ∉ old.map (·.jobId)) :
    Continues old (new.filter keep ++ fresh) :=
  ⟨_, fresh, rfl, hfresh, h.filter hnodup keep fresh hfresh⟩

theorem SameKeys.refl (jobs : List Job) : SameKeys jobs jobs :=
  List.forall₂_same.mpr fun _ _ => ⟨rfl, rfl⟩

theorem SameKeys.kept {old new : List Job} (h : SameKeys old new)
    (hnodup : (old.map (·.jobId)).Nodup) : Continues old new := by
  have hall := h.continues hnodup (fun _ => true) [] (by simp)
  simpa using hall

/-- A commit continues what it was made from. -/
theorem Commits.continues (h : Commits m p q) (hp : Keyed p.jobs) : Continues p.jobs q.jobs := by
  cases h with
  | serve jobs h => exact (SameKeys.refl jobs).kept hp.ids
  | @job jobs s s' j j' hj hactive h =>
    refine SameKeys.kept ?_ hp.ids
    show SameKeys jobs (put jobs j')
    rw [put_found hj]
    refine List.forall₂_map_right_iff.mpr (List.forall₂_same.mpr fun i hi => ?_)
    split
    · rename_i hid
      have hsame : i = j := eq_of_id hp.ids hi (find?_mem hj) (hid.trans (find?_id hj).symm)
      rw [hsame]
      exact ⟨h.same.jobId.symm, h.same.requestId.symm⟩
    · exact ⟨rfl, rfl⟩
  | @create b jobs s k requestId ask project hidle hnew hid hfresh hspace hready =>
    obtain ⟨hjobId, -⟩ := newJob_fields b m requestId ask project
    have hnone : (newJob b m requestId ask project).jobId ∉
        (Capture.prune (m.wall k) jobs).map (·.jobId) := by
      rw [hjobId]
      intro hmem
      obtain ⟨i, hi, heq⟩ := List.mem_map.mp hmem
      exact hfresh (List.mem_map.mpr ⟨i, (List.mem_filter.mp hi).1, heq⟩)
    show Continues jobs (put _ _)
    rw [put_new hnone]
    refine (SameKeys.refl jobs).continues hp.ids _ _ fun i hi => ?_
    rw [List.mem_singleton.mp hi, hjobId]
    exact hfresh
  | prune jobs s k =>
    have hall := (SameKeys.refl jobs).continues hp.ids (Job.retained (m.wall k)) []
      (by simp)
    simpa [Capture.prune] using hall

/-! The pair a restart publishes. -/

section Restart
variable {jobs : List Job} {previous : Option Service}

theorem recoverJobs_same (hj : ∀ j ∈ jobs, j.Sound) : SameKeys jobs (recoverJobs m 0 jobs).1 :=
  (recoverJobs_forall jobs 0 hj).imp fun _ _ h => ⟨h.same.jobId.symm, h.same.requestId.symm⟩

/-- The parts of a recovery. -/
theorem recovery_ok (h : recovery m jobs previous = .ok q) :
    loadable jobs previous = true ∧
      q.jobs = prune (m.wall (4 * jobs.length)) (recoverJobs m 0 jobs).1 ∧
      q.service.epoch = (m.uuid 0).text ∧ q.service.Sound := by
  unfold recovery at h
  split at h
  · rename_i hloadable
    cases h
    refine ⟨hloadable, rfl, rfl, fun hb => ?_, fun r hr => (by cases hr), fun r hr => (by cases hr)⟩
    dsimp only at hb ⊢
    split
    · rfl
    · rename_i hfree
      rw [if_neg hfree] at hb
      cases hb
  · cases h

theorem Recovered.active {j j' : Job} (h : Recovered j j') (hactive : j'.status.active = true) :
    j.status = .queued ∧ j'.status = .queued := by
  have hqueued : j.status = .queued := by
    cases hs : j.status with
    | queued => rfl
    | offered | running | needsAdmin =>
      have hfailed := h.inFlight (by rw [hs]; rfl)
      rw [hfailed] at hactive
      cases hactive
    | done | failed | cancelled =>
      have hsame := h.terminal (by rw [hs]; rfl)
      rw [hsame, hs] at hactive
      cases hactive
  refine ⟨hqueued, ?_⟩
  rcases h.queued hqueued with hq | hfailed
  · exact hq
  · rw [hfailed] at hactive
    cases hactive

/-- Where a job of the new pair comes from. -/
theorem recovery_mem (h : recovery m jobs previous = .ok q) (hsound : ∀ j ∈ jobs, j.Sound)
    {j' : Job} (hj' : j' ∈ q.jobs) : ∃ j ∈ jobs, Recovered j j' := by
  rw [(recovery_ok h).2.1] at hj'
  have hmem := (List.mem_filter.mp hj').1
  have hall := recoverJobs_forall (m := m) jobs 0 hsound
  generalize (recoverJobs m 0 jobs).1 = new at hmem hall
  clear h hj' hsound
  induction hall with
  | nil => cases hmem
  | cons hab hrest ih =>
    rcases List.mem_cons.mp hmem with rfl | hmem
    · exact ⟨_, List.mem_cons_self, hab⟩
    · obtain ⟨j, hj, hrec⟩ := ih hmem
      exact ⟨j, List.mem_cons_of_mem _ hj, hrec⟩

theorem recovery_orderly (h : recovery m jobs previous = .ok q) (hsound : ∀ j ∈ jobs, j.Sound)
    (hsingle : ∀ j ∈ jobs, ∀ i ∈ jobs, j.status.active = true → i.status.active = true → j = i) :
    Orderly q ∧ Continues jobs q.jobs := by
  obtain ⟨hloadable, hjobs, hepoch, hservice⟩ := recovery_ok h
  simp only [loadable, Bool.and_eq_true, decide_eq_true_eq, List.all_eq_true] at hloadable
  obtain ⟨⟨⟨⟨hfew, -⟩, hids⟩, hrequests⟩, hidentities⟩ := hloadable
  have hsame := recoverJobs_same (m := m) hsound
  have hkeyed : Keyed q.jobs := by
    rw [hjobs]
    refine Keyed.filter ⟨?_, ?_⟩ _
    · rw [hsame.ids.1]
      exact hids
    · rw [hsame.ids.2]
      exact hrequests
  refine ⟨⟨hkeyed, fun j' hj' => ?_, fun j' hj' i' hi' hja hia => ?_, fun j' hj' => ?_, hservice,
    hepoch ▸ (m.uuid 0).canonical, ?_⟩, ?_⟩
  · obtain ⟨j, hj, hrec⟩ := recovery_mem h hsound hj'
    rw [hrec.same.requestId]
    exact hidentities j hj
  · obtain ⟨j, hj, hjrec⟩ := recovery_mem h hsound hj'
    obtain ⟨i, hi, hirec⟩ := recovery_mem h hsound hi'
    have hji : j = i := hsingle j hj i hi (by rw [(hjrec.active hja).1]; rfl)
      (by rw [(hirec.active hia).1]; rfl)
    refine eq_of_id hkeyed.ids hj' hi' ?_
    rw [hjrec.same.jobId, hirec.same.jobId, hji]
  · obtain ⟨j, hj, hrec⟩ := recovery_mem h hsound hj'
    exact hrec.sound
  · rw [hjobs]
    have hle : (prune (m.wall (4 * jobs.length)) (recoverJobs m 0 jobs).1).length ≤
        (recoverJobs m 0 jobs).1.length := List.length_filter_le _ _
    have hlength : (recoverJobs m 0 jobs).1.length = jobs.length := by
      simpa using congrArg List.length hsame.ids.1
    omega
  · rw [hjobs]
    have hall := hsame.continues hids (Job.retained (m.wall (4 * jobs.length))) [] (by simp)
    simpa [prune] using hall

end Restart

end FrameNest.Capture
