import FrameNest.Capture.Published
import Mathlib.Data.List.Chain

/-! The durable pairs in their order. A job only moves on from one pair to the next, whatever
processes wrote them, and its identity is not used again. -/
namespace FrameNest.Capture

def JobStatus.rank : JobStatus → Nat
  | queued => 0
  | offered => 1
  | running | needsAdmin => 2
  | done | failed | cancelled => 3

/-- A job as a later pair may have it. -/
structure Job.Later (j j' : Job) : Prop where
  same : j.Same j'
  settled : j.status.terminal = true → j' = j
  rank : j.status.rank ≤ j'.status.rank
  submission : j.submission ≠ .notStarted → j'.submission ≠ .notStarted

theorem Job.Later.refl (j : Job) : j.Later j := ⟨.refl j, fun _ => rfl, Nat.le_refl _, id⟩

theorem Job.Later.trans {j j' j'' : Job} (h : j.Later j') (h' : j'.Later j'') : j.Later j'' := by
  refine ⟨h.same.trans h'.same, fun ht => ?_, Nat.le_trans h.rank h'.rank,
    fun hs => h'.submission (h.submission hs)⟩
  have hsame := h.settled ht
  rw [h'.settled (hsame ▸ ht), hsame]

theorem rank_of_terminal {s : JobStatus} (h : s.active = false) : s.rank = 3 := by
  revert h
  cases s <;> simp [JobStatus.active, JobStatus.rank]

theorem rank_le (s : JobStatus) : s.rank ≤ 3 := by
  cases s <;> simp [JobStatus.rank]

section Steps
variable {m : Moment} {j j' : Job} {s s' : Service}

/-- A step moves the job on. -/
theorem JobStep.onward (h : JobStep m (j, s) (j', s')) :
    j.status.rank ≤ j'.status.rank ∧ (j.submission ≠ .notStarted → j'.submission ≠ .notStarted) := by
  cases h with
  | note s h =>
    have hstatus : j'.status = j.status := by rw [h]
    have hsubmission : j'.submission = j.submission := by rw [h]
    rw [hstatus, hsubmission]
    exact ⟨Nat.le_refl _, id⟩
  | serve j h => exact ⟨Nat.le_refl _, id⟩
  | refuse hpaused hid hepoch hrunner hbrowser => exact ⟨Nat.le_refl _, id⟩
  | offer s hstatus hpaused hready offerId runnerId epoch =>
    exact ⟨by simp [hstatus, JobStatus.rank], id⟩
  | accept s hstatus => exact ⟨by simp [hstatus, JobStatus.rank], id⟩
  | send s hstatus hnew => exact ⟨Nat.le_refl _, fun h => absurd hnew h⟩
  | confirm s hsent response => exact ⟨Nat.le_refl _, fun _ => by simp⟩
  | wait s hpaused hstatus fresh k i =>
    refine ⟨?_, id⟩
    rcases hstatus with ⟨hold, rfl⟩ | ⟨hold, rfl⟩ <;> simp [hold, Job.wait, JobStatus.rank]
  | endWait s hpaused hstatus k hwait =>
    refine ⟨?_, id⟩
    rcases hstatus with ⟨hold, rfl⟩ | ⟨hold, rfl⟩ <;> simp [hold, Job.endWait, JobStatus.rank]
  | finish s hactive k i code step =>
    rw [rank_of_terminal (j.terminate_terminal (m.clock k) (m.wall i) code step),
      (j.terminate_fields (m.clock k) (m.wall i) code step).2.2.1]
    exact ⟨rank_le _, id⟩
  | answer s hactive hsent i result => exact ⟨rank_le _, id⟩

theorem JobSteps.onward (h : JobSteps m (j, s) (j', s')) :
    j.status.rank ≤ j'.status.rank ∧ (j.submission ≠ .notStarted → j'.submission ≠ .notStarted) := by
  have hall : ∀ x : Job × Service, JobSteps m (j, s) x → j.status.rank ≤ x.1.status.rank ∧
      (j.submission ≠ .notStarted → x.1.submission ≠ .notStarted) := by
    intro x hx
    induction hx with
    | refl => exact ⟨Nat.le_refl _, id⟩
    | tail _ hstep ih =>
      obtain ⟨hrank, hsubmission⟩ := hstep.onward
      exact ⟨Nat.le_trans ih.1 hrank, fun h => hsubmission (ih.2 h)⟩
  exact hall _ h

end Steps

/-- Where a job of a pair comes from: the same job before, or the draw of the call. -/
theorem Commits.origin {m : Moment} {p q : Published} (h : Commits m p q) (hp : Keyed p.jobs)
    {j' : Job} (hj' : j' ∈ q.jobs) : (∃ j ∈ p.jobs, j.Later j') ∨ j'.jobId = m.token := by
  cases h with
  | serve jobs h => exact .inl ⟨j', hj', .refl j'⟩
  | @job jobs s s' j i hj hactive h =>
    rcases mem_put.mp hj' with rfl | ⟨hold, hne⟩
    · refine .inl ⟨j, find?_mem hj, h.same, fun ht => ?_, h.onward.1, h.onward.2⟩
      rw [JobStatus.terminal, hactive] at ht
      cases ht
    · exact .inl ⟨j', hold, .refl j'⟩
  | @create b jobs s k requestId ask project hidle hnew hid hfresh hspace hready =>
    rcases mem_put.mp hj' with rfl | ⟨hold, -⟩
    · exact .inr (newJob_fields b m requestId ask project).1
    · exact .inl ⟨j', (List.mem_filter.mp hold).1, .refl j'⟩
  | prune jobs s k => exact .inl ⟨j', (List.mem_filter.mp hj').1, .refl j'⟩

theorem Recovered.later {j j' : Job} (h : Recovered j j') : j.Later j' := by
  refine ⟨h.same, h.terminal, ?_, fun hs => h.submission ▸ hs⟩
  cases hs : j.status with
  | queued => exact Nat.zero_le _
  | offered | running | needsAdmin =>
    rw [h.inFlight (by rw [hs]; rfl)]
    exact rank_le _
  | done | failed | cancelled =>
    rw [h.terminal (by rw [hs]; rfl), hs]

/-- A pair as it may be followed by another one. -/
def Published.Before (p q : Published) : Prop :=
  ∀ j ∈ p.jobs, ∀ j' ∈ q.jobs, j'.jobId = j.jobId → j.Later j'

/-- Two pairs one after the other: where the epoch changes, what was out has failed. -/
def Published.Next (p q : Published) : Prop :=
  p.service.epoch ≠ q.service.epoch → ∀ j ∈ p.jobs, j.status.inFlight = true →
    ∀ j' ∈ q.jobs, j'.jobId = j.jobId → j'.status = .failed

theorem pairwise_last {α : Type} {R : α → α → Prop} {l : List α} {a d : α} (h : l.Pairwise R)
    (hd : l.getLast? = some d) (ha : a ∈ l) : a = d ∨ R a d := by
  have hsplit : l.dropLast ++ [d] = l := List.dropLast_append_getLast? d hd
  rw [← hsplit] at h ha
  rcases List.mem_append.mp ha with hmem | hmem
  · exact .inr ((List.pairwise_append.mp h).2.2 a hmem d List.mem_cons_self)
  · exact .inl (List.mem_singleton.mp hmem)

namespace World
variable {w : World}

/-- The draw of a call is new, or the call does not use it. -/
def Draws (w : World) (c : Running) : Prop :=
  (c.later = [] ∧ ∀ p ∈ w.durable, c.moment.token ∉ p.jobs.map (·.jobId)) ∨
    ∀ write ∈ c.write :: c.later, ∀ j ∈ write.pair.jobs, j.jobId ≠ c.moment.token

/-- The history of the durable pairs. -/
structure Historic (w : World) : Prop where
  before : w.durable.Pairwise Published.Before
  next : w.durable.IsChain Published.Next
  tokens : ∀ (n : Nat) (c : Running), w.processes[n]? = some (.busy c) → w.last = some c.base →
    w.Draws c

theorem Historic.append {w' : World} (h : w.Historic) {d q : Published} (hlast : w.last = some d)
    (hkeyed : Keyed d.jobs) (hdurable : w'.durable = w.durable ++ [q]) (hnext : d.Next q)
    (horigin : ∀ j' ∈ q.jobs, (∃ j ∈ d.jobs, j.Later j') ∨
      ∀ p ∈ w.durable, j'.jobId ∉ p.jobs.map (·.jobId)) :
    w'.durable.Pairwise Published.Before ∧ w'.durable.IsChain Published.Next := by
  rw [hdurable]
  refine ⟨List.pairwise_append.mpr ⟨h.before, by simp, fun p hp x hx => ?_⟩, ?_⟩
  · rw [List.mem_singleton.mp hx]
    intro j hj j' hj' hid
    rcases horigin j' hj' with ⟨i, hi, hlater⟩ | hnew
    · have hiid : i.jobId = j.jobId := hlater.same.jobId.symm.trans hid
      rcases pairwise_last h.before hlast hp with rfl | hbefore
      · rw [← eq_of_id hkeyed.ids hi hj hiid]
        exact hlater
      · exact (hbefore j hj i hi hiid).trans hlater
    · exact absurd (List.mem_map.mpr ⟨j, hj, hid.symm⟩) (hnew p hp)
  · refine List.isChain_append.mpr ⟨h.next, by simp, fun x hx y hy => ?_⟩
    have hx' : w.last = some x := hx
    rw [hlast] at hx'
    cases hx'
    simp only [List.head?_cons, Option.mem_some_iff] at hy
    rw [← hy]
    exact hnext

end World

end FrameNest.Capture
