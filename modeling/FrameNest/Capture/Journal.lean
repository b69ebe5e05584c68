import FrameNest.Capture.Jobs

/-! The private journal: one transaction replaces the retained jobs and the service record,
under the epoch it expects to find. -/
namespace FrameNest.Capture

/-- A row of the table `jobs`. -/
structure Row where
  jobId : String
  requestId : String
  record : Job

def Row.of (job : Job) : Row := ⟨job.jobId, job.requestId, job⟩

structure Journal where
  rows : List Row
  service : Option Service

namespace Journal

def empty : Journal := ⟨[], none⟩

/-- `load`: the rows in the order of their first insertion. -/
def load (j : Journal) : List Job × Option Service := (j.rows.map (·.record), j.service)

def epoch (j : Journal) : Option String := j.service.map (·.epoch)

/-- INSERT .. ON CONFLICT(job_id) DO UPDATE .. WHERE record<>excluded.record; another row with
the request is a violation. -/
def upsert (rows : List Row) (job : Job) : Option (List Row) :=
  let taken := rows.any fun r => r.requestId = job.requestId && r.jobId ≠ job.jobId
  match rows.find? fun r => r.jobId = job.jobId with
  | some r =>
    if r.record = job then some rows
    else if taken then none
    else some (rows.map fun r => if r.jobId = job.jobId then Row.of job else r)
  | none => if taken then none else some (rows ++ [Row.of job])

/-- `commit`, where no fault of the database stops it. -/
def commit (j : Journal) (p : Published) (expectedEpoch : Option String) : Option Journal :=
  if j.epoch = expectedEpoch then
    let kept := j.rows.filter fun r => r.jobId ∈ p.jobs.map (·.jobId)
    (p.jobs.foldlM upsert kept).map fun rows => ⟨rows, some p.service⟩
  else none

/-- The journal holds exactly these records, in this order. -/
def Holds (j : Journal) (p : Published) : Prop :=
  j.rows = p.jobs.map Row.of ∧ j.service = some p.service

theorem Holds.load {j : Journal} {p : Published} (h : j.Holds p) :
    j.load = (p.jobs, some p.service) := by
  simp [Journal.load, h.1, h.2, Row.of, Function.comp_def]

theorem Holds.epoch {j : Journal} {p : Published} (h : j.Holds p) :
    j.epoch = some p.service.epoch := by
  simp [Journal.epoch, h.2]

end Journal

/-! What a commit leaves. -/

/-- The jobs carry their identities, none twice. -/
structure Keyed (jobs : List Job) : Prop where
  ids : (jobs.map (·.jobId)).Nodup
  requests : (jobs.map (·.requestId)).Nodup

/-- `jobs` are the retained ones of `base` in their order, and then new ones. -/
def Continues (base jobs : List Job) : Prop :=
  ∃ kept fresh, jobs = kept ++ fresh ∧
    (∀ j ∈ fresh, j.jobId ∉ base.map (·.jobId)) ∧
    List.Forall₂ (fun a b : Job => a.jobId = b.jobId ∧ a.requestId = b.requestId)
      (base.filter fun j => j.jobId ∈ jobs.map (·.jobId)) kept

namespace Journal

theorem upsert_append {jobs : List Job} {job : Job} (h : Keyed (jobs ++ [job])) :
    upsert (jobs.map Row.of) job = some ((jobs ++ [job]).map Row.of) := by
  have hid : ∀ j ∈ jobs, j.jobId ≠ job.jobId := by
    intro j hj heq
    have hnodup := h.ids
    rw [List.map_append, List.nodup_append] at hnodup
    exact hnodup.2.2 _ (List.mem_map_of_mem hj) _ (by simp) heq
  have hrequest : ∀ j ∈ jobs, j.requestId ≠ job.requestId := by
    intro j hj heq
    have hnodup := h.requests
    rw [List.map_append, List.nodup_append] at hnodup
    exact hnodup.2.2 _ (List.mem_map_of_mem hj) _ (by simp) heq
  have hnone : ((jobs.map Row.of).find? fun r => r.jobId = job.jobId) = none := by
    rw [List.find?_eq_none]
    simp only [List.mem_map, forall_exists_index, and_imp]
    rintro r j hj rfl
    exact fun heq => hid j hj (of_decide_eq_true heq)
  have hfree : ((jobs.map Row.of).any fun r =>
      r.requestId = job.requestId && r.jobId ≠ job.jobId) = false := by
    simp only [List.any_eq_false, List.mem_map, forall_exists_index, and_imp]
    rintro r j hj rfl
    simp [Row.of, hrequest j hj]
  unfold upsert
  rw [hnone]
  simp only [hfree]
  simp

theorem upsert_replace {before after : List Job} {old job : Job} (hid : old.jobId = job.jobId)
    (h : Keyed (before ++ job :: after)) :
    upsert ((before ++ old :: after).map Row.of) job =
      some ((before ++ job :: after).map Row.of) := by
  have hothers : ∀ j, j ∈ before ∨ j ∈ after → j.jobId ≠ job.jobId ∧ j.requestId ≠ job.requestId := by
    have hids := h.ids
    have hrequests := h.requests
    simp only [List.map_append, List.map_cons, List.nodup_append, List.nodup_cons] at hids hrequests
    rintro j (hj | hj)
    · exact ⟨fun heq => hids.2.2 _ (List.mem_map_of_mem hj) _ (by simp) heq,
        fun heq => hrequests.2.2 _ (List.mem_map_of_mem hj) _ (by simp) heq⟩
    · exact ⟨fun heq => hids.2.1.1 (heq ▸ List.mem_map_of_mem hj),
        fun heq => hrequests.2.1.1 (heq ▸ List.mem_map_of_mem hj)⟩
  have hbefore : ∀ j ∈ before, j.jobId ≠ job.jobId := fun j hj => (hothers j (.inl hj)).1
  have hfind : (((before ++ old :: after).map Row.of).find? fun r => r.jobId = job.jobId) =
      some (Row.of old) := by
    rw [List.map_append, List.find?_append]
    have hnone : ((before.map Row.of).find? fun r => r.jobId = job.jobId) = none := by
      rw [List.find?_eq_none]
      simp only [List.mem_map, forall_exists_index, and_imp]
      rintro r j hj rfl
      exact fun heq => hbefore j hj (of_decide_eq_true heq)
    simp [hnone, Row.of, hid]
  have hmap : ((before ++ old :: after).map Row.of).map
      (fun r => if r.jobId = job.jobId then Row.of job else r) =
      (before ++ job :: after).map Row.of := by
    have hkeep : ∀ l : List Job, (∀ j ∈ l, j.jobId ≠ job.jobId) →
        (l.map Row.of).map (fun r => if r.jobId = job.jobId then Row.of job else r) =
          l.map Row.of := by
      intro l hl
      rw [List.map_map]
      exact List.map_congr_left fun j hj => if_neg (hl j hj)
    rw [List.map_append, List.map_append, List.map_append, List.map_cons, List.map_cons,
      List.map_cons, hkeep before hbefore, hkeep after fun j hj => (hothers j (.inr hj)).1]
    simp [Row.of, hid]
  have hfree : (((before ++ old :: after).map Row.of).any fun r =>
      r.requestId = job.requestId && r.jobId ≠ job.jobId) = false := by
    simp only [List.any_eq_false, List.mem_map, forall_exists_index, and_imp]
    rintro r j hj rfl
    rcases List.mem_append.mp hj with hj | hj
    · simp [Row.of, (hothers j (.inl hj)).2]
    · rcases List.mem_cons.mp hj with rfl | hj
      · simp [Row.of, hid]
      · simp [Row.of, (hothers j (.inr hj)).2]
  unfold upsert
  rw [hfind]
  simp only [hfree, hmap]
  by_cases hsame : (Row.of old).record = job
  · have hold : old = job := hsame
    simp [hold]
  · simp [hsame]

/-- The new jobs are appended. -/
theorem foldlM_append {jobs fresh : List Job} (h : Keyed (jobs ++ fresh)) :
    fresh.foldlM upsert (jobs.map Row.of) = some ((jobs ++ fresh).map Row.of) := by
  induction fresh generalizing jobs with
  | nil => simp
  | cons job fresh ih =>
    have hsplit : jobs ++ job :: fresh = (jobs ++ [job]) ++ fresh := by simp
    rw [hsplit] at h ⊢
    have hfirst : Keyed (jobs ++ [job]) := by
      refine ⟨?_, ?_⟩
      · have := h.ids
        rw [List.map_append] at this
        exact (List.nodup_append.mp this).1
      · have := h.requests
        rw [List.map_append] at this
        exact (List.nodup_append.mp this).1
    rw [List.foldlM_cons, upsert_append hfirst]
    exact ih h

/-- The retained jobs are replaced where they stand. -/
theorem foldlM_replace {done old new : List Job}
    (hsame : List.Forall₂ (fun a b : Job => a.jobId = b.jobId ∧ a.requestId = b.requestId) old new)
    (h : Keyed (done ++ new)) :
    new.foldlM upsert ((done ++ old).map Row.of) = some ((done ++ new).map Row.of) := by
  induction hsame generalizing done with
  | nil => simp
  | @cons a b old new hab hrest ih =>
    have hids : ∀ l l' : List Job, List.Forall₂ (fun a b : Job => a.jobId = b.jobId ∧
        a.requestId = b.requestId) l l' → l.map (·.jobId) = l'.map (·.jobId) ∧
          l.map (·.requestId) = l'.map (·.requestId) := by
      intro l l' hl
      induction hl with
      | nil => exact ⟨rfl, rfl⟩
      | cons hh _ ihl => simp [hh.1, hh.2, ihl.1, ihl.2]
    obtain ⟨hrestIds, hrestRequests⟩ := hids _ _ hrest
    have hkeyed : Keyed (done ++ b :: old) := by
      refine ⟨?_, ?_⟩
      · simpa [hrestIds] using h.ids
      · simpa [hrestRequests] using h.requests
    have hfirst : upsert ((done ++ a :: old).map Row.of) b = some ((done ++ b :: old).map Row.of) :=
      upsert_replace hab.1 hkeyed
    rw [List.foldlM_cons, hfirst]
    have hsplit : done ++ b :: old = (done ++ [b]) ++ old := by simp
    have hsplit' : done ++ b :: new = (done ++ [b]) ++ new := by simp
    rw [hsplit, hsplit']
    exact ih (hsplit' ▸ h)

/-- After a commit the journal holds what was committed. -/
theorem Holds.commit {j : Journal} {p q : Published} (h : j.Holds p) (hq : Keyed q.jobs)
    (hcontinues : Continues p.jobs q.jobs) :
    ∃ j', j.commit q (some p.service.epoch) = some j' ∧ j'.Holds q := by
  obtain ⟨kept, fresh, hjobs, -, hsame⟩ := hcontinues
  have hfilter : (j.rows.filter fun r => r.jobId ∈ q.jobs.map (·.jobId)) =
      (p.jobs.filter fun a => a.jobId ∈ q.jobs.map (·.jobId)).map Row.of := by
    rw [h.1, List.filter_map]
    rfl
  have hkept : Keyed ([] ++ kept) := by
    rw [hjobs] at hq
    refine ⟨?_, ?_⟩
    · have := hq.ids
      rw [List.map_append] at this
      exact (List.nodup_append.mp this).1
    · have := hq.requests
      rw [List.map_append] at this
      exact (List.nodup_append.mp this).1
  have hfold : q.jobs.foldlM upsert (j.rows.filter fun r => r.jobId ∈ q.jobs.map (·.jobId)) =
      some (q.jobs.map Row.of) := by
    rw [hfilter]
    have hreplaced := foldlM_replace hsame hkept
    have happended := foldlM_append (hjobs ▸ hq)
    simp only [List.nil_append] at hreplaced
    conv_lhs => rw [hjobs]
    rw [List.foldlM_append, ← hjobs, hreplaced]
    rw [hjobs]
    exact happended
  refine ⟨⟨q.jobs.map Row.of, some q.service⟩, ?_, rfl, rfl⟩
  unfold Journal.commit
  rw [if_pos h.epoch]
  simp only [hfold, Option.map_some]

/-- A commit that expects another epoch is refused. -/
theorem commit_fenced {j : Journal} {p : Published} {expected : Option String}
    (h : j.epoch ≠ expected) : j.commit p expected = none := if_neg h

end Journal

end FrameNest.Capture
