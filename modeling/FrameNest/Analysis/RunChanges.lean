import FrameNest.Analysis.Surroundings

/-! What one repository transaction can do to the runs: nothing, one new pending run, or one
row rewritten from the state and version its caller expected. -/
namespace FrameNest.Analysis
open Relational

/-- One row replaced, every other one left alone. -/
structure Rewritten (s t : RunStore) (row row' : MediaAnalysisRun) : Prop where
  found : s.find? row.id = some row
  id : row'.id = row.id
  checks : row'.checks = true
  find : ∀ k, t.find? k = if row.id = k then some row' else s.find? k

/-- One new row of a medium and definition without an active run. -/
structure Inserted (s t : RunStore) (run : MediaAnalysisRun) : Prop where
  absent : s.find? run.id = none
  pending : run.state = .pending
  attempts : run.attemptCount = 0
  version : run.version = 1
  checks : run.checks = true
  find : ∀ k, t.find? k = if run.id = k then some run else s.find? k
  inactive : ∀ k r, s.find? k = some r → r.state.active = true → r.mediaId = run.mediaId →
    r.analysisDefinition = run.analysisDefinition → False

namespace RunStore
variable {s t : RunStore} {run : MediaAnalysisRun}

theorem mem_of_find? {k : MediaAnalysisRunId} (h : s.find? k = some run) : run ∈ s.runs.rows :=
  Table.find?_mem h

theorem id_of_find? {k : MediaAnalysisRunId} (h : s.find? k = some run) : run.id = k :=
  Table.find?_key h

theorem find?_of_mem (h : run ∈ s.runs.rows) : s.find? run.id = some run := Table.mem_find? h

theorem mem_of_head? {p : MediaAnalysisRun → Bool} {l : List MediaAnalysisRun}
    (h : ((l.filter p).insertionSort newerFirst).head? = some run) : run ∈ l ∧ p run = true := by
  have hmem := List.mem_of_mem_head? (Option.mem_def.mpr h)
  rw [List.mem_insertionSort] at hmem
  exact List.mem_filter.mp hmem

theorem latestRun_found {mediaId : MediaId} {definition : String}
    (h : s.latestRun mediaId definition = some run) : s.find? run.id = some run :=
  find?_of_mem (mem_of_head? h).1

theorem activeRun_found {mediaId : MediaId} {definition : String}
    (h : s.activeRun mediaId definition = some run) : s.find? run.id = some run := by
  have hmem := (mem_of_head? h).1
  exact find?_of_mem (List.mem_filter.mp hmem).1

/-- No active run found is no active run at all. -/
theorem activeRun_none {mediaId : MediaId} {definition : String}
    (h : s.activeRun mediaId definition = none) {k : MediaAnalysisRunId} {r : MediaAnalysisRun}
    (hr : s.find? k = some r) (ha : r.state.active = true) (hm : r.mediaId = mediaId)
    (hd : r.analysisDefinition = definition) : False := by
  have hempty : ((s.matching mediaId definition).filter fun r => r.state.active).insertionSort
      newerFirst = [] := List.head?_eq_none_iff.mp h
  have hmem : r ∈ ((s.matching mediaId definition).filter fun r => r.state.active).insertionSort
      newerFirst := by
    simp [List.mem_insertionSort, matching, mem_of_find? hr, ha, hm, hd]
  rw [hempty] at hmem
  cases hmem

theorem insertRun_inserted {referenced : Bool} {a : MediaAnalysisRun}
    (h : s.insertRun referenced run = .ok (a, t)) (hp : run.state = .pending)
    (hn : run.attemptCount = 0) (hv : run.version = 1) : a = run ∧ Inserted s t run := by
  unfold insertRun at h
  split at h
  · cases h
  · rename_i hguard
    simp only [Bool.or_eq_true, Bool.not_eq_true', not_or, Bool.not_eq_false,
      Bool.not_eq_true, Option.isSome_eq_false_iff, Option.isNone_iff_eq_none] at hguard
    obtain ⟨⟨-, hchecks⟩, hactive⟩ := hguard
    split at h
    · rename_i runs hinsert
      cases h
      exact ⟨rfl, (Table.insert?_some hinsert).1, hp, hn, hv, hchecks,
        Table.find?_insert hinsert, fun k r hr ha hm hd => activeRun_none hactive hr ha hm hd⟩
    · cases h

theorem insertPending_inserted {referenced : Bool} {a : MediaAnalysisRun}
    (h : s.insertPending referenced run = .ok (a, t)) (hp : run.state = .pending)
    (hn : run.attemptCount = 0) (hv : run.version = 1) : a = run ∧ Inserted s t run := by
  unfold insertPending at h
  split at h
  · exact insertRun_inserted h hp hn hv
  · obtain ⟨-, h⟩ := require_bind_eq_ok.mp h
    obtain ⟨_, -, h⟩ := bind_eq_ok.mp h
    obtain ⟨-, h⟩ := require_bind_eq_ok.mp h
    exact insertRun_inserted h hp hn hv

theorem orWinner_ok {inserted : Except RunRepositoryError (MediaAnalysisRun × RunStore)}
    {winner : Option MediaAnalysisRun} {a : MediaAnalysisRun}
    (h : s.orWinner inserted winner = .ok (a, t)) :
    inserted = .ok (a, t) ∨ (winner = some a ∧ t = s) := by
  unfold orWinner at h
  split at h
  · split at h
    · cases h
      exact Or.inr ⟨rfl, rfl⟩
    · cases h
  · exact Or.inl h

/-- A get-or-create either finds a run or inserts a pending one. -/
theorem createPending_ok {referenced : Bool} {id : MediaAnalysisRunId} {mediaId : MediaId}
    {locationId : MediaLocationId} {definition : String} {now : Nat} {a : MediaAnalysisRun}
    (h : s.createPending referenced id mediaId locationId definition now = .ok (a, t)) :
    (t = s ∧ s.find? a.id = some a) ∨ Inserted s t a := by
  have hknown : ∀ run, (s.activeRun mediaId definition).or (s.latestRun mediaId definition) =
      some run → s.find? run.id = some run := by
    intro run hrun
    obtain hrun | ⟨-, hrun⟩ := Option.or_eq_some_iff.mp hrun
    · exact activeRun_found hrun
    · exact latestRun_found hrun
  unfold createPending at h
  split at h
  · rename_i run hrun
    cases h
    exact Or.inl ⟨rfl, hknown _ hrun⟩
  · obtain hinserted | ⟨hwinner, rfl⟩ := orWinner_ok h
    · obtain ⟨rfl, hin⟩ := insertPending_inserted hinserted rfl rfl rfl
      exact Or.inr hin
    · exact Or.inl ⟨rfl, hknown _ hwinner⟩

theorem createManualPending_ok {referenced : Bool} {id : MediaAnalysisRunId} {mediaId : MediaId}
    {locationId : MediaLocationId} {definition : String} {now : Nat} {a : MediaAnalysisRun}
    (h : s.createManualPending referenced id mediaId locationId definition now = .ok (a, t)) :
    (t = s ∧ s.find? a.id = some a) ∨ Inserted s t a := by
  unfold createManualPending at h
  split at h
  · rename_i run hrun
    cases h
    exact Or.inl ⟨rfl, activeRun_found hrun⟩
  · have hcreated : ∀ supersedes, s.orWinner (s.insertPending referenced
        (.fresh id mediaId locationId definition now supersedes)) (s.activeRun mediaId definition) =
          .ok (a, t) → (t = s ∧ s.find? a.id = some a) ∨ Inserted s t a := by
      intro supersedes hcreate
      obtain hinserted | ⟨hwinner, rfl⟩ := orWinner_ok hcreate
      · obtain ⟨rfl, hin⟩ := insertPending_inserted hinserted rfl rfl rfl
        exact Or.inr hin
      · exact Or.inl ⟨rfl, activeRun_found hwinner⟩
    split at h
    · rename_i latest hlatest
      split at h
      · exact hcreated _ h
      · cases h
        exact Or.inl ⟨rfl, latestRun_found hlatest⟩
    · exact hcreated _ h

theorem rewriteRun_ok {id : MediaAnalysisRunId} {version : Nat} {state : MediaAnalysisRunState}
    {allowed : MediaAnalysisRun → Bool} {f : MediaAnalysisRun → MediaAnalysisRun}
    {hf : ∀ r, (f r).id = r.id} {a : MediaAnalysisRun}
    (h : s.rewriteRun id version state allowed f hf = .ok (a, t)) :
    ∃ row, row.id = id ∧ row.state = state ∧ row.version = version ∧ allowed row = true ∧
      a = f row ∧ Rewritten s t row (f row) := by
  unfold rewriteRun at h
  obtain ⟨row, hrow, h⟩ := bind_eq_ok.mp h
  have hfound : s.find? id = some row := by
    unfold requireRow at hrow
    split at hrow
    · cases hrow
      assumption
    · cases hrow
  obtain ⟨hguard, h⟩ := require_bind_eq_ok.mp h
  obtain ⟨hallowed, h⟩ := require_bind_eq_ok.mp h
  obtain ⟨hchecks, h⟩ := require_bind_eq_ok.mp h
  cases h
  simp only [Bool.and_eq_true, decide_eq_true_eq] at hguard
  have hid := id_of_find? hfound
  refine ⟨row, hid, hguard.1, hguard.2, hallowed, rfl, ?_, hf row, hchecks, fun k => ?_⟩
  · rw [hid]
    exact hfound
  · rw [hid, show ({ s with runs := s.runs.update id f hf } : RunStore).find? k = _ from
      Table.find?_update f hf k]
    by_cases hk : id = k
    · subst hk
      have hmap : (s.runs.find? id).map f = some (f row) := congrArg (Option.map f) hfound
      simpa using hmap
    · simp only [if_neg hk]
      rfl

/-- A row that is there in the expected state and version is rewritten. -/
theorem rewriteRun_of_found {id : MediaAnalysisRunId} {version : Nat}
    {state : MediaAnalysisRunState} {allowed : MediaAnalysisRun → Bool}
    {f : MediaAnalysisRun → MediaAnalysisRun} {hf : ∀ r, (f r).id = r.id} {row : MediaAnalysisRun}
    (hrow : s.find? id = some row) (hs : row.state = state) (hv : row.version = version)
    (ha : allowed row = true) (hc : (f row).checks = true) :
    s.rewriteRun id version state allowed f hf =
      .ok (f row, { s with runs := s.runs.update id f hf }) := by
  simp [rewriteRun, requireRow, hrow, hs, hv, ha, hc, bind, Except.bind, pure, Except.pure]

@[simp] theorem noteSuccessfulAnalysis_find? (s : RunStore) (run : MediaAnalysisRun)
    (k : MediaAnalysisRunId) : (s.noteSuccessfulAnalysis run).find? k = s.find? k := by
  unfold noteSuccessfulAnalysis
  split <;> rfl

end RunStore

/-- The answer and the store after one transaction, case by case. -/
inductive RunOperation.Effected (s : RunStore) :
    (op : RunOperation) → Except RunRepositoryError op.Answer → RunStore → Prop
  | refused (op : RunOperation) (x : RunRepositoryError) : Effected s op (.error x) s
  | looked (mediaId definition) (a : Option MediaAnalysisRun) :
      Effected s (.getByMediaDefinition mediaId definition) (.ok a) s
  | listed (limit cursor) (a : List MediaAnalysisRun) :
      Effected s (.listUnfinished limit cursor) (.ok a) s
  | found (mediaId locationId definition now) (run : MediaAnalysisRun)
      (h : s.find? run.id = some run) :
      Effected s (.createPending mediaId locationId definition now) (.ok run) s
  | foundManual (mediaId locationId definition now) (run : MediaAnalysisRun)
      (h : s.find? run.id = some run) :
      Effected s (.createManualPending mediaId locationId definition now) (.ok run) s
  | created (mediaId locationId definition now) (run : MediaAnalysisRun) (t : RunStore)
      (h : Inserted s t run) :
      Effected s (.createPending mediaId locationId definition now) (.ok run) t
  | createdManual (mediaId locationId definition now) (run : MediaAnalysisRun) (t : RunStore)
      (h : Inserted s t run) :
      Effected s (.createManualPending mediaId locationId definition now) (.ok run) t
  | claimed (row : MediaAnalysisRun) (now : Nat) (maxAttempts : MaxAttempts) (t : RunStore)
      (hs : row.state = .pending) (hm : row.attemptCount + 1 ≤ maxAttempts.value)
      (h : Rewritten s t row (row.claimed now)) :
      Effected s (.claimPending row.id row.version now maxAttempts) (.ok (row.claimed now)) t
  | requeued (row : MediaAnalysisRun) (code message now) (t : RunStore)
      (hs : row.state = .analyzing) (h : Rewritten s t row row.requeued) :
      Effected s (.requeueForRetry row.id row.version code message now) (.ok row.requeued) t
  | analyzed (row : MediaAnalysisRun) (suggestion now) (t : RunStore)
      (hs : row.state = .analyzing) (h : Rewritten s t row (row.analyzed suggestion now)) :
      Effected s (.recordAnalyzed row.id row.version suggestion now)
        (.ok (row.analyzed suggestion now)) t
  | failed (row : MediaAnalysisRun) (code message now) (t : RunStore)
      (hs : row.state = .analyzing) (h : Rewritten s t row (row.failed code message now)) :
      Effected s (.recordFailed row.id row.version code message now)
        (.ok (row.failed code message now)) t
  | interrupted (row : MediaAnalysisRun) (now : Nat) (t : RunStore)
      (hs : row.state = .analyzing) (h : Rewritten s t row (row.interrupted now)) :
      Effected s (.resetInterruptedAnalyzing row.id row.version now)
        (.ok (row.interrupted now)) t

/-- A claim that is not refused takes a pending run below its limit. -/
theorem RunOperation.Effected.claim_cases {s t : RunStore} {id : MediaAnalysisRunId}
    {version now : Nat} {maxAttempts : MaxAttempts} {r : Except RunRepositoryError MediaAnalysisRun}
    (h : RunOperation.Effected s (.claimPending id version now maxAttempts) r t) :
    (∃ x, r = .error x ∧ t = s) ∨ ∃ row : MediaAnalysisRun, row.id = id ∧ row.version = version ∧
      r = .ok (row.claimed now) ∧ row.state = .pending ∧
      row.attemptCount + 1 ≤ maxAttempts.value ∧ Rewritten s t row (row.claimed now) := by
  cases h with
  | refused _ x => exact Or.inl ⟨x, rfl, rfl⟩
  | claimed row _ _ _ hs hm h => exact Or.inr ⟨row, rfl, rfl, rfl, hs, hm, h⟩

/-- Every transaction is one of these cases. -/
theorem RunOperation.effected (i : Moment) (op : RunOperation) (s : RunStore) :
    op.Effected s (op.exec i s).1 (op.exec i s).2 := by
  unfold RunOperation.exec
  split
  · exact .refused op _
  · cases hrun : op.run i.newRunId i.referenced s with
    | error x =>
      rw [transaction_of_error hrun]
      exact .refused op x
    | ok pair =>
      obtain ⟨a, t⟩ := pair
      rw [transaction_of_ok hrun]
      cases op with
      | getByMediaDefinition mediaId definition =>
        cases hrun
        exact .looked mediaId definition _
      | listUnfinished limit cursor =>
        cases hrun
        exact .listed limit cursor _
      | createPending mediaId locationId definition now =>
        obtain ⟨rfl, hfound⟩ | hin := RunStore.createPending_ok hrun
        · exact .found mediaId locationId definition now a hfound
        · exact .created mediaId locationId definition now a t hin
      | createManualPending mediaId locationId definition now =>
        obtain ⟨rfl, hfound⟩ | hin := RunStore.createManualPending_ok hrun
        · exact .foundManual mediaId locationId definition now a hfound
        · exact .createdManual mediaId locationId definition now a t hin
      | claimPending id version now maxAttempts =>
        obtain ⟨row, rfl, hs, rfl, hm, rfl, h⟩ := RunStore.rewriteRun_ok hrun
        exact .claimed row now maxAttempts t hs (of_decide_eq_true hm) h
      | requeueForRetry id version code message now =>
        obtain ⟨row, rfl, hs, rfl, -, rfl, h⟩ := RunStore.rewriteRun_ok hrun
        exact .requeued row code message now t hs h
      | recordAnalyzed id version suggestion now =>
        obtain ⟨⟨run, t'⟩, hrewrite, hnote⟩ := bind_eq_ok.mp hrun
        obtain ⟨row, rfl, hs, rfl, -, rfl, h⟩ := RunStore.rewriteRun_ok hrewrite
        cases hnote
        exact .analyzed row suggestion now _ hs ⟨h.found, h.id, h.checks, fun k => by
          rw [RunStore.noteSuccessfulAnalysis_find?]
          exact h.find k⟩
      | recordFailed id version code message now =>
        obtain ⟨row, rfl, hs, rfl, -, rfl, h⟩ := RunStore.rewriteRun_ok hrun
        exact .failed row code message now t hs h
      | resetInterruptedAnalyzing id version now =>
        obtain ⟨row, rfl, hs, rfl, -, rfl, h⟩ := RunStore.rewriteRun_ok hrun
        exact .interrupted row now t hs h

/-! The constraints hold of every row that is written. -/
section Checks
variable {r : MediaAnalysisRun}

theorem claimed_checks (h : r.checks = true) (hs : r.state = .pending) (now : Nat)
    (hn : r.attemptCount + 1 ≤ 100) : (r.claimed now).checks = true := by
  simp only [MediaAnalysisRun.checks, MediaAnalysisRun.statePayload, hs, Bool.and_eq_true,
    decide_eq_true_eq] at h
  simp [MediaAnalysisRun.checks, MediaAnalysisRun.statePayload, MediaAnalysisRun.claimed, h, hn]

theorem requeued_checks (h : r.checks = true) (hs : r.state = .analyzing) :
    r.requeued.checks = true := by
  simp only [MediaAnalysisRun.checks, MediaAnalysisRun.statePayload, hs, Bool.and_eq_true,
    decide_eq_true_eq] at h
  simp [MediaAnalysisRun.checks, MediaAnalysisRun.statePayload, MediaAnalysisRun.requeued, h]

theorem analyzed_checks (h : r.checks = true) (hs : r.state = .analyzing)
    (suggestion : MediaSuggestion) (now : Nat) : (r.analyzed suggestion now).checks = true := by
  simp only [MediaAnalysisRun.checks, MediaAnalysisRun.statePayload, hs, Bool.and_eq_true,
    decide_eq_true_eq] at h
  simp [MediaAnalysisRun.checks, MediaAnalysisRun.statePayload, MediaAnalysisRun.analyzed, h]

theorem failed_checks (h : r.checks = true) (hs : r.state = .analyzing) (code : AnalysisErrorCode)
    (message : String) (now : Nat) : (r.failed code message now).checks = true := by
  simp only [MediaAnalysisRun.checks, MediaAnalysisRun.statePayload, hs, Bool.and_eq_true,
    decide_eq_true_eq] at h
  simp [MediaAnalysisRun.checks, MediaAnalysisRun.statePayload, MediaAnalysisRun.failed, h]

theorem interrupted_checks (h : r.checks = true) (hs : r.state = .analyzing) (now : Nat) :
    (r.interrupted now).checks = true := by
  simp only [MediaAnalysisRun.checks, MediaAnalysisRun.statePayload, hs, Bool.and_eq_true,
    decide_eq_true_eq] at h
  simp [MediaAnalysisRun.checks, MediaAnalysisRun.statePayload, MediaAnalysisRun.interrupted, h]

end Checks

end FrameNest.Analysis
