import FrameNest.Concurrent.Alone
import FrameNest.Analysis.DrainWalk
import FrameNest.Analysis.ImportedPreviews

/-! Which active runs the coordinator can still bring to an end, whatever limit it was last
started with, and what a manual request meets in the meantime. -/
namespace FrameNest.Analysis
open Concurrent Relational

section Rows
variable {s t : RunStore}

/-- Whatever a transaction writes satisfies the constraints. -/
theorem RunOperation.Effected.checked {op : RunOperation} {r : Except RunRepositoryError op.Answer}
    (h : op.Effected s r t) (hs : s.Checked) : t.Checked := by
  have hinserted : ∀ {run : MediaAnalysisRun}, Inserted s t run → t.Checked := by
    intro run hin k row hrow
    rw [hin.find] at hrow
    by_cases hk : run.id = k
    · rw [if_pos hk] at hrow
      cases hrow
      exact hin.checks
    · rw [if_neg hk] at hrow
      exact hs k row hrow
  cases h with
  | created _ _ _ _ run _ h => exact hinserted h
  | createdManual _ _ _ _ run _ h => exact hinserted h
  | claimed row _ _ _ _ _ h => exact h.checked hs
  | requeued row _ _ _ _ _ h => exact h.checked hs
  | analyzed row _ _ _ _ h => exact h.checked hs
  | failed row _ _ _ _ _ h => exact h.checked hs
  | interrupted row _ _ _ h => exact h.checked hs
  | _ => exact hs

theorem reachable_checked {lower : String → String} {records : List BoundRecord}
    {w : World AnalysisEffect AnalysisEffect.Answer AnalysisFailure AnalysisState Memory Unit}
    (h : Reachable (analysisSystem lower) ⟨⟨Table.empty, records⟩, []⟩ w) :
    w.state.store.Checked := by
  refine h.invariant (J := fun s => s.store.Checked) (fun g i e s _ hs => ?_) fun k r hr => by
    cases hr
  cases e with
  | runs actor op => exact (op.effected i s.store).checked hs
  | _ => exact hs

theorem reachable_singleActive {lower : String → String} {records : List BoundRecord}
    {w : World AnalysisEffect AnalysisEffect.Answer AnalysisFailure AnalysisState Memory Unit}
    (h : Reachable (analysisSystem lower) ⟨⟨Table.empty, records⟩, []⟩ w) :
    w.state.store.SingleActive :=
  (h.sound (paid_interference lower) (analysis_obedient lower) (empty_accounted records)).state.single

/-- Every row stems from a row of `s`, and an active one from an active one. -/
def Descends (s t : RunStore) : Prop :=
  ∀ k r', t.find? k = some r' → ∃ r, s.find? k = some r ∧ SameOrigin r r' ∧
    (r'.state.active = true → r.state.active = true)

theorem Descends.refl (s : RunStore) : Descends s s := fun _ r h => ⟨r, h, .refl r, id⟩

theorem Descends.singleActive (h : Descends s t) (hs : s.SingleActive) : t.SingleActive := by
  intro k k' r r' hr hr' hact hact' hm hd
  obtain ⟨r₀, hr₀, horigin, hactive⟩ := h k r hr
  obtain ⟨r₁, hr₁, horigin', hactive'⟩ := h k' r' hr'
  refine hs k k' r₀ r₁ hr₀ hr₁ (hactive hact) (hactive' hact') ?_ ?_
  · rw [← horigin.mediaId, ← horigin'.mediaId]
    exact hm
  · rw [← horigin.definition, ← horigin'.definition]
    exact hd

theorem Descends.trans {u : RunStore} (h : Descends s t) (h' : Descends t u) : Descends s u := by
  intro k r'' hr''
  obtain ⟨r', hr', horigin', hactive'⟩ := h' k r'' hr''
  obtain ⟨r, hr, horigin, hactive⟩ := h k r' hr'
  exact ⟨r, hr, horigin.trans horigin', fun ha => hactive (hactive' ha)⟩

end Rows

section Drains
variable (lower : String → String) (maxAttempts : MaxAttempts) (batchSize : Nat)

/-- `_drain_once`, with a page for every row there is. -/
def coordinatorDrain (s : AnalysisState) : AnalysisProgram DrainOutcome :=
  drainOnce lower maxAttempts batchSize (s.store.runs.rows.length + 1) {}

/-- One responsive drain, run to its end. -/
def DrainedBy (s t : AnalysisState) : Prop :=
  ∃ is outcome, Program.run responsiveExec is (coordinatorDrain lower maxAttempts batchSize s) s =
    (.done outcome, t)

def DrainedTimes : Nat → AnalysisState → AnalysisState → Prop
  | 0, s, t => s = t
  | n + 1, s, t => ∃ u, DrainedBy lower maxAttempts batchSize s u ∧ DrainedTimes n u t

end Drains

/-- The manual request for a medium and definition, made while nothing holds it up. -/
def requestedManually (t : AnalysisState) (i : ResponsiveMoment) (mediaId : MediaId)
    (locationId : MediaLocationId) (definition : String) :
    AnalysisProgram MediaAnalysisRun × AnalysisState :=
  Program.run responsiveExec [i, i, i] (coordinatorRequestManual ⟨mediaId, locationId⟩ definition) t

/-- A manual request is accepted: it gets a new run. -/
def AcceptsManual (t : AnalysisState) (mediaId : MediaId) (definition : String) : Prop :=
  ∀ (i : ResponsiveMoment) (locationId : MediaLocationId), i.referenced = true →
    t.store.find? i.newRunId = none →
    ∃ run u, requestedManually t i mediaId locationId definition = (.done run, u) ∧
      run.id = i.newRunId ∧ run.state = .pending

/-- The run comes to its end: there is a number of drains, and they can be made, after which
it is terminal and a manual request for its medium and definition is accepted again. -/
def ComesToEnd (lower : String → String) (maxAttempts : MaxAttempts) (s : AnalysisState)
    (id : MediaAnalysisRunId) : Prop :=
  ∀ batchSize, 0 < batchSize → ∃ n, (∃ t, DrainedTimes lower maxAttempts batchSize n s t) ∧
    ∀ t, DrainedTimes lower maxAttempts batchSize n s t →
      ∃ row, t.store.find? id = some row ∧ row.state.terminal = true ∧
        AcceptsManual t row.mediaId row.analysisDefinition

/-- The run is stuck: no drain changes it, and every manual request is answered with it. -/
def StaysStuck (lower : String → String) (maxAttempts : MaxAttempts) (s : AnalysisState)
    (row : MediaAnalysisRun) : Prop :=
  ∀ batchSize, 0 < batchSize → ∀ n t, DrainedTimes lower maxAttempts batchSize n s t →
    t.store.find? row.id = some row ∧ ∀ (i : ResponsiveMoment) (locationId : MediaLocationId),
      ∃ u, requestedManually t i row.mediaId locationId row.analysisDefinition = (.done row, u) ∧
        u.store = t.store

section Walks
variable {lower : String → String} {maxAttempts : MaxAttempts} {batchSize : Nat}
  {s t : AnalysisState} {row : MediaAnalysisRun} {k : MediaAnalysisRunId}

variable (lower maxAttempts) in
theorem coordinatorDrain_walks (hbatch : 0 < batchSize) (hs : s.store.Checked) :
    Ends (fun r t => ((∃ outcome, r = .ok outcome) ∧ ∃ visited,
      Walked maxAttempts s.store t.store visited ∧
        ∀ k r, s.store.find? k = some r → r.state.active = true → k ∈ visited) ∧ t.store.Checked)
      (coordinatorDrain lower maxAttempts batchSize s) s := by
  refine Upholds.keeps hs (drainOnce_walks hbatch _ {} hs (.refl maxAttempts s.store)
    (fun _ _ _ _ => Or.inr rfl) ?_)
  have hcount := List.countP_le_length (l := s.store.runs.rows)
    (p := fun r => before (cursorKey none) (runKey r))
  exact Nat.lt_succ_of_le hcount

theorem DrainedBy.walked (hbatch : 0 < batchSize) (hs : s.store.Checked)
    (h : DrainedBy lower maxAttempts batchSize s t) : t.store.Checked ∧ ∃ visited,
      Walked maxAttempts s.store t.store visited ∧
        ∀ k r, s.store.find? k = some r → r.state.active = true → k ∈ visited := by
  obtain ⟨is, outcome, hrun⟩ := h
  have hend := (Upholds.ended (coordinatorDrain_walks lower maxAttempts hbatch hs) is).1 outcome (by rw [hrun])
  rw [hrun] at hend
  exact ⟨hend.2, hend.1.2⟩

variable (lower maxAttempts) in
/-- Given time, a drain comes to its end. -/
theorem drainedBy_exists (hbatch : 0 < batchSize) (hs : s.store.Checked) :
    ∃ t, DrainedBy lower maxAttempts batchSize s t := by
  let calm : ResponsiveMoment := ⟨{}, rfl, rfl, rfl, rfl, rfl⟩
  obtain ⟨n, hsettled⟩ := Program.run_settles responsiveExec (fun _ => calm)
    (coordinatorDrain lower maxAttempts batchSize s) s
  generalize (List.range n).map (fun _ => calm) = is at hsettled
  have hended := Upholds.ended (coordinatorDrain_walks lower maxAttempts hbatch hs) is
  cases hrun : Program.run responsiveExec is (coordinatorDrain lower maxAttempts batchSize s) s with
  | mk p t =>
    rw [hrun] at hsettled hended
    cases p with
    | done outcome => exact ⟨t, is, outcome, hrun⟩
    | fail x =>
      obtain ⟨⟨⟨outcome, hx⟩, -⟩, -⟩ := hended.2 x rfl
      cases hx
    | call e next => cases hsettled

theorem drainedTimes_exists (hbatch : 0 < batchSize) (n : Nat) (hs : s.store.Checked) :
    ∃ t, DrainedTimes lower maxAttempts batchSize n s t := by
  induction n generalizing s with
  | zero => exact ⟨s, rfl⟩
  | succ n ih =>
    obtain ⟨u, hu⟩ := drainedBy_exists lower maxAttempts hbatch hs
    obtain ⟨t, ht⟩ := ih (hu.walked hbatch hs).1
    exact ⟨t, u, hu, ht⟩

theorem Walked.descends {visited : List MediaAnalysisRunId}
    (h : Walked maxAttempts s.store t.store visited) : Descends s.store t.store :=
  fun _ _ hr => h.row hr

theorem DrainedTimes.descends (hbatch : 0 < batchSize) {n : Nat} (hs : s.store.Checked)
    (h : DrainedTimes lower maxAttempts batchSize n s t) :
    t.store.Checked ∧ Descends s.store t.store := by
  induction n generalizing s with
  | zero =>
    cases h
    exact ⟨hs, .refl _⟩
  | succ n ih =>
    obtain ⟨u, hu, ht⟩ := h
    obtain ⟨hchecked, visited, hwalked, -⟩ := hu.walked hbatch hs
    obtain ⟨ht', hdescends⟩ := ih hchecked ht
    exact ⟨ht', hwalked.descends.trans hdescends⟩

/-- What is over stays over. -/
theorem DrainedTimes.terminal (hbatch : 0 < batchSize) {n : Nat} (hs : s.store.Checked)
    (h : DrainedTimes lower maxAttempts batchSize n s t) (hrow : s.store.find? k = some row)
    (hterminal : row.state.terminal = true) : t.store.find? k = some row := by
  induction n generalizing s with
  | zero =>
    cases h
    exact hrow
  | succ n ih =>
    obtain ⟨u, hu, ht⟩ := h
    obtain ⟨hchecked, visited, hwalked, -⟩ := hu.walked hbatch hs
    refine ih hchecked ht ((hwalked.untouched k fun hk => ?_).trans hrow)
    obtain ⟨r, -, hr, hactive, -⟩ := hwalked.turned k hk
    rw [hrow] at hr
    cases hr
    rw [MediaAnalysisRunState.active_eq_not_terminal, hterminal] at hactive
    cases hactive

/-- Below the limit every drain uses up an attempt, and so the run ends. -/
theorem DrainedTimes.ends (hbatch : 0 < batchSize) {n : Nat} (hs : s.store.Checked)
    (h : DrainedTimes lower maxAttempts batchSize n s t) (hrow : s.store.find? k = some row)
    (hactive : row.state.active = true)
    (hclaimable : row.state = .pending → row.attemptCount < maxAttempts.value) (hn : 0 < n)
    (henough : row.state = .pending → maxAttempts.value ≤ row.attemptCount + n) :
    ∃ row', t.store.find? k = some row' ∧ row'.state.terminal = true := by
  induction n generalizing s row with
  | zero => omega
  | succ n ih =>
    obtain ⟨u, hu, ht⟩ := h
    obtain ⟨hchecked, visited, hwalked, hall⟩ := hu.walked hbatch hs
    obtain ⟨r, r', hr, -, hr', -, hturned⟩ := hwalked.turned k (hall k row hrow hactive)
    rw [hrow] at hr
    cases hr
    cases hturned with
    | finished _ hterminal => exact ⟨r', ht.terminal hbatch hchecked hr' hterminal, hterminal⟩
    | retried hp hp' hmore hbelow =>
      have hleft := henough hp
      refine ih hchecked ht hr' (by rw [hp']; rfl) (fun _ => hbelow) (by omega) fun _ => ?_
      omega
    | refused hp hover _ =>
      have hbelow := hclaimable hp
      omega

/-- At the limit no drain touches the run. -/
theorem DrainedTimes.stuck (hbatch : 0 < batchSize) {n : Nat} (hs : s.store.Checked)
    (h : DrainedTimes lower maxAttempts batchSize n s t) (hrow : s.store.find? k = some row)
    (hpending : row.state = .pending) (hover : maxAttempts.value ≤ row.attemptCount) :
    t.store.find? k = some row := by
  induction n generalizing s with
  | zero =>
    cases h
    exact hrow
  | succ n ih =>
    obtain ⟨u, hu, ht⟩ := h
    obtain ⟨hchecked, visited, hwalked, hall⟩ := hu.walked hbatch hs
    refine ih hchecked ht ?_
    obtain ⟨r, r', hr, -, hr', -, hturned⟩ := hwalked.turned k
      (hall k row hrow (by rw [hpending]; rfl))
    rw [hrow] at hr
    cases hr
    cases hturned with
    | finished hclaimable _ =>
      have hbelow := hclaimable hpending
      omega
    | retried _ _ hmore hbelow => omega
    | refused _ _ hsame =>
      rw [← hsame]
      exact hr'

end Walks

section Requests
variable {t : AnalysisState} {mediaId : MediaId} {definition : String} {i : ResponsiveMoment}
  {locationId : MediaLocationId}

/-- What the request does is what its transaction does. -/
theorem requestedManually_of_created {run : MediaAnalysisRun} {u : RunStore}
    (h : t.store.createManualPending i.referenced i.newRunId mediaId locationId definition i.nowMs =
      .ok (run, u)) :
    ∃ v, requestedManually t i mediaId locationId definition = (.done run, v) ∧ v.store = u := by
  have hstop : responsiveExec i .stopping t = (.ok false, t) :=
    congrArg (fun b => (Except.ok b, t)) i.running
  have hclock : responsiveExec i .nowMs t = (.ok i.nowMs, t) := rfl
  obtain ⟨hanswer, hstore⟩ := responsive_ok (s := t) .requester
    (.createManualPending mediaId locationId definition i.nowMs) i h
  refine ⟨_, ?_, hstore⟩
  generalize hexec : responsiveExec i (.runs .requester
    (.createManualPending mediaId locationId definition i.nowMs)) t = pair at hanswer
  obtain ⟨answer, v⟩ := pair
  cases hanswer
  refine (Program.run_perform (R := AnalysisEffect.Answer) (e := .stopping) hstop).trans ?_
  rw [if_neg Bool.false_ne_true]
  unfold requestManual orLifecycleError nowMs createManualPending
  simp only [perform, Program.perform, Program.rescue_call]
  refine (Program.run_call _ _ _ _ _).trans ?_
  rw [hclock]
  refine (Program.run_call _ _ _ _ _).trans ?_
  rw [hexec]
  rfl

theorem activeRun_some {s : RunStore} {run : MediaAnalysisRun}
    (h : s.activeRun mediaId definition = some run) : s.find? run.id = some run ∧
      run.mediaId = mediaId ∧ run.analysisDefinition = definition ∧ run.state.active = true := by
  obtain ⟨hmem, hactive⟩ := RunStore.mem_of_head? h
  have hsubject := (List.mem_filter.mp hmem).2
  simp only [Bool.and_eq_true, decide_eq_true_eq] at hsubject
  exact ⟨RunStore.activeRun_found h, hsubject.1, hsubject.2, hactive⟩

/-- An active run answers every request for its medium and definition. -/
theorem requestedManually_active (hsingle : t.store.SingleActive) {row : MediaAnalysisRun}
    (hrow : t.store.find? row.id = some row) (hactive : row.state.active = true) :
    ∃ u, requestedManually t i row.mediaId locationId row.analysisDefinition = (.done row, u) ∧
      u.store = t.store := by
  have hwinner : t.store.activeRun row.mediaId row.analysisDefinition = some row := by
    cases hfound : t.store.activeRun row.mediaId row.analysisDefinition with
    | none => exact (RunStore.activeRun_none hfound hrow hactive rfl rfl).elim
    | some run =>
      obtain ⟨hrun, hm, hd, ha⟩ := activeRun_some hfound
      have hid := hsingle run.id row.id run row hrun hrow ha hactive hm hd
      rw [hid, hrow] at hrun
      exact hrun.symm
  refine requestedManually_of_created (u := t.store) ?_
  unfold RunStore.createManualPending
  rw [hwinner]

/-- Where no run is active a request gets a new one. -/
theorem acceptsManual (hchecked : t.store.Checked) {k : MediaAnalysisRunId}
    {row : MediaAnalysisRun} (hrow : t.store.find? k = some row)
    (hinactive : t.store.activeRun row.mediaId row.analysisDefinition = none) :
    AcceptsManual t row.mediaId row.analysisDefinition := by
  intro i locationId hreferenced hnew
  -- there is a latest run, and it is over
  cases hlatest : t.store.latestRun row.mediaId row.analysisDefinition with
  | none =>
    have hempty : (t.store.matching row.mediaId row.analysisDefinition).insertionSort
        RunStore.newerFirst = [] := List.head?_eq_none_iff.mp hlatest
    have hmem : row ∈ (t.store.matching row.mediaId row.analysisDefinition).insertionSort
        RunStore.newerFirst := by
      simp [List.mem_insertionSort, RunStore.matching, RunStore.mem_of_find? hrow]
    rw [hempty] at hmem
    cases hmem
  | some latest =>
    have hfound := RunStore.latestRun_found hlatest
    have hsubject := (RunStore.mem_of_head? hlatest).2
    simp only [Bool.and_eq_true, decide_eq_true_eq] at hsubject
    have hterminal : latest.state.terminal = true := by
      cases ha : latest.state.active with
      | true => exact (RunStore.activeRun_none hinactive hfound ha hsubject.1 hsubject.2).elim
      | false => simpa [MediaAnalysisRunState.active_eq_not_terminal] using ha
    have hne : latest.id ≠ i.newRunId := by
      intro hid
      rw [hid, hnew] at hfound
      cases hfound
    let run := MediaAnalysisRun.fresh i.newRunId row.mediaId locationId row.analysisDefinition i.nowMs
      (some latest.id)
    have hchecks : run.checks = true := by
      have hold := hchecked k row hrow
      simp only [MediaAnalysisRun.checks, Bool.and_eq_true, decide_eq_true_eq] at hold
      simp [run, MediaAnalysisRun.checks, MediaAnalysisRun.statePayload, MediaAnalysisRun.fresh,
        hold, hne]
    obtain ⟨runs, hinsert⟩ := Table.insert?_isSome (t := t.store.runs) (r := run) hnew
    have hinserted : t.store.insertRun i.referenced run = .ok (run, { t.store with runs := runs }) := by
      unfold RunStore.insertRun
      have hguard : (!i.referenced || !run.checks ||
          (t.store.activeRun run.mediaId run.analysisDefinition).isSome) = false := by
        rw [hreferenced, hchecks]
        simpa [run, MediaAnalysisRun.fresh] using hinactive
      rw [if_neg (by rw [hguard]; exact Bool.false_ne_true), hinsert]
    have hpending : t.store.insertPending i.referenced run =
        .ok (run, { t.store with runs := runs }) := by
      unfold RunStore.insertPending
      simp only [run, MediaAnalysisRun.fresh] at hinserted ⊢
      simp [RunStore.requireRow, hfound, hsubject, hterminal, hne, hinserted, require, bind,
        Except.bind]
    have hcreated : t.store.createManualPending i.referenced i.newRunId row.mediaId locationId
        row.analysisDefinition i.nowMs = .ok (run, { t.store with runs := runs }) := by
      simp [RunStore.createManualPending, hinactive, hlatest, hterminal, RunStore.orWinner,
        show t.store.insertPending i.referenced (.fresh i.newRunId row.mediaId locationId
          row.analysisDefinition i.nowMs (some latest.id)) = _ from hpending]
    obtain ⟨u, hdone, -⟩ := requestedManually_of_created hcreated
    exact ⟨run, u, hdone, rfl, rfl⟩

end Requests

/-- A run at or above the limit stays where it is. -/
theorem stays_stuck {lower : String → String} {maxAttempts : MaxAttempts} {s : AnalysisState}
    {row : MediaAnalysisRun} (hs : s.store.Checked) (hsingle : s.store.SingleActive)
    (hrow : s.store.find? row.id = some row) (hpending : row.state = .pending)
    (hover : maxAttempts.value ≤ row.attemptCount) : StaysStuck lower maxAttempts s row := by
  intro batchSize hbatch n t ht
  have hkept := ht.stuck hbatch hs hrow hpending hover
  obtain ⟨-, hdescends⟩ := ht.descends hbatch hs
  have hsingle' : t.store.SingleActive := hdescends.singleActive hsingle
  exact ⟨hkept, fun i locationId => requestedManually_active hsingle' hkept (by rw [hpending]; rfl)⟩

theorem not_comesToEnd {lower : String → String} {maxAttempts : MaxAttempts} {s : AnalysisState}
    {row : MediaAnalysisRun} {k : MediaAnalysisRunId} (hs : s.store.Checked)
    (hrow : s.store.find? k = some row) (hpending : row.state = .pending)
    (hover : maxAttempts.value ≤ row.attemptCount) : ¬ComesToEnd lower maxAttempts s k := by
  intro hend
  obtain ⟨n, ⟨t, ht⟩, hall⟩ := hend 1 Nat.one_pos
  obtain ⟨row', hrow', hterminal, -⟩ := hall t ht
  have hkept := ht.stuck Nat.one_pos hs hrow hpending hover
  rw [hkept] at hrow'
  cases hrow'
  rw [hpending] at hterminal
  cases hterminal

/-- In every reachable state, an active run comes to its end under a limit exactly when it is
not pending with all the attempts of that limit used up; with them used up it is stuck. -/
theorem active_run_comes_to_end_iff (lower : String → String) (records : List BoundRecord)
    {w : World AnalysisEffect AnalysisEffect.Answer AnalysisFailure AnalysisState Memory Unit}
    (h : Reachable (analysisSystem lower) ⟨⟨Table.empty, records⟩, []⟩ w)
    (row : MediaAnalysisRun) (hrow : w.state.store.find? row.id = some row)
    (hactive : row.state.active = true) (maxAttempts : MaxAttempts) :
    (ComesToEnd lower maxAttempts w.state row.id ↔
      (row.state = .pending → row.attemptCount < maxAttempts.value)) ∧
    (row.state = .pending → maxAttempts.value ≤ row.attemptCount →
      StaysStuck lower maxAttempts w.state row) := by
  have hchecked := reachable_checked h
  have hsingle := reachable_singleActive h
  refine ⟨⟨fun hend hpending => ?_, fun hclaimable batchSize hbatch => ?_⟩,
    stays_stuck hchecked hsingle hrow⟩
  · by_contra hover
    exact not_comesToEnd hchecked hrow hpending (by omega) hend
  · refine ⟨maxAttempts.value + 1, drainedTimes_exists hbatch _ hchecked, fun t ht => ?_⟩
    obtain ⟨row', hrow', hterminal⟩ := ht.ends hbatch hchecked hrow hactive hclaimable
      (Nat.succ_pos _) fun _ => by omega
    obtain ⟨hchecked', hdescends⟩ := ht.descends hbatch hchecked
    refine ⟨row', hrow', hterminal, acceptsManual hchecked' hrow' ?_⟩
    cases hfound : t.store.activeRun row'.mediaId row'.analysisDefinition with
    | none => rfl
    | some run =>
      -- it stems from an active run of the same medium and definition: from the run itself
      obtain ⟨hrun, hm, hd, ha⟩ := activeRun_some hfound
      obtain ⟨r₀, hr₀, horigin, hactive₀⟩ := hdescends _ _ hrun
      obtain ⟨r₁, hr₁, horigin₁, -⟩ := hdescends _ _ hrow'
      rw [hrow] at hr₁
      cases hr₁
      have hid := hsingle run.id row.id r₀ row hr₀ hrow (hactive₀ ha) hactive
        (by rw [← horigin.mediaId, hm, horigin₁.mediaId])
        (by rw [← horigin.definition, hd, horigin₁.definition])
      rw [hid, hrow'] at hrun
      cases hrun
      rw [MediaAnalysisRunState.active_eq_not_terminal, hterminal] at ha
      cases ha

/-! A run requested by hand, whose first attempt meets a rate limit. -/

def requestedOnce : List (Move Caller Moment) :=
  .start (.requestManual ⟨sampleMedium, sampleLocation⟩ automaticPostCatalogAnalysisDefinition) ::
    List.replicate 3 (.call 0 sampleMoment)

def rateLimitedOnce : List (Move Caller Moment) :=
  requestedOnce ++ .start (.drain .default 8 2) ::
    List.replicate 18 (.call 1 { sampleMoment with suggestion := .error .providerRateLimited })

/-- Before its first attempt the run comes to its end under the default limit. -/
theorem active_run_comes_to_end_requested :
    let w := requestedOnce.foldl (World.move (analysisSystem id)) ⟨⟨⟨Table.empty, []⟩, []⟩, []⟩
    ∃ row, w.state.store.find? sampleRun = some row ∧ row.state = .pending ∧
      ComesToEnd id .default w.state row.id := by
  intro w
  have hreach : Reachable (analysisSystem id) ⟨⟨Table.empty, []⟩, []⟩ w :=
    World.moves_reach _ _ (World.allowed_of_forall (fun _ _ _ _ => trivial) _ _)
  have hfound : (w.state.store.find? sampleRun).any (fun r => r.state = .pending &&
      r.attemptCount = 0 && r.id = sampleRun) = true := by decide +kernel
  obtain ⟨row, hrow, hfields⟩ := (Option.any_eq_true _ _).mp hfound
  simp only [Bool.and_eq_true, decide_eq_true_eq] at hfields
  obtain ⟨⟨hpending, hcount⟩, hid⟩ := hfields
  have hclaimable : row.state = .pending → row.attemptCount < MaxAttempts.default.value := by
    intro _
    rw [hcount]
    decide
  exact ⟨row, hrow, hpending, (active_run_comes_to_end_iff id [] hreach row (by rw [hid]; exact hrow)
    (by rw [hpending]; rfl) .default).1.mpr hclaimable⟩

/-- After it, a coordinator restarted with a limit of one never ends it. -/
theorem active_run_stuck_under_lowered_limit :
    ¬∀ w, Reachable (analysisSystem id) ⟨⟨Table.empty, []⟩, []⟩ w → ∀ row : MediaAnalysisRun,
      w.state.store.find? row.id = some row → row.state.active = true → ∀ maxAttempts,
        ComesToEnd id maxAttempts w.state row.id := by
  intro h
  have hreach := World.moves_reach (Y := analysisSystem id) rateLimitedOnce
    ⟨⟨⟨Table.empty, []⟩, []⟩, []⟩ (World.allowed_of_forall (fun _ _ _ _ => trivial) _ _)
  have hfound : ((rateLimitedOnce.foldl (World.move (analysisSystem id))
      ⟨⟨⟨Table.empty, []⟩, []⟩, []⟩).state.store.find? sampleRun).any (fun r => r.state = .pending &&
        1 ≤ r.attemptCount && r.id = sampleRun) = true := by decide +kernel
  obtain ⟨row, hrow, hfields⟩ := (Option.any_eq_true _ _).mp hfound
  simp only [Bool.and_eq_true, decide_eq_true_eq] at hfields
  obtain ⟨⟨hpending, hcount⟩, hid⟩ := hfields
  have hend := h _ hreach row (by rw [hid]; exact hrow) (by rw [hpending]; rfl)
    ⟨1, by decide, by decide⟩
  rw [hid] at hend
  exact not_comesToEnd (reachable_checked hreach) hrow hpending hcount hend

end FrameNest.Analysis
