import FrameNest.Concurrent.CrashLogic
import FrameNest.Concurrent.Issues
import FrameNest.Analysis.PaidCalls

/-! A coordinator that nothing holds up: the database answers, nobody stops it, nobody else
has its runs in hand, and the provider comes back with an answer or an error. -/
namespace FrameNest.Analysis
open Concurrent Relational

structure ResponsiveMoment extends Moment where
  answers : databaseFault = none
  running : stopping = false
  outside : inTransaction = false
  uninterrupted : interruptRequested = false
  idle : active = false

def responsiveExec (i : ResponsiveMoment) (e : AnalysisEffect) (s : AnalysisState) :
    Except AnalysisFailure e.Answer × AnalysisState := e.exec i.toMoment s

/-- Every row satisfies the CHECK constraints. -/
def RunStore.Checked (s : RunStore) : Prop := ∀ k r, s.find? k = some r → r.checks = true

/-- What holds where a responsive run of the program ends, the rows checked all the while. -/
abbrev Ends {α : Type} (Q : Except AnalysisFailure α → AnalysisState → Prop)
    (p : AnalysisProgram α) (s : AnalysisState) : Prop :=
  Upholds responsiveExec (fun t => t.store.Checked) Q p s

/-- The columns no statement changes. -/
structure SameOrigin (a b : MediaAnalysisRun) : Prop where
  id : b.id = a.id
  mediaId : b.mediaId = a.mediaId
  definition : b.analysisDefinition = a.analysisDefinition
  createdAtMs : b.createdAtMs = a.createdAtMs
  supersedesRunId : b.supersedesRunId = a.supersedesRunId

theorem SameOrigin.refl (r : MediaAnalysisRun) : SameOrigin r r := ⟨rfl, rfl, rfl, rfl, rfl⟩

theorem SameOrigin.trans {a b c : MediaAnalysisRun} (h : SameOrigin a b) (h' : SameOrigin b c) :
    SameOrigin a c :=
  ⟨h'.id.trans h.id, h'.mediaId.trans h.mediaId, h'.definition.trans h.definition,
    h'.createdAtMs.trans h.createdAtMs, h'.supersedesRunId.trans h.supersedesRunId⟩

section Writes
variable {s t : RunStore} {row row' : MediaAnalysisRun}

theorem Rewritten.checked (h : Rewritten s t row row') (hs : s.Checked) : t.Checked := by
  intro k r hr
  rw [h.find] at hr
  by_cases hk : row.id = k
  · rw [if_pos hk] at hr
    cases hr
    exact h.checks
  · rw [if_neg hk] at hr
    exact hs k r hr

theorem Rewritten.found' (h : Rewritten s t row row') : t.find? row.id = some row' := by
  rw [h.find, if_pos rfl]

theorem Rewritten.other (h : Rewritten s t row row') {k : MediaAnalysisRunId} (hk : k ≠ row.id) :
    t.find? k = s.find? k := by
  rw [h.find, if_neg (Ne.symm hk)]

/-- A row that is there is rewritten. -/
theorem rewriteRun_writes {state : MediaAnalysisRunState} (allowed : MediaAnalysisRun → Bool)
    (f : MediaAnalysisRun → MediaAnalysisRun) (hf : ∀ r, (f r).id = r.id)
    (hrow : s.find? row.id = some row) (hs : row.state = state) (ha : allowed row = true)
    (hc : (f row).checks = true) :
    ∃ t, s.rewriteRun row.id row.version state allowed f hf = .ok (f row, t) ∧
      Rewritten s t row (f row) := by
  have hdone : s.rewriteRun row.id row.version state allowed f hf = .ok (f row, _) :=
    RunStore.rewriteRun_of_found hrow hs rfl ha hc
  refine ⟨_, hdone, ?_⟩
  obtain ⟨row₀, hid, -, -, -, hanswer, hrewritten⟩ := RunStore.rewriteRun_ok hdone
  have hsame : row₀ = row := by
    have hfound := hrewritten.found
    rw [hid, hrow] at hfound
    exact (Option.some.inj hfound).symm
  subst hsame
  exact hrewritten

end Writes

section Calls
variable {α : Type} {s : AnalysisState} {Q : Except AnalysisFailure α → AnalysisState → Prop}

/-- A call that writes no run. -/
def AnalysisEffect.reads : AnalysisEffect → Bool
  | .runs .. => false
  | _ => true

theorem exec_store {e : AnalysisEffect} (he : e.reads = true) (i : Moment) (s : AnalysisState) :
    (e.exec i s).2.store = s.store := by
  cases e <;> first | rfl | cases he

/-- What follows a call that writes no run. -/
theorem ends_read {e : AnalysisEffect} {f : e.Answer → AnalysisProgram α} (he : e.reads = true)
    (hs : s.store.Checked)
    (hok : ∀ (i : ResponsiveMoment) a t, (e.exec i.toMoment s).1 = .ok a → t.store = s.store →
      Ends Q (f a) t)
    (herror : ∀ (i : ResponsiveMoment) x t, (e.exec i.toMoment s).1 = .error x →
      t.store = s.store → Q (.error x) t) : Ends Q (perform e >>= f) s := by
  refine Upholds.bind (Upholds.perform fun i => ?_)
  have hstore : (responsiveExec i e s).2.store = s.store := exec_store he i.toMoment s
  refine ⟨by rw [hstore]; exact hs, ?_⟩
  cases hr : (responsiveExec i e s).1 with
  | ok a => exact hok i a _ hr hstore
  | error x => exact herror i x _ hr hstore

theorem responsive_fault (i : ResponsiveMoment) : i.toMoment.fault = none := by
  simp [Moment.fault, i.answers]

/-- A transaction that goes through. -/
theorem responsive_ok (actor : Actor) (op : RunOperation) {a : op.Answer} {t : RunStore}
    (i : ResponsiveMoment) (h : op.run i.newRunId i.referenced s.store = .ok (a, t)) :
    (responsiveExec i (.runs actor op) s).1 = .ok a ∧
      (responsiveExec i (.runs actor op) s).2.store = t := by
  have hexec : op.exec i.toMoment s.store = (.ok a, t) := by
    unfold RunOperation.exec
    rw [responsive_fault i]
    exact transaction_of_ok h
  constructor
  · show (op.exec i.toMoment s.store).1.mapError _ = _
    rw [hexec]
    rfl
  · show (op.exec i.toMoment s.store).2 = _
    rw [hexec]

theorem responsive_error (actor : Actor) {op : RunOperation} {x : RunRepositoryError}
    (i : ResponsiveMoment) (h : op.run i.newRunId i.referenced s.store = .error x) :
    (responsiveExec i (.runs actor op) s).1 = .error (.repository x) ∧
      (responsiveExec i (.runs actor op) s).2.store = s.store := by
  have hexec : op.exec i.toMoment s.store = (.error x, s.store) := by
    unfold RunOperation.exec
    rw [responsive_fault i]
    exact transaction_of_error h
  constructor
  · show (op.exec i.toMoment s.store).1.mapError _ = _
    rw [hexec]
    rfl
  · show (op.exec i.toMoment s.store).2 = _
    rw [hexec]

/-- A transaction that goes through whatever identity is drawn, and what holds after it. -/
theorem ends_write {actor : Actor} {op : RunOperation} {a : op.Answer} {t : RunStore}
    {Q : Except AnalysisFailure op.Answer → AnalysisState → Prop}
    (h : ∀ id referenced, op.run id referenced s.store = .ok (a, t)) (ht : t.Checked)
    (hQ : ∀ u : AnalysisState, u.store = t → Q (.ok a) u) : Ends Q (runs actor op) s := by
  refine Upholds.perform (R := AnalysisEffect.Answer) (e := .runs actor op) (Q := Q) fun i => ?_
  obtain ⟨hanswer, hstore⟩ := responsive_ok actor op i (h i.newRunId i.referenced)
  rw [hanswer, hstore]
  exact ⟨ht, hQ _ hstore⟩

theorem ends_refused {actor : Actor} {op : RunOperation} {x : RunRepositoryError}
    {Q : Except AnalysisFailure op.Answer → AnalysisState → Prop} (hs : s.store.Checked)
    (h : ∀ id referenced, op.run id referenced s.store = .error x)
    (hQ : ∀ u : AnalysisState, u.store = s.store → Q (.error (.repository x)) u) :
    Ends Q (runs actor op) s := by
  refine Upholds.perform (R := AnalysisEffect.Answer) (e := .runs actor op) (Q := Q) fun i => ?_
  obtain ⟨hanswer, hstore⟩ := responsive_error actor i (h i.newRunId i.referenced)
  rw [hanswer, hstore]
  exact ⟨hs, hQ _ hstore⟩

/-- One program after another, and one inside a `try`, by where the first ends. -/
theorem ends_bind {β : Type} {Q' : Except AnalysisFailure α → AnalysisState → Prop}
    {Q : Except AnalysisFailure β → AnalysisState → Prop} {p : AnalysisProgram α}
    {f : α → AnalysisProgram β} (h : Ends Q' p s) (hok : ∀ a t, Q' (.ok a) t → Ends Q (f a) t)
    (herror : ∀ x t, Q' (.error x) t → Q (.error x) t) : Ends Q (p >>= f) s := by
  refine Upholds.bind (Upholds.mono (fun r t ht => ?_) h)
  cases r with
  | ok a => exact hok a t ht
  | error x => exact herror x t ht

theorem ends_rescue (Q' : Except AnalysisFailure α → AnalysisState → Prop)
    {Q : Except AnalysisFailure α → AnalysisState → Prop}
    {p : AnalysisProgram α} {handler : AnalysisFailure → AnalysisProgram α} (h : Ends Q' p s)
    (hok : ∀ a t, Q' (.ok a) t → Q (.ok a) t)
    (herror : ∀ x t, Q' (.error x) t → Ends Q (handler x) t) : Ends Q (p.rescue handler) s := by
  refine Upholds.rescue (Upholds.mono (fun r t ht => ?_) h)
  cases r with
  | ok a => exact hok a t ht
  | error x => exact herror x t ht

end Calls

/-- What one visit of the coordinator makes of a run, under the limit it was started with. -/
inductive Turned (maxAttempts : MaxAttempts) (r r' : MediaAnalysisRun) : Prop
  | finished (claimable : r.state = .pending → r.attemptCount < maxAttempts.value)
      (h : r'.state.terminal = true)
  | retried (hp : r.state = .pending) (hp' : r'.state = .pending)
      (h : r.attemptCount < r'.attemptCount) (hm : r'.attemptCount < maxAttempts.value)
  | refused (hp : r.state = .pending) (hm : maxAttempts.value ≤ r.attemptCount) (h : r' = r)

/-- A visit: the run is turned and every other one is left alone. -/
structure VisitedRun (maxAttempts : MaxAttempts) (run : MediaAnalysisRun) (s t : RunStore) : Prop where
  others : ∀ k, k ≠ run.id → t.find? k = s.find? k
  turned : ∃ row', t.find? run.id = some row' ∧ SameOrigin run row' ∧ Turned maxAttempts run row'

section Visit
variable {lower : String → String} {s : AnalysisState} {run claimed : MediaAnalysisRun}
  {maxAttempts : MaxAttempts}

theorem reconcileInterrupted_pending (h : run.state = .pending) :
    reconcileInterrupted run = pure run := by
  unfold reconcileInterrupted
  rw [if_pos (by simp [h])]

/-- A run found analyzing is failed: whoever claimed it is gone. -/
theorem reconcileInterrupted_fails (hs : s.store.Checked) (hrow : s.store.find? run.id = some run)
    (h : run.state = .analyzing) :
    Ends (fun r t => ∃ now, r = .ok (run.interrupted now) ∧
      Rewritten s.store t.store run (run.interrupted now)) (reconcileInterrupted run) s := by
  unfold reconcileInterrupted
  rw [if_neg (by simp [h])]
  refine ends_read rfl hs (fun i (now : Nat) t _ ht => ?_) fun i x t hx _ => by cases hx
  rw [← ht] at hrow hs ⊢
  obtain ⟨u, hdone, hrewritten⟩ := rewriteRun_writes (fun _ => true)
    (fun r => r.interrupted now) (fun _ => rfl) hrow h rfl
    (interrupted_checks (hs _ _ hrow) h now)
  refine ends_rescue (fun r v => r = .ok (run.interrupted now) ∧ v.store = u)
    (ends_write (fun _ _ => hdone) (hrewritten.checked hs) fun v hv => ⟨rfl, hv⟩) ?_ ?_
  · rintro a v ⟨ha, hv⟩
    exact ⟨now, ha, by rw [hv]; exact hrewritten⟩
  · rintro x v ⟨hx, -⟩
    cases hx

/-- The claim of a pending run below the limit. -/
theorem claim_succeeds (hs : s.store.Checked) (hrow : s.store.find? run.id = some run)
    (h : run.state = .pending) (hm : run.attemptCount < maxAttempts.value) :
    Ends (fun r t => ∃ now, r = .ok (run.claimed now) ∧
      Rewritten s.store t.store run (run.claimed now)) (claim .coordinator run maxAttempts) s := by
  refine ends_read rfl hs (fun i (now : Nat) t _ ht => ?_) fun i x t hx _ => by cases hx
  rw [← ht] at hrow hs ⊢
  have hbound : run.attemptCount + 1 ≤ 100 := by
    have hlimit : maxAttempts.value ≤ 10 := maxAttempts.bounded
    omega
  obtain ⟨u, hdone, hrewritten⟩ := rewriteRun_writes
    (fun row => row.attemptCount + 1 ≤ maxAttempts.value)
    (fun r => r.claimed now) (fun _ => rfl) hrow h (by simpa using Nat.succ_le_of_lt hm)
    (claimed_checks (hs _ _ hrow) h now hbound)
  exact ends_write (fun _ _ => hdone) (hrewritten.checked hs) fun v hv =>
    ⟨now, rfl, by rw [hv]; exact hrewritten⟩

/-- A pending run that has used up its attempts is never claimed. -/
theorem claim_refuses (hs : s.store.Checked) (hrow : s.store.find? run.id = some run)
    (h : run.state = .pending) (hm : maxAttempts.value ≤ run.attemptCount) :
    Ends (fun r t => (∃ x, r = .error x) ∧ t.store = s.store)
      (claim .coordinator run maxAttempts) s := by
  refine ends_read rfl hs (fun i (now : Nat) t _ ht => ?_) fun i x t hx _ => by cases hx
  rw [← ht] at hrow hs ⊢
  have hrefused : t.store.claimPending run.id run.version now maxAttempts = .error .conflict := by
    have hover : ¬run.attemptCount + 1 ≤ maxAttempts.value := by omega
    simp [RunStore.claimPending, RunStore.rewriteRun, RunStore.requireRow, hrow, h, hover, require,
      bind, Except.bind]
  exact ends_refused hs (fun _ _ => hrefused) fun u hu => ⟨⟨_, rfl⟩, hu⟩

/-- A program of reads leaves the runs as they are. -/
theorem ends_reads {α : Type} {p : AnalysisProgram α} (hs : s.store.Checked)
    (h : Issues (fun _ _ => True) (fun e : AnalysisEffect => e.reads = true) (fun _ => True) p) :
    Ends (fun _ t => t.store = s.store) p s := by
  induction p generalizing s with
  | done a => rfl
  | fail x => rfl
  | call e next ih =>
    intro i
    have hstore : (responsiveExec i e s).2.store = s.store := exec_store h.1 i.toMoment s
    have hchecked : (responsiveExec i e s).2.store.Checked := by
      rw [hstore]
      exact hs
    refine ⟨hchecked, Upholds.mono (fun r t ht => ht.trans hstore) (ih _ hchecked ?_)⟩
    cases (responsiveExec i e s).1 with
    | ok a => exact h.2.2 a trivial
    | error x => exact h.2.1 x

variable (lower claimed maxAttempts) in
theorem executeSuggestion_reads : Issues (fun _ _ => True)
    (fun e : AnalysisEffect => e.reads = true) (fun _ => True)
    (executeSuggestion lower claimed maxAttempts) := by
  have hread : ∀ {e : AnalysisEffect}, e.reads = true → Issues (fun _ _ => True)
      (fun e : AnalysisEffect => e.reads = true) (fun _ => True) (perform e) :=
    fun he => Issues.perform he fun _ _ => trivial
  have hof : ∀ {α : Type} (x : Except AnalysisException α), Issues (fun _ _ => True)
      (fun e : AnalysisEffect => e.reads = true) (fun _ => True) (ofExcept x) := by
    intro α x
    cases x <;> trivial
  refine Issues.bind (hread rfl) fun (configured : Bool) _ => ?_
  refine Issues.ite (fun _ => trivial) fun _ => ?_
  refine Issues.bind (hread rfl) fun (capabilities : Option (List String)) _ => ?_
  refine Issues.ite (fun _ => trivial) fun _ => ?_
  refine Issues.bind (hread rfl) fun (media : Option CatalogMedia) _ => ?_
  refine Issues.bind (hread rfl) fun (location : Option CatalogLocation) _ => ?_
  cases media with
  | none => trivial
  | some media =>
    cases location with
    | none => trivial
    | some location =>
      refine Issues.ite (fun _ => trivial) fun _ => ?_
      refine Issues.bind (hread rfl) fun (root : Option String) _ => ?_
      cases root with
      | none => trivial
      | some root =>
        refine Issues.ite (fun _ => trivial) fun _ => ?_
        refine Issues.bind (hof _) fun extension _ => Issues.ite (fun _ => trivial) fun _ => ?_
        refine Issues.bind (Issues.rescue (hread rfl) fun x => ?_) fun prepared _ =>
          Issues.bind (hof _) fun request _ => hread rfl
        cases x with
        | execution x => cases x <;> trivial
        | _ => trivial

/-- The attempt itself ends without raising and without touching a run. -/
theorem attemptSuggestion_keeps (hs : s.store.Checked) :
    Ends (fun r t => (∃ outcome, r = .ok outcome) ∧ t.store = s.store)
      (attemptSuggestion lower claimed maxAttempts) s := by
  have hreads := ends_reads hs (executeSuggestion_reads lower claimed maxAttempts)
  refine ends_rescue (fun _ t => t.store = s.store)
    (ends_bind hreads (fun a t ht => ht) fun x t ht => ht) ?_ ?_
  · intro a t ht
    exact ⟨⟨a, rfl⟩, ht⟩
  · intro x t ht
    exact ⟨⟨_, rfl⟩, ht⟩

/-- What becomes of a claimed run: it is over, or pending again with an attempt to go. -/
structure Settled (maxAttempts : MaxAttempts) (claimed : MediaAnalysisRun) (s t : RunStore) :
    Prop where
  settled : ∃ row', Rewritten s t claimed row' ∧ SameOrigin claimed row' ∧
    (row'.state.terminal = true ∨ row'.state = .pending ∧
      row'.attemptCount = claimed.attemptCount ∧ claimed.attemptCount < maxAttempts.value)

theorem ends_orLifecycleError {α : Type} {message : String} {p : AnalysisProgram α}
    {Q : AnalysisState → Prop} (h : Ends (fun _ t => Q t) p s) :
    Ends (fun _ t => Q t) (orLifecycleError message p) s := by
  refine ends_rescue _ h (fun _ t ht => ht) fun x t ht => ?_
  cases x <;> exact ht

theorem persistFailure_settles (x : AnalysisFailure) (hs : s.store.Checked)
    (hrow : s.store.find? claimed.id = some claimed) (h : claimed.state = .analyzing) :
    Ends (fun _ t => Settled maxAttempts claimed s.store t.store)
      (persistFailure claimed maxAttempts x) s := by
  refine ends_read rfl hs (fun i (asked : Bool) t hanswer ht => ?_) fun i x t hx _ => by cases hx
  have hasked : asked = false := by
    have hvalue : i.interruptRequested = asked := Except.ok.inj hanswer
    rw [← hvalue]
    exact i.uninterrupted
  rw [← ht] at hrow hs ⊢
  subst hasked
  refine ends_read rfl hs (fun i (now : Nat) u _ hu => ?_) fun i x t hx _ => by cases hx
  rw [← hu] at hrow hs ⊢
  refine Upholds.ite (fun hretry => ?_) fun _ => ?_
  · simp only [Bool.and_eq_true, decide_eq_true_eq] at hretry
    obtain ⟨v, hdone, hrewritten⟩ := rewriteRun_writes (fun _ => true)
      (fun r => r.requeued) (fun _ => rfl) hrow h rfl (requeued_checks (hs _ _ hrow) h)
    refine ends_orLifecycleError (ends_write (fun _ _ => hdone) (hrewritten.checked hs) fun w hw => ?_)
    rw [hw]
    exact ⟨_, hrewritten, ⟨rfl, rfl, rfl, rfl, rfl⟩, Or.inr ⟨rfl, rfl, hretry.1.2⟩⟩
  · obtain ⟨v, hdone, hrewritten⟩ := rewriteRun_writes (fun _ => true)
      (fun r => r.failed (classifyFailure x.exception).1 (classifyFailure x.exception).2.1 now)
      (fun _ => rfl) hrow h rfl (failed_checks (hs _ _ hrow) h _ _ now)
    refine ends_orLifecycleError (ends_write (fun _ _ => hdone) (hrewritten.checked hs) fun w hw => ?_)
    rw [hw]
    exact ⟨_, hrewritten, ⟨rfl, rfl, rfl, rfl, rfl⟩, Or.inl rfl⟩

theorem recordSuggestion_settles (suggestion : MediaSuggestion) (hs : s.store.Checked)
    (hrow : s.store.find? claimed.id = some claimed) (h : claimed.state = .analyzing) :
    Ends (fun _ t => Settled maxAttempts claimed s.store t.store)
      (recordSuggestion .coordinator claimed suggestion) s := by
  refine ends_read rfl hs (fun i (now : Nat) t _ ht => ?_) fun i x t hx _ => by cases hx
  rw [← ht] at hrow hs ⊢
  obtain ⟨u, hdone, hrewritten⟩ := rewriteRun_writes (fun _ => true)
    (fun r => r.analyzed suggestion now) (fun _ => rfl) hrow h rfl
    (analyzed_checks (hs _ _ hrow) h suggestion now)
  have hnoted : Rewritten t.store (u.noteSuccessfulAnalysis (claimed.analyzed suggestion now))
      claimed (claimed.analyzed suggestion now) := by
    refine ⟨hrewritten.found, hrewritten.id, hrewritten.checks, fun k => ?_⟩
    rw [RunStore.noteSuccessfulAnalysis_find?]
    exact hrewritten.find k
  have hrecorded : t.store.recordAnalyzed claimed.id claimed.version suggestion now =
      .ok (claimed.analyzed suggestion now,
        u.noteSuccessfulAnalysis (claimed.analyzed suggestion now)) := by
    unfold RunStore.recordAnalyzed
    rw [hdone]
    rfl
  refine ends_write (fun _ _ => hrecorded) (hnoted.checked hs) fun w hw => ?_
  rw [hw]
  exact ⟨_, hnoted, ⟨rfl, rfl, rfl, rfl, rfl⟩, Or.inl rfl⟩

/-- An execution turns its run and no other. -/
theorem execute_visits (hs : s.store.Checked) (hrow : s.store.find? run.id = some run)
    (hactive : run.state.active = true) :
    Ends (fun _ t => VisitedRun maxAttempts run s.store t.store) (execute lower run maxAttempts) s := by
  have hterminal : ¬run.state.terminal = true := by
    rw [MediaAnalysisRunState.active_eq_not_terminal] at hactive
    simpa using hactive
  unfold execute
  rw [if_neg hterminal]
  by_cases hpending : run.state = .pending
  · rw [reconcileInterrupted_pending hpending, Program.pure_eq, Program.done_bind, if_pos hpending]
    unfold executeClaimed
    by_cases hm : run.attemptCount < maxAttempts.value
    · refine ends_bind (claim_succeeds hs hrow hpending hm) ?_ ?_
      · rintro a t ⟨now, ha, hclaimed⟩
        cases ha
        have ht := hclaimed.checked hs
        have hheld : t.store.find? (run.claimed now).id = some (run.claimed now) := hclaimed.found'
        refine ends_read rfl ht (fun i (inside : Bool) u hanswer hu => ?_) fun i x t hx _ => by
          cases hx
        have houtside : inside = false := by
          have hvalue : i.inTransaction = inside := Except.ok.inj hanswer
          rw [← hvalue]
          exact i.outside
        rw [← hu] at ht hheld hclaimed
        subst houtside
        -- the outcome of the attempt decides how the claim ends, not which run it is about
        have hsettled : ∀ v : AnalysisState, v.store = u.store → ∀ w : AnalysisState,
            Settled maxAttempts (run.claimed now) v.store w.store →
            VisitedRun maxAttempts run s.store w.store := by
          intro v hv w hw
          obtain ⟨row', hrewritten, horigin, hend⟩ := hw
          rw [hv] at hrewritten
          refine ⟨fun k hk => (hrewritten.other hk).trans (hclaimed.other hk), row',
            hrewritten.found', SameOrigin.trans (b := run.claimed now) ⟨rfl, rfl, rfl, rfl, rfl⟩ horigin, ?_⟩
          obtain hover | ⟨hagain, hcount, hbelow⟩ := hend
          · exact .finished (fun _ => hm) hover
          · have hnext : (run.claimed now).attemptCount = run.attemptCount + 1 := rfl
            exact .retried hpending hagain (by omega) (by omega)
        refine ends_bind (attemptSuggestion_keeps ht) ?_ ?_
        · rintro outcome v ⟨-, hv⟩
          have hv' := hv
          rw [← hv] at ht hheld
          cases outcome with
          | error x =>
            exact Upholds.mono (fun _ w hw => hsettled v hv' w hw)
              (persistFailure_settles x ht hheld rfl)
          | ok suggestion =>
            exact Upholds.mono (fun _ w hw => hsettled v hv' w hw)
              (ends_orLifecycleError (recordSuggestion_settles suggestion ht hheld rfl))
        · rintro x v ⟨⟨outcome, hx⟩, -⟩
          cases hx
      · rintro x t ⟨now, hx, -⟩
        cases hx
    · have hover : maxAttempts.value ≤ run.attemptCount := by omega
      refine ends_bind (claim_refuses hs hrow hpending hover) ?_ ?_
      · rintro a t ⟨⟨x, hx⟩, -⟩
        cases hx
      · rintro x t ⟨-, ht⟩
        rw [ht]
        exact ⟨fun _ _ => rfl, run, hrow, .refl run, .refused hpending hover rfl⟩
  · have hanalyzing : run.state = .analyzing := by
      cases hstate : run.state with
      | pending => exact absurd hstate hpending
      | analyzing => rfl
      | analyzed =>
        rw [hstate] at hactive
        cases hactive
      | failed =>
        rw [hstate] at hactive
        cases hactive
    refine ends_bind (reconcileInterrupted_fails hs hrow hanalyzing) ?_ ?_
    · rintro a t ⟨now, ha, hfailed⟩
      cases ha
      exact ⟨fun k hk => hfailed.other hk, _, hfailed.found', ⟨rfl, rfl, rfl, rfl, rfl⟩,
        .finished (fun h => absurd h hpending) rfl⟩
    · rintro x t ⟨now, hx, -⟩
      cases hx

end Visit

end FrameNest.Analysis
