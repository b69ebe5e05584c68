import FrameNest.Relational.Linked
import FrameNest.Analysis.ImportedPreviews
import FrameNest.Analysis.ResponsiveDrain

/-! The history of the runs of one medium and definition: each new run supersedes one, and
every reader picks the latest by a clock column and an identity. -/
namespace FrameNest.Analysis
open Concurrent Relational

/-- Strictly before, by a time and then by a name. -/
def keyBefore (a b : Nat × String) : Prop := a.1 < b.1 ∨ (a.1 = b.1 ∧ a.2 < b.2)

instance : DecidableRel keyBefore := fun _ _ => inferInstanceAs (Decidable (_ ∨ _))

/-- The columns `created_at_ms` and `id`. -/
def MediaAnalysisRun.createdKey (r : MediaAnalysisRun) : Nat × String := (r.createdAtMs, r.id.value)

/-- The columns `completed_at_ms` and `id`, of a run that has a completion. -/
def MediaAnalysisRun.completedKey (r : MediaAnalysisRun) : Nat × String :=
  (r.completedAtMs.getD 0, r.id.value)

/-- A run of the same medium and definition. -/
def MediaAnalysisRun.sameSubject (b a : MediaAnalysisRun) : Bool :=
  a.mediaId = b.mediaId && a.analysisDefinition = b.analysisDefinition

section Readers

/-- `_load_latest_analysis_states` and the `latest_analysis_state` of the administrators' list:
the state of rank one, newest first. -/
def RunStore.latestAnalysisState (s : RunStore) (mediaId : MediaId) :
    Option MediaAnalysisRunState :=
  ((s.matching mediaId automaticPostCatalogAnalysisDefinition).insertionSort
    RunStore.newerFirst).head?.map (·.state)

/-- `_analyzed_inbox_predicates`, for a medium that is not a movie. -/
def MediaAnalysisRun.analyzedInbox (r : MediaAnalysisRun) : Bool :=
  r.state = .analyzed && (r.analysisProfile = some .genericMedia || r.analysisProfile.isNone) &&
    r.completedAtMs.isSome

/-- `ORDER BY completed_at_ms DESC, id DESC`. -/
def RunStore.completedFirst (a b : MediaAnalysisRun) : Prop :=
  b.completedKey.1 < a.completedKey.1 ∨
    (a.completedKey.1 = b.completedKey.1 ∧ b.completedKey.2 ≤ a.completedKey.2)

instance : DecidableRel RunStore.completedFirst :=
  fun _ _ => inferInstanceAs (Decidable (_ ∨ _))

def RunStore.analyzedInbox (s : RunStore) (mediaId : MediaId) : List MediaAnalysisRun :=
  (s.matching mediaId automaticPostCatalogAnalysisDefinition).filter (·.analyzedInbox)

/-- `_latest_successful_generic`, which goes by the completion. -/
def RunStore.latestSuccessfulGeneric (s : RunStore) (mediaId : MediaId) : Option MediaAnalysisRun :=
  ((s.analyzedInbox mediaId).insertionSort RunStore.completedFirst).head?

end Readers

/-- One chain in creation order, whose end is the latest run of every reader. Rows are kept in
the order of their creation. -/
structure Supersession (s : RunStore) : Prop where
  chain : ∀ older run newer, s.runs.rows = older ++ run :: newer →
    run.supersedesRunId = ((older.filter run.sameSubject).getLast?).map (·.id)
  once : ∀ a ∈ s.runs.rows, ∀ b ∈ s.runs.rows, ∀ c ∈ s.runs.rows,
    b.supersedesRunId = some a.id → c.supersedesRunId = some a.id → b = c
  latest : ∀ mediaId definition,
    s.latestRun mediaId definition = (s.matching mediaId definition).getLast?
  states : ∀ mediaId, s.latestAnalysisState mediaId =
    (s.matching mediaId automaticPostCatalogAnalysisDefinition).getLast?.map (·.state)
  successful : ∀ mediaId, s.latestSuccessfulGeneric mediaId = (s.analyzedInbox mediaId).getLast?

/-- The clock has advanced, or the drawn identity comes behind: a new run is newer than the
runs it joins, and a completion later than the completions before it. -/
def ClockAdvances (i : Moment) (s : AnalysisState) : AnalysisEffect → Prop
  | .runs _ (.createManualPending mediaId _ definition createdAtMs) =>
    s.store.activeRun mediaId definition = none →
      ∀ r ∈ s.store.matching mediaId definition,
        keyBefore r.createdKey (createdAtMs, i.newRunId.value)
  | .runs _ (.recordAnalyzed id _ _ completedAtMs) =>
    ∀ row ∈ s.store.runs.rows, row.id = id → ∀ r ∈ s.store.runs.rows,
      row.sameSubject r = true → r.state = .analyzed →
        keyBefore r.completedKey (completedAtMs, id.value)
  | _ => True

instance (i : Moment) (s : AnalysisState) : ∀ e : AnalysisEffect, Decidable (ClockAdvances i s e)
  | .runs _ op => match op with
    | .createManualPending mediaId _ definition createdAtMs => inferInstanceAs
      (Decidable (s.store.activeRun mediaId definition = none →
        ∀ r ∈ s.store.matching mediaId definition,
          keyBefore r.createdKey (createdAtMs, i.newRunId.value)))
    | .recordAnalyzed id _ _ completedAtMs => inferInstanceAs
      (Decidable (∀ row ∈ s.store.runs.rows, row.id = id → ∀ r ∈ s.store.runs.rows,
        row.sameSubject r = true → r.state = .analyzed →
          keyBefore r.completedKey (completedAtMs, id.value)))
    | .getByMediaDefinition .. | .createPending .. | .claimPending .. | .requeueForRetry ..
    | .recordFailed .. | .listUnfinished .. | .resetInterruptedAnalyzing .. => isTrue trivial
  | .nowMs | .enabled | .stopping | .inTransaction | .interruptRequested | .activeRunIds _
  | .contentCategory _ | .providerConfigured | .modelCapabilities | .getMedia _ | .getLocation _
  | .libraryRoot _ | .prepare .. | .suggest .. => isTrue trivial

/-- Every run of the system in which the clock advances between the runs of one medium. -/
def advancingSystem (lower : String → String) : System Caller Moment AnalysisEffect
    AnalysisEffect.Answer AnalysisFailure AnalysisState Memory Unit :=
  (analysisSystem lower).restrict fun _ i e s => ClockAdvances i s e

instance (lower : String → String) (g : Memory) (i : Moment) (e : AnalysisEffect)
    (s : AnalysisState) : Decidable ((advancingSystem lower).permits g i e s) :=
  inferInstanceAs (Decidable (True ∧ ClockAdvances i s e))

/-! What a transaction does to the list of rows. -/

/-- Nothing, a new row at the end, or an active row rewritten in its place. -/
inductive RowChange (drawn : MediaAnalysisRunId) (s : RunStore) (op : RunOperation) (t : RunStore) :
    Prop
  | kept (h : t.runs.rows = s.runs.rows)
  | appended (mediaId : MediaId) (locationId : MediaLocationId) (definition : String) (now : Nat)
      (h : t.runs.rows = s.runs.rows ++
        [.fresh drawn mediaId locationId definition now
          ((s.latestRun mediaId definition).map (·.id))])
      (active : s.activeRun mediaId definition = none)
      (creates : s.latestRun mediaId definition = none ∨
        op = .createManualPending mediaId locationId definition now)
  | rewritten (row : MediaAnalysisRun) (f : MediaAnalysisRun → MediaAnalysisRun)
      (mem : row ∈ s.runs.rows) (active : row.state.active = true)
      (h : t.runs.rows = s.runs.rows.map fun r => if r.id = row.id then f r else r)
      (origin : ∀ r, SameOrigin r (f r))
      (completed : (f row).state = .analyzed → ∃ version suggestion now,
        op = .recordAnalyzed row.id version suggestion now ∧ (f row).completedAtMs = some now)

namespace RunStore
variable {s t : RunStore} {run a : MediaAnalysisRun}

theorem insertPending_rows {referenced : Bool}
    (h : s.insertPending referenced run = .ok (a, t)) : t.runs.rows = s.runs.rows ++ [run] := by
  have hinsert : s.insertRun referenced run = .ok (a, t) := by
    unfold insertPending at h
    cases hsupersedes : run.supersedesRunId with
    | none =>
      rw [hsupersedes] at h
      exact h
    | some id =>
      rw [hsupersedes] at h
      obtain ⟨-, h⟩ := require_bind_eq_ok.mp h
      obtain ⟨_, -, h⟩ := bind_eq_ok.mp h
      exact (require_bind_eq_ok.mp h).2
  unfold insertRun at hinsert
  by_cases hguard : (!referenced || !run.checks ||
      (s.activeRun run.mediaId run.analysisDefinition).isSome) = true
  · rw [if_pos hguard] at hinsert
    cases hinsert
  · rw [if_neg hguard] at hinsert
    cases hrows : s.runs.insert? run with
    | none =>
      rw [hrows] at hinsert
      cases hinsert
    | some runs =>
      rw [hrows] at hinsert
      cases hinsert
      exact (Table.insert?_some hrows).2

theorem createPending_rows {referenced : Bool} {id : MediaAnalysisRunId} {mediaId : MediaId}
    {locationId : MediaLocationId} {definition : String} {now : Nat}
    (h : s.createPending referenced id mediaId locationId definition now = .ok (a, t)) :
    RowChange id s (.createPending mediaId locationId definition now) t := by
  unfold createPending at h
  cases hfound : (s.activeRun mediaId definition).or (s.latestRun mediaId definition) with
  | some run =>
    rw [hfound] at h
    cases h
    exact .kept rfl
  | none =>
    rw [hfound] at h
    obtain ⟨hactive, hlatest⟩ := Option.or_eq_none_iff.mp hfound
    obtain hinserted | ⟨-, rfl⟩ := orWinner_ok h
    · have hrows := insertPending_rows hinserted
      exact .appended mediaId locationId definition now (by simpa [hlatest] using hrows) hactive
        (Or.inl hlatest)
    · exact .kept rfl

theorem createManualPending_rows {referenced : Bool} {id : MediaAnalysisRunId} {mediaId : MediaId}
    {locationId : MediaLocationId} {definition : String} {now : Nat}
    (h : s.createManualPending referenced id mediaId locationId definition now = .ok (a, t)) :
    RowChange id s (.createManualPending mediaId locationId definition now) t := by
  unfold createManualPending at h
  cases hactive : s.activeRun mediaId definition with
  | some run =>
    rw [hactive] at h
    cases h
    exact .kept rfl
  | none =>
    have hcreated : ∀ winner, s.orWinner (s.insertPending referenced
        (.fresh id mediaId locationId definition now
          ((s.latestRun mediaId definition).map (·.id)))) winner = .ok (a, t) →
        RowChange id s (.createManualPending mediaId locationId definition now) t := by
      intro winner hcreate
      obtain hinserted | ⟨-, rfl⟩ := orWinner_ok hcreate
      · exact .appended mediaId locationId definition now (insertPending_rows hinserted) hactive
          (Or.inr rfl)
      · exact .kept rfl
    rw [hactive] at h
    cases hlatest : s.latestRun mediaId definition with
    | none =>
      rw [hlatest] at h hcreated
      exact hcreated _ h
    | some latest =>
      rw [hlatest] at h hcreated
      by_cases hterminal : latest.state.terminal = true
      · simp only [hterminal, if_true] at h
        exact hcreated _ h
      · simp only [hterminal] at h
        cases h
        exact .kept rfl

theorem rewriteRun_rows {id drawn : MediaAnalysisRunId} {version : Nat}
    {state : MediaAnalysisRunState} {allowed : MediaAnalysisRun → Bool}
    {f : MediaAnalysisRun → MediaAnalysisRun} {hf : ∀ r, (f r).id = r.id} {op : RunOperation}
    (h : s.rewriteRun id version state allowed f hf = .ok (a, t))
    (hstate : state.active = true) (horigin : ∀ r, SameOrigin r (f r))
    (hcompleted : ∀ row : MediaAnalysisRun, row.id = id → (f row).state = .analyzed →
      ∃ version suggestion now, op = .recordAnalyzed row.id version suggestion now ∧
        (f row).completedAtMs = some now) : RowChange drawn s op t := by
  obtain ⟨row, hrow, hstate', -, -, rfl, hrewritten⟩ := rewriteRun_ok h
  have hrows : t.runs.rows = s.runs.rows.map fun r => if r.id = row.id then f r else r := by
    unfold rewriteRun at h
    obtain ⟨_, -, h⟩ := bind_eq_ok.mp h
    obtain ⟨-, h⟩ := require_bind_eq_ok.mp h
    obtain ⟨-, h⟩ := require_bind_eq_ok.mp h
    obtain ⟨-, h⟩ := require_bind_eq_ok.mp h
    rw [hrow]
    exact (congrArg (fun pair => pair.2.runs.rows) (Except.ok.inj h)).symm
  exact .rewritten row f (mem_of_find? hrewritten.found) (by rw [hstate']; exact hstate) hrows
    horigin (hcompleted row hrow)

end RunStore

theorem RunStore.noteSuccessfulAnalysis_runs (s : RunStore) (run : MediaAnalysisRun) :
    (s.noteSuccessfulAnalysis run).runs = s.runs := by
  unfold RunStore.noteSuccessfulAnalysis
  split <;> rfl

/-- Every transaction changes the rows in one of these ways. -/
theorem RunOperation.rowChange (i : Moment) (op : RunOperation) (s : RunStore) :
    RowChange i.newRunId s op (op.exec i s).2 := by
  unfold RunOperation.exec
  cases i.fault with
  | some x => exact .kept rfl
  | none =>
    cases hrun : op.run i.newRunId i.referenced s with
    | error x =>
      rw [transaction_of_error hrun]
      exact .kept rfl
    | ok pair =>
      obtain ⟨a, t⟩ := pair
      rw [transaction_of_ok hrun]
      cases op with
      | getByMediaDefinition mediaId definition =>
        cases hrun
        exact .kept rfl
      | listUnfinished limit cursor =>
        cases hrun
        exact .kept rfl
      | createPending mediaId locationId definition now => exact RunStore.createPending_rows hrun
      | createManualPending mediaId locationId definition now =>
        exact RunStore.createManualPending_rows hrun
      | claimPending id version now maxAttempts =>
        refine RunStore.rewriteRun_rows hrun rfl (fun r => ⟨rfl, rfl, rfl, rfl, rfl⟩) ?_
        intro row _ hstate
        cases hstate
      | requeueForRetry id version code message now =>
        refine RunStore.rewriteRun_rows hrun rfl (fun r => ⟨rfl, rfl, rfl, rfl, rfl⟩) ?_
        intro row _ hstate
        cases hstate
      | recordAnalyzed id version suggestion now =>
        obtain ⟨⟨run, t'⟩, hrewrite, hnote⟩ := bind_eq_ok.mp hrun
        have hrows : t.runs = t'.runs := by
          cases hnote
          exact t'.noteSuccessfulAnalysis_runs a
        have hchange : RowChange i.newRunId s (.recordAnalyzed id version suggestion now) t' := by
          refine RunStore.rewriteRun_rows hrewrite rfl (fun r => ⟨rfl, rfl, rfl, rfl, rfl⟩) ?_
          intro row hid _
          exact ⟨version, suggestion, now, by rw [hid], rfl⟩
        cases hchange with
        | kept h => exact .kept (by rw [hrows]; exact h)
        | appended m l d n h hactive hcreates =>
          exact .appended m l d n (by rw [hrows]; exact h) hactive hcreates
        | rewritten row f hmem hactive h horigin hcompleted =>
          exact .rewritten row f hmem hactive (by rw [hrows]; exact h) horigin hcompleted
      | recordFailed id version code message now =>
        refine RunStore.rewriteRun_rows hrun rfl (fun r => ⟨rfl, rfl, rfl, rfl, rfl⟩) ?_
        intro row _ hstate
        cases hstate
      | resetInterruptedAnalyzing id version now =>
        refine RunStore.rewriteRun_rows hrun rfl (fun r => ⟨rfl, rfl, rfl, rfl, rfl⟩) ?_
        intro row _ hstate
        cases hstate

/-! The invariant: the rows of one subject in creation order. -/

/-- Everything that stands before a run of its subject is over, was created before it, and was
completed before it. -/
def MediaAnalysisRun.Follows (a b : MediaAnalysisRun) : Prop :=
  b.sameSubject a = true → a.state.terminal = true ∧ keyBefore a.createdKey b.createdKey ∧
    (a.state = .analyzed → b.state = .analyzed → keyBefore a.completedKey b.completedKey)

structure RunStore.InOrder (s : RunStore) : Prop where
  follows : s.runs.rows.Pairwise MediaAnalysisRun.Follows
  linked : ∀ mediaId definition, Linked MediaAnalysisRun.id MediaAnalysisRun.supersedesRunId none
    (s.matching mediaId definition)

theorem mem_matching {s : RunStore} {mediaId : MediaId} {definition : String}
    {r : MediaAnalysisRun} : r ∈ s.matching mediaId definition ↔
      r ∈ s.runs.rows ∧ r.mediaId = mediaId ∧ r.analysisDefinition = definition := by
  simp [RunStore.matching]

theorem sameSubject_iff {a b : MediaAnalysisRun} : b.sameSubject a = true ↔
    a.mediaId = b.mediaId ∧ a.analysisDefinition = b.analysisDefinition := by
  simp [MediaAnalysisRun.sameSubject]

theorem not_newerFirst {a b : MediaAnalysisRun} (h : keyBefore a.createdKey b.createdKey) :
    ¬RunStore.newerFirst a b := by
  unfold RunStore.newerFirst
  obtain h | ⟨heq, h⟩ := h
  · have hlt : a.createdAtMs < b.createdAtMs := h
    rintro (hgt | ⟨heq, -⟩) <;> omega
  · have heq : a.createdAtMs = b.createdAtMs := heq
    rintro (hgt | ⟨-, hle⟩)
    · omega
    · exact absurd hle (String.not_le.mpr h)

theorem not_completedFirst {a b : MediaAnalysisRun} (h : keyBefore a.completedKey b.completedKey) :
    ¬RunStore.completedFirst a b := by
  unfold RunStore.completedFirst
  obtain h | ⟨heq, h⟩ := h
  · rintro (hgt | ⟨heq, -⟩) <;> omega
  · rintro (hgt | ⟨-, hle⟩)
    · omega
    · exact absurd hle (String.not_le.mpr h)

namespace RunStore.InOrder
variable {s : RunStore}

/-- Within one subject every two rows are in order. -/
theorem matching_pairwise (h : s.InOrder) (mediaId : MediaId) (definition : String) :
    (s.matching mediaId definition).Pairwise fun a b => a.state.terminal = true ∧
      keyBefore a.createdKey b.createdKey ∧
      (a.state = .analyzed → b.state = .analyzed → keyBefore a.completedKey b.completedKey) := by
  have hsub := h.follows.sublist
    (List.filter_sublist (l := s.runs.rows)
      (p := fun r => r.mediaId = mediaId && r.analysisDefinition = definition))
  refine List.Pairwise.imp_of_mem ?_ hsub
  intro a b ha hb hfollows
  obtain ⟨-, ha₁, ha₂⟩ := mem_matching.mp ha
  obtain ⟨-, hb₁, hb₂⟩ := mem_matching.mp hb
  exact hfollows (sameSubject_iff.mpr ⟨ha₁.trans hb₁.symm, ha₂.trans hb₂.symm⟩)

theorem newest (h : s.InOrder) (mediaId : MediaId) (definition : String) :
    ((s.matching mediaId definition).insertionSort newerFirst).head? =
      (s.matching mediaId definition).getLast? := by
  refine insertionSort_head ((h.matching_pairwise mediaId definition).imp ?_)
  intro a b hab
  exact not_newerFirst hab.2.1

theorem lastCompleted (h : s.InOrder) (mediaId : MediaId) :
    s.latestSuccessfulGeneric mediaId = (s.analyzedInbox mediaId).getLast? := by
  refine insertionSort_head ?_
  have hsub := (h.matching_pairwise mediaId automaticPostCatalogAnalysisDefinition).sublist
    (List.filter_sublist (p := fun r => r.analyzedInbox))
  refine List.Pairwise.imp_of_mem ?_ hsub
  intro a b ha hb hab
  have hanalyzed : ∀ r ∈ s.analyzedInbox mediaId, r.state = .analyzed := by
    intro r hr
    have hinbox := (List.mem_filter.mp hr).2
    simp only [MediaAnalysisRun.analyzedInbox, Bool.and_eq_true, decide_eq_true_eq] at hinbox
    exact hinbox.1.1
  exact not_completedFirst (hab.2.2 (hanalyzed a ha) (hanalyzed b hb))

end RunStore.InOrder

section Changes
variable {s t : RunStore} {actor : Actor} {op : RunOperation} {i : Moment}
  {journal : List JournalEntry}

theorem RunStore.InOrder.of_rows (hs : s.InOrder) (h : t.runs.rows = s.runs.rows) : t.InOrder where
  follows := by
    rw [h]
    exact hs.follows
  linked mediaId definition := by
    have hmatching : t.matching mediaId definition = s.matching mediaId definition := by
      simp only [RunStore.matching, h]
    rw [hmatching]
    exact hs.linked mediaId definition

theorem RunStore.InOrder.appended (hs : s.InOrder) {run : MediaAnalysisRun}
    (h : t.runs.rows = s.runs.rows ++ [run]) (hpending : run.state = .pending)
    (hactive : s.activeRun run.mediaId run.analysisDefinition = none)
    (hlink : run.supersedesRunId =
      (s.latestRun run.mediaId run.analysisDefinition).map (·.id))
    (hclock : ∀ r ∈ s.matching run.mediaId run.analysisDefinition,
      keyBefore r.createdKey run.createdKey) : t.InOrder where
  follows := by
    rw [h]
    refine List.pairwise_append.mpr ⟨hs.follows, List.pairwise_singleton _ _, ?_⟩
    intro a ha b hb hsame
    rw [List.mem_singleton.mp hb] at hsame ⊢
    obtain ⟨hm, hd⟩ := sameSubject_iff.mp hsame
    refine ⟨?_, hclock a (mem_matching.mpr ⟨ha, hm, hd⟩), ?_⟩
    · cases hstate : a.state.active with
      | true => exact (RunStore.activeRun_none hactive (RunStore.find?_of_mem ha) hstate hm hd).elim
      | false => simpa [MediaAnalysisRunState.active_eq_not_terminal] using hstate
    · intro _ hanalyzed
      rw [hpending] at hanalyzed
      cases hanalyzed
  linked mediaId definition := by
    have hmatching : t.matching mediaId definition = s.matching mediaId definition ++
        [run].filter fun r => r.mediaId = mediaId && r.analysisDefinition = definition := by
      simp only [RunStore.matching, h, List.filter_append]
    rw [hmatching]
    by_cases hsame : run.mediaId = mediaId ∧ run.analysisDefinition = definition
    · obtain ⟨rfl, rfl⟩ := hsame
      have hone : ([run].filter fun r => r.mediaId = run.mediaId &&
          r.analysisDefinition = run.analysisDefinition) = [run] := by simp
      rw [hone]
      refine (hs.linked _ _).append ?_
      have hlast := hs.newest run.mediaId run.analysisDefinition
      change s.latestRun run.mediaId run.analysisDefinition = _ at hlast
      rw [hlink, hlast]
      simp [Linked.tip]
    · have hnone : ([run].filter fun r => r.mediaId = mediaId &&
          r.analysisDefinition = definition) = [] := by simpa using hsame
      rw [hnone, List.append_nil]
      exact hs.linked mediaId definition

/-- A row rewritten in its place is the last of its subject: what stands before it is over. -/
theorem RunStore.InOrder.rewritten (hs : s.InOrder) {row : MediaAnalysisRun}
    {f : MediaAnalysisRun → MediaAnalysisRun} (hmem : row ∈ s.runs.rows)
    (hactive : row.state.active = true)
    (h : t.runs.rows = s.runs.rows.map fun r => if r.id = row.id then f r else r)
    (horigin : ∀ r, SameOrigin r (f r))
    (hclock : (f row).state = .analyzed → ∀ r ∈ s.runs.rows, row.sameSubject r = true →
      r.state = .analyzed → keyBefore r.completedKey (f row).completedKey) : t.InOrder := by
  have horigin' : ∀ r, SameOrigin r (if r.id = row.id then f r else r) := by
    intro r
    by_cases hr : r.id = row.id
    · simpa [hr] using horigin r
    · simpa [hr] using (⟨rfl, rfl, rfl, rfl, rfl⟩ : SameOrigin r r)
  have hsame : ∀ r ∈ s.runs.rows, r.id = row.id → r = row := fun r hr hid =>
    Table.eq_of_key hr hmem hid
  constructor
  · rw [h, List.pairwise_map]
    refine List.Pairwise.imp_of_mem ?_ hs.follows
    intro a b ha hb hfollows hsubject
    have hab : b.sameSubject a = true := by
      simpa [sameSubject_iff, (horigin' a).mediaId, (horigin' a).definition,
        (horigin' b).mediaId, (horigin' b).definition] using hsubject
    obtain ⟨hterminal, hcreated, hcompleted⟩ := hfollows hab
    have hother : a.id ≠ row.id := by
      intro hid
      rw [hsame a ha hid] at hterminal
      rw [MediaAnalysisRunState.active_eq_not_terminal, hterminal] at hactive
      cases hactive
    have hkey : ∀ r, (if r.id = row.id then f r else r).createdKey = r.createdKey := by
      intro r
      simp only [MediaAnalysisRun.createdKey, (horigin' r).createdAtMs, (horigin' r).id]
    rw [hkey, hkey]
    simp only [if_neg hother]
    refine ⟨hterminal, hcreated, ?_⟩
    intro hanalyzed
    by_cases hb' : b.id = row.id
    · have hbrow := hsame b hb hb'
      subst hbrow
      simp only [if_true]
      intro hdone
      exact hclock hdone a ha (by simpa [sameSubject_iff] using hab) hanalyzed
    · simp only [if_neg hb']
      exact hcompleted hanalyzed
  · intro mediaId definition
    have hmatching : t.matching mediaId definition = (s.matching mediaId definition).map
        fun r => if r.id = row.id then f r else r := by
      simp only [RunStore.matching, h, List.filter_map]
      congr 1
      refine List.filter_congr fun r _ => ?_
      simp only [Function.comp, (horigin' r).mediaId, (horigin' r).definition]
    rw [hmatching]
    exact (hs.linked mediaId definition).map (fun r => (horigin' r).id)
      fun r => (horigin' r).supersedesRunId

/-- One transaction under an advancing clock keeps the order. -/
theorem RunStore.InOrder.transaction (hs : s.InOrder)
    (hclock : ClockAdvances i ⟨s, journal⟩ (.runs actor op)) : (op.exec i s).2.InOrder := by
  cases op.rowChange i s with
  | kept h => exact hs.of_rows h
  | appended mediaId locationId definition now h hactive hcreates =>
    refine hs.appended h rfl hactive rfl ?_
    intro r (hr : r ∈ s.matching mediaId definition)
    obtain hnone | rfl := hcreates
    · have hlast := hs.newest mediaId definition
      change s.latestRun mediaId definition = _ at hlast
      rw [hnone] at hlast
      rw [show s.matching mediaId definition = [] from List.getLast?_eq_none_iff.mp hlast.symm] at hr
      cases hr
    · exact hclock hactive r hr
  | rewritten row f hmem hactive h horigin hcompleted =>
    refine hs.rewritten hmem hactive h horigin ?_
    intro hanalyzed r hr hsubject hdone
    obtain ⟨version, suggestion, now, rfl, hnow⟩ := hcompleted hanalyzed
    have hkey : (f row).completedKey = (now, row.id.value) := by
      simp [MediaAnalysisRun.completedKey, hnow, (horigin row).id]
    rw [hkey]
    exact hclock row hmem rfl r hr hsubject hdone

end Changes

theorem empty_inOrder (records : List BoundRecord) :
    RunStore.InOrder ⟨Table.empty, records⟩ :=
  ⟨List.Pairwise.nil, fun _ _ => trivial⟩

/-- What the order of the rows means for the chain and for its readers. -/
theorem RunStore.InOrder.supersession {s : RunStore} (hs : s.InOrder) : Supersession s where
  chain older run newer hrows := by
    have hlinked := hs.linked run.mediaId run.analysisDefinition
    have hsplit : s.matching run.mediaId run.analysisDefinition = older.filter run.sameSubject ++
        run :: newer.filter run.sameSubject := by
      simp only [RunStore.matching, hrows, List.filter_append]
      exact congrArg _ (List.filter_cons_of_pos (by simp))
    rw [hsplit] at hlinked
    have hlink := hlinked.link_at
    simpa [Linked.tip] using hlink
  once a ha b hb c hc hab hac := by
    -- both name a row of their own subject, which is `a`
    have hnamed : ∀ x ∈ s.runs.rows, x.supersedesRunId = some a.id →
        x ∈ s.matching a.mediaId a.analysisDefinition := by
      intro x hx hxa
      have hxm := mem_matching.mpr ⟨hx, rfl, rfl⟩
      obtain ⟨a', ha', hid⟩ := (hs.linked x.mediaId x.analysisDefinition).named hxm hxa
      obtain ⟨ha'mem, hm, hd⟩ := mem_matching.mp ha'
      have heq : a' = a := Table.eq_of_key ha'mem ha hid
      subst heq
      exact mem_matching.mpr ⟨hx, hm.symm, hd.symm⟩
    have hkeys : ((s.matching a.mediaId a.analysisDefinition).map MediaAnalysisRun.id).Nodup :=
      s.runs.nodup.sublist (List.filter_sublist.map _)
    exact (hs.linked a.mediaId a.analysisDefinition).link_injective hkeys (hnamed b hb hab)
      (hnamed c hc hac) (hab.trans hac.symm)
  latest := hs.newest
  states mediaId := congrArg (Option.map MediaAnalysisRun.state)
    (hs.newest mediaId automaticPostCatalogAnalysisDefinition)
  successful := hs.lastCompleted

/-- While the clock advances, the runs of every medium and definition form one chain in
creation order, and what each reader calls the latest is the last one created. -/
theorem supersession_chain_of_advancing_clock (lower : String → String)
    (records : List BoundRecord)
    {w : World AnalysisEffect AnalysisEffect.Answer AnalysisFailure AnalysisState Memory Unit}
    (h : Reachable (advancingSystem lower) ⟨⟨Table.empty, records⟩, []⟩ w) :
    Supersession w.state.store := by
  have hstep : ∀ (g : Memory) (i : Moment) (e : AnalysisEffect) (s : AnalysisState),
      (advancingSystem lower).permits g i e s → s.store.InOrder → (e.exec i s).2.store.InOrder := by
    rintro g i e s ⟨-, hclock⟩ hs
    cases e with
    | runs actor op => exact hs.transaction hclock
    | _ => exact hs
  have horder := h.invariant (J := fun s => s.store.InOrder) hstep (empty_inOrder records)
  exact horder.supersession

/-! Previews imported one after the other, at the times a clock shows. -/

/-- The call of an import when the clock shows `now` and `name` is drawn. -/
def momentAt (now : Nat) (name : String) : Moment :=
  { sampleMoment with nowMs := now, newRunId := ⟨name⟩ }

/-- An import from its first call to its last, all at one time. -/
def importAt (n now : Nat) (name : String) : List (Move Caller Moment) :=
  .start sampleImport :: List.replicate 7 (.call n (momentAt now name))

theorem supersession_chain_two_imports :
    let w := (importAt 0 5 "run-1" ++ importAt 1 9 "run-2").foldl
      (World.move (advancingSystem id)) ⟨⟨⟨Table.empty, []⟩, []⟩, []⟩
    (w.state.store.runs.rows.map fun r => (r.id.value, r.supersedesRunId.map (·.value))) =
      [("run-1", none), ("run-2", some "run-1")] ∧ Supersession w.state.store := by
  intro w
  have hallowed : World.Allowed (advancingSystem id) (importAt 0 5 "run-1" ++ importAt 1 9 "run-2")
      ⟨⟨⟨Table.empty, []⟩, []⟩, []⟩ := by decide +kernel
  exact ⟨by decide +kernel,
    supersession_chain_of_advancing_clock id [] (World.moves_reach _ _ hallowed)⟩

/-- A clock that goes back: the second run is the last one created and the first stays the
latest, so that the third supersedes the first as well. -/
theorem supersession_forks_when_clock_goes_back :
    ¬∀ w, Reachable (analysisSystem id) ⟨⟨Table.empty, []⟩, []⟩ w → Supersession w.state.store := by
  intro h
  let moves := importAt 0 9 "run-1" ++ importAt 1 5 "run-2" ++ importAt 2 7 "run-3"
  have hreach := World.moves_reach (Y := analysisSystem id) moves ⟨⟨⟨Table.empty, []⟩, []⟩, []⟩
    (World.allowed_of_forall (fun _ _ _ _ => trivial) _ _)
  have hlatest := (h _ hreach).latest sampleMedium automaticPostCatalogAnalysisDefinition
  revert hlatest
  decide +kernel

end FrameNest.Analysis
