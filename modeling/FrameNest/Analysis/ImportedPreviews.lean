import FrameNest.Analysis.PaidCalls

/-! Persisting an imported preview takes three transactions. Nothing holds its run between
them: a drain in between pays for it, a crash leaves it behind. Left undisturbed, an import
ends with one analyzed run that holds its result, and no run it created is ever paid for. -/
namespace FrameNest.Analysis
open Concurrent Relational

def JournalEntry.wrote? : JournalEntry → Option (MediaAnalysisRunId × MediaSuggestion)
  | .importCreated run suggestion | .importClaimed run suggestion => some (run, suggestion)
  | _ => none

namespace AnalysisState

/-- An import of the suggestion has written the run. -/
def Wrote (s : AnalysisState) (run : MediaAnalysisRunId) (suggestion : MediaSuggestion) : Prop :=
  ∃ entry ∈ s.journal, entry.wrote? = some (run, suggestion)

/-- A run an import has written and that is not over. -/
def inHands (s : AnalysisState) (run : MediaAnalysisRunId) : Bool :=
  (s.journal.any fun entry => entry.wrote?.any fun written => written.1 = run) &&
    (s.store.find? run).any (·.state.active)

/-- No import is between its transactions. -/
def tidy (s : AnalysisState) : Bool :=
  s.journal.all fun entry => entry.wrote?.all fun written => !s.inHands written.1

end AnalysisState

/-- The run a claim or a reconciliation would take, when its guard is met. -/
def RunOperation.takes (s : RunStore) : RunOperation → Option MediaAnalysisRunId
  | .claimPending id version _ maxAttempts =>
    if (s.find? id).any fun row => row.state = .pending && row.version = version &&
      row.attemptCount + 1 ≤ maxAttempts.value then some id else none
  | .resetInterruptedAnalyzing id version _ =>
    if (s.find? id).any fun row => row.state = .analyzing && row.version = version then some id
    else none
  | _ => none

/-- No other call takes a run out of an import's hands, and the database answers an import
that has begun to write. -/
def undisturbed (g : Memory) (i : Moment) : AnalysisEffect → AnalysisState → Bool
  | .runs _ op, s => (i.databaseFault.isSome || (op.takes s.store).all fun run =>
      !s.inHands run || g.unfinished = some run) &&
    (g.unfinished.isNone || i.databaseFault.isNone)
  | _, _ => true

/-- The system in the runs where imports are left alone. -/
def importSystem (lower : String → String) : System Caller Moment AnalysisEffect
    AnalysisEffect.Answer AnalysisFailure AnalysisState Memory Unit :=
  (analysisSystem lower).restrict fun g i e s => undisturbed g i e s = true

instance (lower : String → String) (g : Memory) (i : Moment) (e : AnalysisEffect)
    (s : AnalysisState) : Decidable ((importSystem lower).permits g i e s) :=
  inferInstanceAs (Decidable (True ∧ _))

def Move.crashes : Move Caller Moment → Bool
  | .crash => true
  | _ => false

abbrev AnalysisWorld :=
  World AnalysisEffect AnalysisEffect.Answer AnalysisFailure AnalysisState Memory Unit

/-- Every move of the script leaves the imports alone, crashes included. -/
def Calm (lower : String → String) : List (Move Caller Moment) → AnalysisWorld → Prop
  | [], _ => True
  | m :: ms, w => w.MayMove (importSystem lower) m ∧
    (Analysis.Move.crashes m = true → w.state.tidy = true) ∧
    Calm lower ms (w.move (analysisSystem lower) m)

instance Calm.decidable (lower : String → String) :
    ∀ (ms : List (Move Caller Moment)) (w : AnalysisWorld), Decidable (Calm lower ms w)
  | [], _ => isTrue trivial
  | m :: ms, w =>
    have : Decidable (Calm lower ms (w.move (analysisSystem lower) m)) := Calm.decidable lower ms _
    inferInstanceAs (Decidable (_ ∧ _ ∧ _))

/-- What an import leaves: each run it wrote is analyzed and holds its result, or is still in
the hands of a live import; and none that it created was ever paid for. -/
structure ImportsAtomicAndFree (w : AnalysisWorld) : Prop where
  outcome : ∀ run suggestion, w.state.Wrote run suggestion →
    (∃ row, w.state.store.find? run = some row ∧ row.state = .analyzed ∧
      row.resultJson = some (serializeSuggestionResult suggestion)) ∨
    ∃ t ∈ w.threads, t.memory.unfinished = some run ∧ t.program.settled = false
  free : ∀ run suggestion, JournalEntry.importCreated run suggestion ∈ w.state.journal →
    invocations run w.state.journal = 0

/-- The imports as far as the state goes. -/
structure AnalysisState.Imported (s : AnalysisState) : Prop where
  checks : ∀ run row, s.store.find? run = some row → row.checks = true
  outcome : ∀ run suggestion, s.Wrote run suggestion → ∃ row, s.store.find? run = some row ∧
    (row.state.active = true ∨ (row.state = .analyzed ∧
      row.resultJson = some (serializeSuggestionResult suggestion)))
  free : ∀ run suggestion, JournalEntry.importCreated run suggestion ∈ s.journal →
    invocations run s.journal = 0

/-- How far an import has come with the run in its hands. -/
def Memory.Reached (g : Memory) (row : MediaAnalysisRun) : Prop :=
  match g.claim with
  | none => row.state = .pending ∧ row.version = 1 ∧ row.attemptCount = 0
  | some _ => row.state = .analyzing

/-- What an import has in its hands is its own; nobody else has claimed a run an import wrote. -/
structure Memory.Imports (g : Memory) (s : AnalysisState) : Prop where
  idle : g.importing = none → g.unfinished = none
  foreign : g.importing = none → ∀ c suggestion, g.claim = some c → ¬s.Wrote c.run suggestion
  held : ∀ suggestion c, g.importing = some suggestion → g.claim = some c →
    g.unfinished = some c.run
  own : ∀ run, g.unfinished = some run → ∃ suggestion, g.importing = some suggestion ∧
    s.Wrote run suggestion ∧ (∀ other, s.Wrote run other → other = suggestion) ∧
    ∃ row, s.store.find? run = some row ∧ g.Reached row

/-- Two imports never have one run in their hands. -/
def Memory.UnfinishedApart (g g' : Memory) : Prop :=
  ∀ run, g.unfinished = some run → g'.unfinished ≠ some run

section Facts
variable {s : AnalysisState} {t : RunStore} {g : Memory} {i : Moment} {actor : Actor}
  {op : RunOperation} {r : Except RunRepositoryError op.Answer} {run : MediaAnalysisRunId}
  {suggestion : MediaSuggestion}

theorem AnalysisState.inHands_iff : s.inHands run = true ↔
    (∃ suggestion, s.Wrote run suggestion) ∧
      ∃ row, s.store.find? run = some row ∧ row.state.active = true := by
  have hactive : (s.store.find? run).any (·.state.active) = true ↔
      ∃ row, s.store.find? run = some row ∧ row.state.active = true := by
    cases s.store.find? run with
    | none => simp
    | some row => simp
  have hwrote : (s.journal.any fun entry => entry.wrote?.any fun written => written.1 = run) = true ↔
      ∃ suggestion, s.Wrote run suggestion := by
    rw [List.any_eq_true]
    constructor
    · rintro ⟨entry, hmem, hany⟩
      cases hw : entry.wrote? with
      | none => simp [hw] at hany
      | some written =>
        simp only [hw, Option.any_some, decide_eq_true_eq] at hany
        exact ⟨written.2, entry, hmem, by rw [hw, ← hany]⟩
    · rintro ⟨suggestion, entry, hmem, hw⟩
      exact ⟨entry, hmem, by simp [hw]⟩
  unfold inHands
  rw [Bool.and_eq_true, hwrote, hactive]

theorem AnalysisState.Wrote.append {entries : List JournalEntry} (h : s.Wrote run suggestion) :
    AnalysisState.Wrote ⟨t, entries ++ s.journal⟩ run suggestion := by
  obtain ⟨entry, hmem, hw⟩ := h
  exact ⟨entry, List.mem_append_right _ hmem, hw⟩

theorem AnalysisState.Wrote.of_created
    (h : JournalEntry.importCreated run suggestion ∈ s.journal) : s.Wrote run suggestion :=
  ⟨_, h, rfl⟩

/-- The entries one transaction adds about an import: the run it created or claimed. -/
theorem journalOf_wrote (h : op.Effected s.store r t) {entry : JournalEntry}
    (hmem : entry ∈ journalOf actor op s.store r) (hw : entry.wrote? = some (run, suggestion)) :
    actor = .importer suggestion ∧ (∃ a, r = .ok a) ∧
      ((∃ mediaId locationId definition now, ∃ row : MediaAnalysisRun, row.id = run ∧
          op = .createManualPending mediaId locationId definition now ∧
          Inserted s.store t row ∧ entry = .importCreated run suggestion) ∨
        ∃ (row : MediaAnalysisRun) (now : Nat) (maxAttempts : MaxAttempts), row.id = run ∧
          row.state = .pending ∧ row.attemptCount + 1 ≤ maxAttempts.value ∧
          op = .claimPending row.id row.version now maxAttempts ∧
          Rewritten s.store t row (row.claimed now) ∧ entry = .importClaimed run suggestion) := by
  cases h with
  | refused op x => cases op <;> cases hmem
  | requeued =>
    cases List.mem_singleton.mp hmem
    cases hw
  | foundManual _ _ _ _ row hfound =>
    cases actor with
    | importer other => simp [journalOf, hfound] at hmem
    | _ => simp [journalOf] at hmem
  | createdManual mediaId locationId definition now row _ hin =>
    cases actor with
    | importer other =>
      simp only [journalOf, hin.absent, List.mem_singleton] at hmem
      subst hmem
      cases hw
      exact ⟨rfl, ⟨_, rfl⟩, Or.inl ⟨_, _, _, _, row, rfl, rfl, hin, rfl⟩⟩
    | _ => simp [journalOf] at hmem
  | claimed row now maxAttempts _ hp hmax hrow =>
    cases actor with
    | importer other =>
      simp only [journalOf, List.mem_singleton] at hmem
      subst hmem
      cases hw
      exact ⟨rfl, ⟨_, rfl⟩, Or.inr ⟨row, now, maxAttempts, rfl, hp, hmax, rfl, hrow, rfl⟩⟩
    | _ => simp [journalOf] at hmem
  | _ => cases hmem

/-- An answered call is one the database answered. -/
theorem exec_answered {a : op.Answer} {s : RunStore} (h : (op.exec i s).1 = .ok a) :
    i.databaseFault = none := by
  unfold RunOperation.exec Moment.fault at h
  cases hf : i.databaseFault with
  | none => rfl
  | some x =>
    rw [hf] at h
    cases h

/-- A run an import has in its hands is taken by that import alone. -/
theorem taken_own (hu : undisturbed g i (.runs actor op) s = true) (hf : i.databaseFault = none)
    (htakes : op.takes s.store = some run) (hwrote : s.Wrote run suggestion)
    {row : MediaAnalysisRun} (hrow : s.store.find? run = some row) (hactive : row.state.active = true) :
    g.unfinished = some run := by
  have hin : s.inHands run = true := AnalysisState.inHands_iff.mpr ⟨⟨_, hwrote⟩, row, hrow, hactive⟩
  simpa [undisturbed, hf, htakes, hin] using hu

theorem claim_takes {row : MediaAnalysisRun} {now : Nat} {maxAttempts : MaxAttempts} {s : RunStore}
    (hrow : s.find? row.id = some row) (hp : row.state = .pending)
    (hm : row.attemptCount + 1 ≤ maxAttempts.value) :
    RunOperation.takes s (.claimPending row.id row.version now maxAttempts) = some row.id := by
  have hmet : ((s.find? row.id).any fun found => found.state = .pending &&
      found.version = row.version && found.attemptCount + 1 ≤ maxAttempts.value) = true := by
    rw [hrow, Option.any_some, hp, decide_eq_true hm]
    simp
  exact if_pos hmet

theorem reset_takes {row : MediaAnalysisRun} {now : Nat} {s : RunStore}
    (hrow : s.find? row.id = some row) (ha : row.state = .analyzing) :
    RunOperation.takes s (.resetInterruptedAnalyzing row.id row.version now) = some row.id := by
  simp [RunOperation.takes, hrow, ha]

/-- The transactions of an import that has begun to write succeed, one after the other. -/
theorem exec_of_unfinished (hI : s.Imported) (hT : g.Imports s) (hA : g.Accounted s)
    (hm : g.may (.runs actor op)) (hf : i.databaseFault = none) (hu : g.unfinished = some run)
    (hop : (∃ id version now maxAttempts, op = .claimPending id version now maxAttempts) ∨
      ∃ id version other now, op = .recordAnalyzed id version other now) :
    ∃ a, (op.exec i s.store).1 = .ok a := by
  obtain ⟨suggestion, hg, -, -, row, hrow, hreached⟩ := hT.own run hu
  have hchecks := hI.checks run row hrow
  have hexec : op.exec i s.store = transaction s.store (op.run i.newRunId i.referenced) := by
    simp [RunOperation.exec, Moment.fault, hf]
  obtain ⟨id, version, now, maxAttempts, rfl⟩ | ⟨id, version, other, now, rfl⟩ := hop
  · obtain ⟨rfl, rfl, hclaim⟩ := hm.2 run hu
    obtain ⟨hp, hv, hn⟩ : row.state = .pending ∧ row.version = 1 ∧ row.attemptCount = 0 := by
      simpa [Memory.Reached, hclaim] using hreached
    have hrun := @RunStore.rewriteRun_of_found _ _ _ _
      (fun row => row.attemptCount + 1 ≤ maxAttempts.value) (·.claimed now) (fun _ => rfl) _ hrow hp hv
      (by simpa [hn] using maxAttempts.positive) (claimed_checks hchecks hp now (by omega))
    exact ⟨_, by rw [hexec]; exact congrArg Prod.fst (transaction_of_ok hrun)⟩
  · obtain ⟨-, -, c, hclaim, rfl, rfl⟩ := hm
    have hown : run = c.run := Option.some.inj (hu.symm.trans (hT.held suggestion c hg hclaim))
    subst hown
    have ha : row.state = .analyzing := by simpa [Memory.Reached, hclaim] using hreached
    obtain ⟨held, hheld, hstate, -⟩ := hA c hclaim
    rw [hrow] at hheld
    cases hheld
    have hv : row.version = c.version := by
      obtain ⟨-, hv⟩ | hterminal := hstate
      · exact hv
      · rw [ha] at hterminal
        cases hterminal
    have hrun := @RunStore.rewriteRun_of_found _ _ _ _ (fun _ => true)
      (·.analyzed other now) (fun _ => rfl) _ hrow ha hv rfl (analyzed_checks hchecks ha other now)
    have hrecord : s.store.recordAnalyzed c.run c.version other now = .ok (row.analyzed other now,
        RunStore.noteSuccessfulAnalysis { s.store with
          runs := s.store.runs.update c.run (·.analyzed other now) fun _ => rfl }
          (row.analyzed other now)) := by
      unfold RunStore.recordAnalyzed
      rw [hrun]
      rfl
    refine ⟨row.analyzed other now, ?_⟩
    rw [hexec]
    exact congrArg Prod.fst (transaction_of_ok hrecord)

end Facts

section Steps
variable {s : AnalysisState} {t : RunStore} {g g' : Memory} {i : Moment} {actor : Actor}
  {op : RunOperation} {r : Except RunRepositoryError op.Answer} {run : MediaAnalysisRunId}

/-- The state after a transaction of an undisturbed system. -/
theorem AnalysisState.Imported.transaction (hI : s.Imported) (hacc : s.Accounted) (hT : g.Imports s)
    (hm : g.may (.runs actor op)) (hu : undisturbed g i (.runs actor op) s = true)
    (hok : ∀ a, r = .ok a → i.databaseFault = none) (h : op.Effected s.store r t) :
    AnalysisState.Imported ⟨t, journalOf actor op s.store r ++ s.journal⟩ where
  checks run row hrow := by
    have hrewritten : ∀ {old new : MediaAnalysisRun}, Rewritten s.store t old new →
        row.checks = true := by
      intro old new hrewritten
      have hrow' : t.find? run = some row := hrow
      rw [hrewritten.find] at hrow'
      split at hrow'
      · cases hrow'
        exact hrewritten.checks
      · exact hI.checks run row hrow'
    have hinserted : ∀ {new : MediaAnalysisRun}, Inserted s.store t new → row.checks = true := by
      intro new hinserted
      have hrow' : t.find? run = some row := hrow
      rw [hinserted.find] at hrow'
      split at hrow'
      · cases hrow'
        exact hinserted.checks
      · exact hI.checks run row hrow'
    cases h with
    | created _ _ _ _ _ _ h => exact hinserted h
    | createdManual _ _ _ _ _ _ h => exact hinserted h
    | claimed _ _ _ _ _ _ h => exact hrewritten h
    | requeued _ _ _ _ _ _ h => exact hrewritten h
    | analyzed _ _ _ _ _ h => exact hrewritten h
    | failed _ _ _ _ _ _ h => exact hrewritten h
    | interrupted _ _ _ _ h => exact hrewritten h
    | _ => exact hI.checks run row hrow
  outcome run suggestion hwrote := by
    obtain ⟨entry, hmem, hw⟩ := hwrote
    obtain hnew | hold := List.mem_append.mp hmem
    · -- what this transaction wrote is active
      obtain ⟨-, -, ⟨_, _, _, _, row, hid, -, hin, -⟩ | ⟨row, now, _, hid, -, -, -, hrewritten, -⟩⟩ :=
        journalOf_wrote h hnew hw
      · exact ⟨row, by simp [hin.find, hid], Or.inl (by simp [hin.pending, MediaAnalysisRunState.active])⟩
      · exact ⟨row.claimed now, by simp [hrewritten.find, hid], Or.inl rfl⟩
    · have hwrote : s.Wrote run suggestion := ⟨entry, hold, hw⟩
      obtain ⟨row₀, hrow₀, hstate₀⟩ := hI.outcome run suggestion hwrote
      have hkeep : ∀ {old new : MediaAnalysisRun}, Rewritten s.store t old new →
          (old.id = run → new.state.active = true ∨ (new.state = .analyzed ∧
            new.resultJson = some (serializeSuggestionResult suggestion))) →
          ∃ row, t.find? run = some row ∧ (row.state.active = true ∨ (row.state = .analyzed ∧
            row.resultJson = some (serializeSuggestionResult suggestion))) := by
        intro old new hrewritten hnew
        rw [hrewritten.find]
        by_cases hk : old.id = run
        · rw [if_pos hk]
          exact ⟨new, rfl, hnew hk⟩
        · rw [if_neg hk]
          exact ⟨row₀, hrow₀, hstate₀⟩
      have hfresh : ∀ {new : MediaAnalysisRun}, Inserted s.store t new →
          ∃ row, t.find? run = some row ∧ (row.state.active = true ∨ (row.state = .analyzed ∧
            row.resultJson = some (serializeSuggestionResult suggestion))) := by
        intro new hinserted
        rw [hinserted.find]
        by_cases hk : new.id = run
        · have habsent := hinserted.absent
          rw [hk, hrow₀] at habsent
          cases habsent
        · rw [if_neg hk]
          exact ⟨row₀, hrow₀, hstate₀⟩
      cases h with
      | created _ _ _ _ _ _ h => exact hfresh h
      | createdManual _ _ _ _ _ _ h => exact hfresh h
      | claimed _ _ _ _ _ _ h => exact hkeep h fun _ => Or.inl rfl
      | requeued _ _ _ _ _ _ h => exact hkeep h fun _ => Or.inl rfl
      | analyzed row other now _ _ h =>
        refine hkeep h fun hk => Or.inr ⟨rfl, ?_⟩
        -- the result is the one of the only import that wrote the run
        obtain ⟨-, hsuggestion, c, hclaim, hrun, -⟩ := hm
        rw [← hk, ← hrun] at hwrote
        cases hg : g.importing with
        | none => exact absurd hwrote (hT.foreign hg c suggestion hclaim)
        | some mine =>
          obtain ⟨mine', hg', -, hunique, -⟩ := hT.own c.run (hT.held mine c hg hclaim)
          rw [hg] at hg'
          cases hg'
          rw [hunique suggestion hwrote, ← hsuggestion mine hg]
          rfl
      | failed row code message now _ _ h =>
        obtain ⟨-, hg, c, hclaim, hrun, -⟩ := hm
        refine hkeep h fun hk => ?_
        rw [← hk, ← hrun] at hwrote
        exact absurd hwrote (hT.foreign hg c suggestion hclaim)
      | interrupted row now _ ha h =>
        refine hkeep h fun hk => ?_
        subst hk
        have hown := taken_own hu (hok _ rfl) (reset_takes h.found ha) hwrote h.found
          (by rw [ha]; rfl)
        rw [hT.idle hm.2] at hown
        cases hown
      | _ => exact ⟨row₀, hrow₀, hstate₀⟩
  free run suggestion hmem := by
    have hunpaid := journalOf_unpaid actor op s.store r
    refine hunpaid.invocations_append.trans ?_
    obtain hnew | hold := List.mem_append.mp hmem
    · obtain ⟨-, -, ⟨_, _, _, _, row, hid, -, hin, -⟩ | ⟨_, _, _, _, _, _, _, _, heq⟩⟩ :=
        journalOf_wrote h hnew rfl
      · exact hacc.known run (hid ▸ hin.absent)
      · cases heq
    · exact hI.free run suggestion hold

/-- The hands of any other call. -/
theorem Memory.Imports.other (hT : g.Imports s) (hT' : g'.Imports s) (hA' : g'.Accounted s)
    (hapart : g.UnfinishedApart g') (hm : g.may (.runs actor op))
    (hu : undisturbed g i (.runs actor op) s = true)
    (hok : ∀ a, r = .ok a → i.databaseFault = none) (h : op.Effected s.store r t) :
    g'.Imports ⟨t, journalOf actor op s.store r ++ s.journal⟩ where
  idle := hT'.idle
  held := hT'.held
  foreign hg' c suggestion hclaim hwrote := by
    obtain ⟨entry, hmem, hw⟩ := hwrote
    obtain hnew | hold := List.mem_append.mp hmem
    · -- an import writes runs that are new or pending, and a claimed run is neither
      obtain ⟨held, hheld, hstate, -⟩ := hA' c hclaim
      obtain ⟨-, -, ⟨_, _, _, _, row, hid, -, hin, -⟩ | ⟨row, _, _, hid, hp, -, -, hrewritten, -⟩⟩ :=
        journalOf_wrote h hnew hw
      · have habsent := hin.absent
        rw [hid, hheld] at habsent
        cases habsent
      · have hfound := hrewritten.found
        rw [hid, hheld] at hfound
        cases hfound
        rw [hp] at hstate
        obtain ⟨hstate, -⟩ | hstate := hstate
        · cases hstate
        · cases hstate
    · exact hT'.foreign hg' c suggestion hclaim ⟨entry, hold, hw⟩
  own run hrun := by
    obtain ⟨suggestion, hg', hwrote, hunique, row, hrow, hreached⟩ := hT'.own run hrun
    have hactive : row.state.active = true := by
      unfold Memory.Reached at hreached
      split at hreached
      · rw [hreached.1]
        rfl
      · rw [hreached]
        rfl
    -- the step leaves this row alone
    have htaken : ∀ run', op.takes s.store = some run' → i.databaseFault = none → run' ≠ run := by
      rintro run' htakes hf rfl
      exact hapart run' (taken_own hu hf htakes hwrote hrow hactive) hrun
    have hclaimed : ∀ c, g.claim = some c → c.run ≠ run := by
      rintro c hclaim rfl
      cases hg : g.importing with
      | none => exact hT.foreign hg c suggestion hclaim hwrote
      | some mine => exact hapart c.run (hT.held mine c hg hclaim) hrun
    have hsame : t.find? run = some row := by
      have hkeep : ∀ {old new : MediaAnalysisRun}, Rewritten s.store t old new → old.id ≠ run →
          t.find? run = some row := by
        intro old new hrewritten hne
        rw [hrewritten.find, if_neg hne]
        exact hrow
      have hfresh : ∀ {new : MediaAnalysisRun}, Inserted s.store t new → t.find? run = some row := by
        intro new hinserted
        rw [hinserted.find]
        by_cases hk : new.id = run
        · have habsent := hinserted.absent
          rw [hk, hrow] at habsent
          cases habsent
        · rw [if_neg hk]
          exact hrow
      cases h with
      | created _ _ _ _ _ _ h => exact hfresh h
      | createdManual _ _ _ _ _ _ h => exact hfresh h
      | claimed old _ _ _ hp hmax h => exact hkeep h (htaken _ (claim_takes h.found hp hmax) (hok _ rfl))
      | requeued old _ _ _ _ _ h =>
        obtain ⟨-, -, -, c, hclaim, hid, -⟩ := hm
        exact hkeep h (hid ▸ hclaimed c hclaim)
      | analyzed old _ _ _ _ h =>
        obtain ⟨-, -, c, hclaim, hid, -⟩ := hm
        exact hkeep h (hid ▸ hclaimed c hclaim)
      | failed old _ _ _ _ _ h =>
        obtain ⟨-, -, c, hclaim, hid, -⟩ := hm
        exact hkeep h (hid ▸ hclaimed c hclaim)
      | interrupted old _ _ ha h => exact hkeep h (htaken _ (reset_takes h.found ha) (hok _ rfl))
      | _ => exact hrow
    refine ⟨suggestion, hg', hwrote.append, fun other hother => ?_, row, hsame, hreached⟩
    obtain ⟨entry, hmem, hw⟩ := hother
    obtain hnew | hold := List.mem_append.mp hmem
    · obtain ⟨-, ⟨a, rfl⟩, ⟨_, _, _, _, new, hid, -, hin, -⟩ |
          ⟨old, _, _, hid, hp, hmax, rfl, hrewritten, -⟩⟩ := journalOf_wrote h hnew hw
      · have habsent := hin.absent
        rw [hid, hrow] at habsent
        cases habsent
      · exact absurd hid (htaken _ (claim_takes hrewritten.found hp hmax) (hok a rfl))
    · exact hunique other ⟨entry, hold, hw⟩

/-- Hands that a step leaves as they are. -/
theorem Memory.Imports.kept (hT : g.Imports s) {entries : List JournalEntry}
    (hfind : ∀ run row, g.unfinished = some run → s.store.find? run = some row →
      t.find? run = some row)
    (hentries : ∀ entry ∈ entries, entry.wrote? = none) :
    g.Imports ⟨t, entries ++ s.journal⟩ := by
  have hold : ∀ {run suggestion}, AnalysisState.Wrote ⟨t, entries ++ s.journal⟩ run suggestion →
      s.Wrote run suggestion := by
    rintro run suggestion ⟨entry, hmem, hw⟩
    obtain hnew | hold := List.mem_append.mp hmem
    · rw [hentries entry hnew] at hw
      cases hw
    · exact ⟨entry, hold, hw⟩
  refine ⟨hT.idle, fun hg c suggestion hclaim hwrote => hT.foreign hg c suggestion hclaim (hold hwrote),
    hT.held, fun run hrun => ?_⟩
  obtain ⟨suggestion, hg, hwrote, hunique, row, hrow, hreached⟩ := hT.own run hrun
  exact ⟨suggestion, hg, hwrote.append, fun other hother => hunique other (hold hother), row,
    hfind run row hrun hrow, hreached⟩

/-- Empty hands. -/
theorem Memory.Imports.idleHands (hu : g.unfinished = none) (hc : g.claim = none) :
    g.Imports s where
  idle _ := hu
  foreign _ c _ hclaim := by
    rw [hc] at hclaim
    cases hclaim
  held _ c _ hclaim := by
    rw [hc] at hclaim
    cases hclaim
  own run hrun := by
    rw [hu] at hrun
    cases hrun

/-- An import that has its run in hand. -/
theorem Memory.Imports.holding {mine : MediaSuggestion} {row : MediaAnalysisRun}
    (hg : g.importing = some mine) (hu : g.unfinished = some run)
    (hc : ∀ c, g.claim = some c → c.run = run) (hwrote : s.Wrote run mine)
    (hunique : ∀ other, s.Wrote run other → other = mine) (hrow : s.store.find? run = some row)
    (hreached : g.Reached row) : g.Imports s where
  idle hnone := by
    rw [hg] at hnone
    cases hnone
  foreign hnone := by
    rw [hg] at hnone
    cases hnone
  held _ c _ hclaim := by
    rw [hu, hc c hclaim]
  own run' hrun' := by
    rw [hu] at hrun'
    cases hrun'
    exact ⟨mine, hg, hwrote, hunique, row, hrow, hreached⟩

/-- The hands of the caller after its transaction. -/
theorem Memory.Imports.after (hI : s.Imported) (hT : g.Imports s) (hm : g.may (.runs actor op))
    (hu : undisturbed g i (.runs actor op) s = true)
    (hok : ∀ a, r = .ok a → i.databaseFault = none) (h : op.Effected s.store r t) :
    (g.noteRuns s.store op (r.mapError fun _ => .failed)).Imports
      ⟨t, journalOf actor op s.store r ++ s.journal⟩ := by
  have habsent : ∀ {new : MediaAnalysisRun}, Inserted s.store t new → ∀ run row,
      s.store.find? run = some row → t.find? run = some row := by
    intro new hin run row hrow
    rw [hin.find]
    by_cases hk : new.id = run
    · have habsent := hin.absent
      rw [hk, hrow] at habsent
      cases habsent
    · rw [if_neg hk]
      exact hrow
  cases hg : g.importing with
  | none =>
    have hactor : ∀ suggestion, actor ≠ .importer suggestion := by
      intro suggestion heq
      have := (hm.1 suggestion).mp heq
      rw [hg] at this
      cases this
    have hnone := hT.idle hg
    have hentries : ∀ entry ∈ journalOf actor op s.store r, entry.wrote? = none := by
      intro entry hmem
      cases hw : entry.wrote? with
      | none => rfl
      | some written => exact absurd (journalOf_wrote h hmem hw).1 (hactor _)
    have hkept : g.Imports ⟨t, journalOf actor op s.store r ++ s.journal⟩ :=
      hT.kept (fun run row hrun _ => by rw [hnone] at hrun; cases hrun) hentries
    cases h with
    | refused op x =>
      cases op with
      | claimPending =>
        have hsame : { g with unfinished := none } = g := by
          cases g
          cases hnone
          rfl
        show Memory.Imports { g with unfinished := none } _
        rw [hsame]
        exact hkept
      | requeueForRetry => exact .idleHands rfl rfl
      | recordAnalyzed => exact .idleHands rfl rfl
      | recordFailed => exact .idleHands rfl rfl
      | _ => exact hkept
    | foundManual =>
      simpa [Memory.noteRuns, Except.mapError, hg] using hkept
    | createdManual =>
      simpa [Memory.noteRuns, Except.mapError, hg] using hkept
    | claimed row now maxAttempts _ hp hmax h =>
      refine ⟨fun _ => by simp [Memory.noteRuns, Except.mapError, hg], ?_, ?_, ?_⟩
      · intro _ c suggestion hclaim hwrote
        cases hclaim
        obtain ⟨entry, hmem, hw⟩ := hwrote
        obtain hnew | hold := List.mem_append.mp hmem
        · rw [hentries entry hnew] at hw
          cases hw
        · have hown := taken_own hu (hok _ rfl) (claim_takes h.found hp hmax) ⟨entry, hold, hw⟩
            h.found (by rw [hp]; rfl)
          rw [hnone] at hown
          cases hown
      · intro suggestion c hsome
        exact absurd (hsome.symm.trans hg) (by simp)
      · intro run hrun
        simp [Memory.noteRuns, Except.mapError, hg] at hrun
    | requeued => exact .idleHands rfl rfl
    | analyzed => exact .idleHands rfl rfl
    | failed => exact .idleHands rfl rfl
    | _ => exact hkept
  | some mine =>
    have hactor : actor = .importer mine := (hm.1 mine).mpr hg
    subst hactor
    -- a claim in an import's hands is on the run it has not finished
    have hfree : g.unfinished = none → g.claim = none := by
      intro hnone
      cases hc : g.claim with
      | none => rfl
      | some c =>
        have hheld := hT.held mine c hg hc
        rw [hnone] at hheld
        cases hheld
    cases h with
    | refused op x =>
      cases op with
      | claimPending =>
        refine .idleHands rfl ?_
        cases hun : g.unfinished with
        | none => exact hfree hun
        | some run => exact (hm.2 run hun).2.2
      | requeueForRetry => exact .idleHands rfl rfl
      | recordAnalyzed => exact .idleHands rfl rfl
      | recordFailed => exact .idleHands rfl rfl
      | _ => exact hT
    | foundManual _ _ _ _ run hfound =>
      simpa [Memory.noteRuns, Except.mapError, hfound, journalOf] using hT
    | created _ _ _ _ _ _ h =>
      exact hT.kept (fun run row _ hrow => habsent h run row hrow) fun _ hmem => by cases hmem
    | createdManual _ _ _ _ row _ h =>
      have hclaim := hfree hm.2
      refine @Memory.Imports.holding _ _ row.id mine row ?_ ?_ ?_ ?_ ?_ ?_ ?_
      · simp [Memory.noteRuns, Except.mapError, hg, h.absent]
      · simp [Memory.noteRuns, Except.mapError, hg, h.absent]
      · simp [Memory.noteRuns, Except.mapError, hg, h.absent, hclaim]
      · exact ⟨.importCreated row.id mine, by simp [journalOf, h.absent], rfl⟩
      · rintro other ⟨entry, hmem, hw⟩
        obtain hnew | hold := List.mem_append.mp hmem
        · simp only [journalOf, h.absent, List.mem_singleton] at hnew
          subst hnew
          cases hw
          rfl
        · -- no import has written a run that is not there
          obtain ⟨old, hold', -⟩ := hI.outcome row.id other ⟨entry, hold, hw⟩
          rw [h.absent] at hold'
          cases hold'
      · simp [h.find]
      · simp [Memory.Reached, Memory.noteRuns, Except.mapError, hg, h.absent, hclaim, h.pending,
          h.version, h.attempts]
    | claimed row now maxAttempts _ hp hmax h =>
      refine @Memory.Imports.holding _ _ row.id mine (row.claimed now) ?_ ?_ ?_ ?_ ?_ ?_ ?_
      · simp [Memory.noteRuns, Except.mapError, hg]
      · simp [Memory.noteRuns, Except.mapError, hg]
      · rintro c hclaim
        cases hclaim
        rfl
      · exact ⟨.importClaimed row.id mine, by simp [journalOf], rfl⟩
      · rintro other ⟨entry, hmem, hw⟩
        obtain hnew | hold := List.mem_append.mp hmem
        · simp only [journalOf, List.mem_singleton] at hnew
          subst hnew
          cases hw
          rfl
        · -- an earlier import of this run is this one
          have hown := taken_own hu (hok _ rfl) (claim_takes h.found hp hmax) ⟨entry, hold, hw⟩
            h.found (by rw [hp]; rfl)
          obtain ⟨mine', hg', -, hunique, -⟩ := hT.own row.id hown
          rw [hg] at hg'
          cases hg'
          exact hunique other ⟨entry, hold, hw⟩
      · simp [h.find]
      · simp [Memory.Reached, Memory.noteRuns, Except.mapError, MediaAnalysisRun.claimed]
    | requeued => exact .idleHands rfl rfl
    | analyzed => exact .idleHands rfl rfl
    | failed => exact .idleHands rfl rfl
    | interrupted =>
      rw [hm.2] at hg
      cases hg
    | _ => exact hT

end Steps
/-- The paid call is made for runs no import has written. -/
theorem AnalysisState.Imported.invoked {s : AnalysisState} (hI : s.Imported) {c : Claim}
    (hforeign : ∀ suggestion, ¬s.Wrote c.run suggestion) :
    AnalysisState.Imported { s with journal := .invoked c.run c.maxAttempts :: s.journal } where
  checks := hI.checks
  outcome run suggestion := by
    rintro ⟨entry, hmem, hw⟩
    obtain rfl | hold := List.mem_cons.mp hmem
    · cases hw
    · exact hI.outcome run suggestion ⟨entry, hold, hw⟩
  free run suggestion hmem := by
    have hold : JournalEntry.importCreated run suggestion ∈ s.journal := by
      obtain heq | hold := List.mem_cons.mp hmem
      · cases heq
      · exact hold
    have hne : c.run ≠ run := by
      rintro rfl
      exact hforeign suggestion (.of_created hold)
    simp only [invocations_cons, if_neg hne]
    exact hI.free run suggestion hold

/-- A run in hand after a transaction was in hand before, is new, or was just taken. -/
theorem unfinished_origin {s : AnalysisState} {t : RunStore} {g : Memory} {op : RunOperation}
    {r : Except RunRepositoryError op.Answer} {run : MediaAnalysisRunId}
    (h : op.Effected s.store r t)
    (hrun : (g.noteRuns s.store op (r.mapError fun _ => .failed)).unfinished = some run) :
    g.unfinished = some run ∨ s.store.find? run = none ∨
      (op.takes s.store = some run ∧ (∃ a, r = .ok a) ∧
        ∃ row, s.store.find? run = some row ∧ row.state = .pending) := by
  cases h with
  | refused op x => cases op <;> first | exact Or.inl hrun | cases hrun
  | foundManual _ _ _ _ row hfound =>
    exact Or.inl (by simpa [Memory.noteRuns, Except.mapError, hfound] using hrun)
  | createdManual _ _ _ _ row _ h =>
    simp only [Memory.noteRuns, Except.mapError] at hrun
    split at hrun
    · cases hrun
      exact Or.inr (Or.inl h.absent)
    · exact Or.inl hrun
  | claimed row now maxAttempts _ hp hmax h =>
    simp only [Memory.noteRuns, Except.mapError] at hrun
    split at hrun
    · cases hrun
      exact Or.inr (Or.inr ⟨claim_takes h.found hp hmax, ⟨_, rfl⟩, row, h.found, hp⟩)
    · cases hrun
  | requeued => cases hrun
  | analyzed => cases hrun
  | failed => cases hrun
  | _ => exact Or.inl hrun

theorem import_interference (lower : String → String) :
    Interference (importSystem lower) (fun s => s.Accounted ∧ s.Imported)
      (fun g s => g.Accounted s ∧ g.Imports s)
      (fun g g' => g.ClaimsApart g' ∧ g.UnfinishedApart g') := by
  have hpaid := (paid_interference lower).restrict
    (p := fun g i e s => undisturbed g i e s = true)
  have hinvoked : ∀ run maxAttempts,
      ∀ entry ∈ [JournalEntry.invoked run maxAttempts], entry.wrote? = none := by
    intro run maxAttempts entry hmem
    cases List.mem_singleton.mp hmem
    rfl
  refine ⟨⟨fun c s hI => ⟨hpaid.start c s hI.1, ?_⟩,
    fun g i e s hI hT hm hp => ⟨hpaid.state g i e s hI.1 hT.1 hm hp, ?_⟩,
    fun g i e s hI hT hm hp => ⟨hpaid.own g i e s hI.1 hT.1 hm hp, ?_⟩⟩,
    fun g g' i e s hI hT hT' hA hm hp =>
      ⟨hpaid.other g g' i e s hI.1 hT.1 hT'.1 hA.1 hm hp, ?_⟩,
    fun g g' hA => ⟨hpaid.symm g g' hA.1, fun run h h' => hA.2 run h' h⟩,
    fun c g s hI hT => ⟨hpaid.newcomer c g s hI.1 hT.1, ?_⟩,
    fun g g' i e s hI hT hT' hA hm hp =>
      ⟨hpaid.apart g g' i e s hI.1 hT.1 hT'.1 hA.1 hm hp, ?_⟩⟩
  · cases c <;> exact .idleHands rfl rfl
  · cases e with
    | runs actor op =>
      exact hI.2.transaction hI.1 hT.2 hm hp.2 (fun a ha => exec_answered ha)
        (op.effected i s.store)
    | suggest run maxAttempts request =>
      obtain ⟨hg, c, hclaim, rfl, rfl, -⟩ := hm
      exact hI.2.invoked fun suggestion => hT.2.foreign hg c suggestion hclaim
    | _ => exact hI.2
  · cases e with
    | runs actor op =>
      have hafter := hT.2.after hI.2 hm hp.2 (fun a ha => exec_answered ha)
        (op.effected i s.store)
      rw [← Memory.note_runs g s actor op] at hafter
      exact hafter
    | suggest run maxAttempts request =>
      obtain ⟨hg, c, hclaim, rfl, rfl, -⟩ := hm
      have hkept := hT.2.kept (t := s.store) (fun _ _ _ h => h) (hinvoked c.run c.maxAttempts)
      refine ⟨hkept.idle, fun _ c' suggestion hclaim' => ?_, fun suggestion c' hsome => ?_,
        fun run hrun => ?_⟩
      · obtain ⟨c₀, hc₀, rfl⟩ := Option.map_eq_some_iff.mp hclaim'
        exact hkept.foreign hg c₀ suggestion hc₀
      · exact absurd (hg.symm.trans hsome) (by simp)
      · have hnone := hT.2.idle hg
        exact absurd (hnone.symm.trans hrun) (by simp)
    | interruptRequested =>
      have hnone := hT.2.idle hm
      show Memory.Imports (g.note s .interruptRequested (.ok i.interruptRequested)) s
      cases i.interruptRequested with
      | true => exact .idleHands hnone rfl
      | false => exact hT.2
    | _ => exact hT.2
  · cases e with
    | runs actor op =>
      exact hT.2.other hT'.2 hT'.1 hA.2 hm hp.2 (fun a ha => exec_answered ha)
        (op.effected i s.store)
    | suggest run maxAttempts request =>
      exact hT'.2.kept (t := s.store) (fun _ _ _ h => h) (hinvoked run maxAttempts)
    | _ => exact hT'.2
  · intro run hrun
    cases c <;> cases hrun
  · intro run hrun hrun'
    cases e with
    | runs actor op =>
      obtain ⟨suggestion, -, hwrote, -, row, hrow, -⟩ := hT'.2.own run hrun'
      have heff := op.effected i s.store
      change (g.note s (.runs actor op) ((op.exec i s.store).1.mapError .repository)).unfinished =
        some run at hrun
      rw [Memory.note_runs] at hrun
      obtain hold | hnew | ⟨htakes, ⟨a, ha⟩, row', hrow', hp'⟩ := unfinished_origin heff hrun
      · exact hA.2 run hold hrun'
      · rw [hrow] at hnew
        cases hnew
      · exact hA.2 run (taken_own hp.2 (exec_answered ha) htakes hwrote hrow' (by rw [hp']; rfl)) hrun'
    | interruptRequested =>
      change (g.note s .interruptRequested (.ok i.interruptRequested)).unfinished = some run at hrun
      cases hi : i.interruptRequested with
      | true =>
        rw [hi] at hrun
        exact hA.2 run hrun hrun'
      | false =>
        rw [hi] at hrun
        exact hA.2 run hrun hrun'
    | _ => exact hA.2 run hrun hrun'

/-- Every run in an import's hands is in the hands of a live call. -/
def Tended (w : AnalysisWorld) : Prop :=
  ∀ run, w.state.inHands run = true → ∃ t ∈ w.threads, t.memory.unfinished = some run

/-- A call that leaves a run in hands leaves it in the same hands, or has it in its own. -/
theorem inHands_after {s : AnalysisState} {g : Memory} {i : Moment} {e : AnalysisEffect}
    {run : MediaAnalysisRunId} (hI : s.Accounted ∧ s.Imported) (hT : g.Accounted s ∧ g.Imports s)
    (hm : g.may e) (hu : undisturbed g i e s = true) (hin : (e.exec i s).2.inHands run = true) :
    (s.inHands run = true ∧
      (g.unfinished = some run → (g.note s e (e.exec i s).1).unfinished = some run)) ∨
      (g.note s e (e.exec i s).1).unfinished = some run := by
  cases e with
  | runs actor op =>
    have heff := op.effected i s.store
    obtain ⟨⟨suggestion, entry, hmem, hw⟩, row', hrow', hactive'⟩ := AnalysisState.inHands_iff.mp hin
    show (_ ∧ (_ → (g.note s (.runs actor op) ((op.exec i s.store).1.mapError .repository)).unfinished
      = some run)) ∨ (g.note s (.runs actor op) ((op.exec i s.store).1.mapError .repository)).unfinished
      = some run
    rw [Memory.note_runs]
    change entry ∈ journalOf actor op s.store (op.exec i s.store).1 ++ s.journal at hmem
    change (op.exec i s.store).2.find? run = some row' at hrow'
    have hanswers : i.databaseFault = none → g.unfinished = some run → _ → _ :=
      exec_of_unfinished hI.2 hT.2 hT.1 hm
    have hfault : g.unfinished = some run → i.databaseFault = none := by
      intro hun
      simp only [undisturbed, hun, Bool.and_eq_true, Option.isNone_some, Bool.false_or,
        Option.isNone_iff_eq_none] at hu
      exact hu.2
    generalize (op.exec i s.store).1 = r at heff hmem hanswers ⊢
    generalize (op.exec i s.store).2 = t at heff hrow'
    obtain hnew | hold := List.mem_append.mp hmem
    · -- an import that has just written the run has it in hand
      right
      obtain ⟨rfl, -, ⟨_, _, _, _, row, rfl, rfl, hinserted, -⟩ |
          ⟨row, now, maxAttempts, rfl, -, -, rfl, -, -⟩⟩ := journalOf_wrote heff hnew hw
      · have hg := (hm.1 suggestion).mp rfl
        cases heff with
        | refused => cases hnew
        | foundManual _ _ _ _ found hfound => simp [journalOf, hfound] at hnew
        | createdManual _ _ _ _ created _ hcreated =>
          simp only [journalOf, hcreated.absent, List.mem_singleton] at hnew
          subst hnew
          simp only [JournalEntry.wrote?, Option.some.injEq, Prod.mk.injEq] at hw
          simp [Memory.noteRuns, Except.mapError, hg, hinserted.absent, hw.1]
      · have hg := (hm.1 suggestion).mp rfl
        obtain ⟨x, rfl, rfl⟩ | ⟨claimed, -, -, rfl, -, -, -⟩ := heff.claim_cases
        · cases hnew
        · simp [Memory.noteRuns, Except.mapError, hg]
    · left
      have hwrote : s.Wrote run suggestion := ⟨entry, hold, hw⟩
      obtain ⟨row, hrow, hstate⟩ := hI.2.outcome run suggestion hwrote
      have hactive : row.state.active = true := by
        obtain hactive | ⟨hanalyzed, -⟩ := hstate
        · exact hactive
        · have hkept := heff.terminal hrow (by rw [hanalyzed]; rfl)
          rw [hrow'] at hkept
          cases hkept
          exact hactive'
      refine ⟨AnalysisState.inHands_iff.mpr ⟨⟨suggestion, hwrote⟩, row, hrow, hactive⟩, fun hun => ?_⟩
      obtain ⟨mine, hg, -⟩ := hT.2.own run hun
      cases heff with
      | refused op x =>
        -- a transaction of an import that has begun to write is not refused
        cases op with
        | claimPending id version now maxAttempts =>
          obtain ⟨a, ha⟩ := hanswers (hfault hun) hun (Or.inl ⟨_, _, _, _, rfl⟩)
          cases ha
        | recordAnalyzed id version other now =>
          obtain ⟨a, ha⟩ := hanswers (hfault hun) hun (Or.inr ⟨_, _, _, _, rfl⟩)
          cases ha
        | requeueForRetry => exact absurd (hm.2.1.symm.trans hg) (by simp)
        | recordFailed => exact absurd (hm.2.1.symm.trans hg) (by simp)
        | _ => exact hun
      | foundManual => exact absurd (hm.2.symm.trans hun) (by simp)
      | createdManual => exact absurd (hm.2.symm.trans hun) (by simp)
      | claimed row now maxAttempts _ _ _ _ =>
        obtain ⟨rfl, -, -⟩ := hm.2 run hun
        simp [Memory.noteRuns, Except.mapError, hg]
      | requeued => exact absurd (hm.2.1.symm.trans hg) (by simp)
      | failed => exact absurd (hm.2.1.symm.trans hg) (by simp)
      | interrupted => exact absurd (hm.2.symm.trans hg) (by simp)
      | analyzed old other now _ _ h =>
        -- the record that ends the import leaves the run analyzed
        obtain ⟨-, -, c, hclaim, hid, -⟩ := hm
        have hheld := hT.2.held mine c hg hclaim
        rw [hun, hid] at hheld
        cases hheld
        rw [h.find, if_pos rfl] at hrow'
        cases hrow'
        cases hactive'
      | _ => exact hun
  | interruptRequested =>
    left
    refine ⟨hin, fun hun => ?_⟩
    rw [hT.2.idle hm] at hun
    cases hun
  | suggest id maxAttempts request =>
    left
    refine ⟨?_, fun hun => hun⟩
    obtain ⟨⟨suggestion, entry, hmem, hw⟩, hrow⟩ := AnalysisState.inHands_iff.mp hin
    obtain rfl | hold := List.mem_cons.mp hmem
    · cases hw
    · exact AnalysisState.inHands_iff.mpr ⟨⟨suggestion, entry, hold, hw⟩, hrow⟩
  | _ => exact Or.inl ⟨hin, fun hun => hun⟩

section Runs
variable {lower : String → String} {w w' : AnalysisWorld}

/-- The invariants of an undisturbed run. -/
abbrev SoundImports (lower : String → String) (w : AnalysisWorld) : Prop :=
  Sound (importSystem lower) (fun g _ => g.unfinished = none) (fun s => s.Accounted ∧ s.Imported)
    (fun g s => g.Accounted s ∧ g.Imports s) (fun g g' => g.ClaimsApart g' ∧ g.UnfinishedApart g') w

theorem Tended.step (hw : SoundImports lower w) (htended : Tended w)
    (h : Step (importSystem lower) w w') (hcrash : w'.threads = [] → w.state.tidy = true) :
    Tended w' := by
  intro run hin
  cases h with
  | start c hs =>
    obtain ⟨t, ht, hrun⟩ := htended run hin
    exact ⟨t, List.mem_append_left _ ht, hrun⟩
  | call n i g e next hn hp =>
    obtain ⟨hT, hO⟩ := hw.threads _ (List.mem_of_getElem? hn)
    have hlength : n < w.threads.length := (List.getElem?_eq_some_iff.mp hn).1
    have hcaller : ∀ t', (w.threads.set n t')[n]? = some t' := by simp [hlength]
    obtain ⟨hin₀, hsame⟩ | hown := inHands_after hw.state hT hO.1 hp.2 hin
    · obtain ⟨t, ht, hrun⟩ := htended run hin₀
      obtain ⟨m, hm⟩ := List.mem_iff_getElem?.mp ht
      by_cases hmn : n = m
      · subst hmn
        rw [hn] at hm
        cases hm
        exact ⟨_, List.mem_of_getElem? (hcaller _), hsame hrun⟩
      · exact ⟨t, List.mem_of_getElem? (i := m) (by rw [List.getElem?_set_ne hmn, hm]), hrun⟩
    · exact ⟨_, List.mem_of_getElem? (hcaller _), hown⟩
  | crash hc =>
    obtain ⟨⟨suggestion, entry, hmem, hwritten⟩, -⟩ := AnalysisState.inHands_iff.mp hin
    have htidy := List.all_eq_true.mp (hcrash rfl) entry hmem
    simp only [hwritten, Option.all_some, Bool.not_eq_true'] at htidy
    rw [htidy] at hin
    cases hin

/-- What the invariants say of an import that is over. -/
theorem ImportsAtomicAndFree.of_tended (hw : SoundImports lower w) (htended : Tended w) :
    ImportsAtomicAndFree w where
  outcome run suggestion hwrote := by
    obtain ⟨row, hrow, hactive | hdone⟩ := hw.state.2.outcome run suggestion hwrote
    · right
      obtain ⟨t, ht, hrun⟩ := htended run
        (AnalysisState.inHands_iff.mpr ⟨⟨suggestion, hwrote⟩, row, hrow, hactive⟩)
      refine ⟨t, ht, hrun, ?_⟩
      -- a call that has ended has nothing unfinished
      have hO := (hw.threads t ht).2
      cases hp : t.program with
      | call e next => rfl
      | done a =>
        rw [hp] at hO
        exact absurd (hO.symm.trans hrun) (by simp)
      | fail x =>
        rw [hp] at hO
        exact absurd (hO.symm.trans hrun) (by simp)
    · exact Or.inl ⟨row, hrow, hdone⟩
  free := hw.state.2.free

/-- Only a crash leaves no thread. -/
theorem move_threads {m : Move Caller Moment} (hm : Analysis.Move.crashes m = false) :
    w.move (importSystem lower) m = w ∨ (w.move (importSystem lower) m).threads ≠ [] := by
  cases m with
  | start c =>
    right
    simp [World.move, importSystem, System.restrict, analysisSystem]
  | call n i =>
    cases hn : w.threads[n]? with
    | none =>
      left
      simp only [World.move, hn]
    | some t =>
      have hlength := (List.getElem?_eq_some_iff.mp hn).1
      obtain ⟨g, p⟩ := t
      cases p with
      | done a =>
        left
        simp only [World.move, hn]
      | fail x =>
        left
        simp only [World.move, hn]
      | call e next =>
        right
        intro hnil
        simp only [World.move, hn] at hnil
        have hzero := congrArg List.length hnil
        simp only [List.length_set, List.length_nil] at hzero
        omega
  | crash => cases hm

/-- The invariants hold after every script that leaves the imports alone. -/
theorem Calm.sound (moves : List (Move Caller Moment)) (hw : SoundImports lower w)
    (htended : Tended w) (hcalm : Calm lower moves w) :
    SoundImports lower (moves.foldl (World.move (analysisSystem lower)) w) ∧
      Tended (moves.foldl (World.move (analysisSystem lower)) w) := by
  induction moves generalizing w with
  | nil => exact ⟨hw, htended⟩
  | cons m moves ih =>
    obtain ⟨hmay, htidy, hrest⟩ := hcalm
    have hobedient : Obedient (importSystem lower) fun g _ => g.unfinished = none :=
      fun c => (analysis_obedient lower c).restrict
    change SoundImports lower (moves.foldl _ (w.move (importSystem lower) m)) ∧
      Tended (moves.foldl _ (w.move (importSystem lower) m))
    obtain hsame | hstep := World.move_cases hmay
    · rw [hsame]
      exact ih hw htended (by
        change Calm lower moves (w.move (importSystem lower) m) at hrest
        rw [hsame] at hrest
        exact hrest)
    · refine ih (hw.step (import_interference lower) hobedient hstep)
        (htended.step hw hstep fun hnil => ?_) hrest
      cases hm : Analysis.Move.crashes m with
      | true => exact htidy hm
      | false =>
        obtain hsame | hne := @move_threads lower w m hm
        · -- without a thread nobody has a run in hand
          rw [hsame] at hnil
          refine List.all_eq_true.mpr fun entry _ => ?_
          cases hwritten : entry.wrote? with
          | none => rfl
          | some written =>
            cases hin : w.state.inHands written.1 with
            | false => simp [hin]
            | true =>
              obtain ⟨t, ht, -⟩ := htended written.1 hin
              rw [hnil] at ht
              cases ht
        · exact absurd hnil hne

theorem empty_imported (records : List BoundRecord) :
    AnalysisState.Imported ⟨⟨Table.empty, records⟩, []⟩ where
  checks _ _ h := by cases h
  outcome _ _ h := by
    obtain ⟨entry, hmem, -⟩ := h
    cases hmem
  free _ _ h := by cases h

end Runs

/-- The transactions with which an import begins: it may find a run, create one, claim one. -/
def RunOperation.beginsImport : RunOperation → Bool
  | .createManualPending .. | .getByMediaDefinition .. | .claimPending .. => true
  | _ => false

/-- Where an import has written no run, the store is as it was. -/
theorem import_unwritten (i : Moment) (suggestion : MediaSuggestion) {op : RunOperation}
    {s : AnalysisState} (hop : op.beginsImport = true)
    (h : journalOf (.importer suggestion) op s.store (op.exec i s.store).1 = []) :
    ((AnalysisEffect.runs (.importer suggestion) op).exec i s).2 = s := by
  have heff := op.effected i s.store
  have hstore : (op.exec i s.store).2 = s.store := by
    generalize (op.exec i s.store).1 = r at heff h
    generalize (op.exec i s.store).2 = t at heff
    cases heff with
    | createdManual _ _ _ _ row _ hinserted => simp [journalOf, hinserted.absent] at h
    | claimed => simp [journalOf] at h
    | refused | looked | foundManual => rfl
    | _ => cases hop
  show (⟨(op.exec i s.store).2, _⟩ : AnalysisState) = s
  rw [h, hstore]
  rfl

/-- Left alone between their transactions, imports are atomic and free: in every run in which
no other call takes a run out of an import's hands, no crash falls between its transactions
and the database answers them, each run an import wrote ends analyzed with its result, and
none that it created is paid for; an import that wrote no run changed nothing. -/
theorem undisturbed_imports_atomic_and_free (lower : String → String) (records : List BoundRecord)
    (moves : List (Move Caller Moment))
    (h : Calm lower moves ⟨⟨⟨Table.empty, records⟩, []⟩, []⟩) :
    ImportsAtomicAndFree (moves.foldl (World.move (analysisSystem lower))
      ⟨⟨⟨Table.empty, records⟩, []⟩, []⟩) ∧
    ∀ (i : Moment) (suggestion : MediaSuggestion) (op : RunOperation) (s : AnalysisState),
      op.beginsImport = true →
      journalOf (.importer suggestion) op s.store (op.exec i s.store).1 = [] →
      ((AnalysisEffect.runs (.importer suggestion) op).exec i s).2 = s := by
  have hempty : Tended ⟨⟨⟨Table.empty, records⟩, []⟩, []⟩ := fun run hin => by cases hin
  obtain ⟨hw, htended⟩ := Calm.sound moves
    (Sound.init ⟨empty_accounted records, empty_imported records⟩) hempty h
  exact ⟨.of_tended hw htended, fun i suggestion op s hop => import_unwritten i suggestion hop⟩

/-! A preview for a medium of the catalog, imported at its leisure and in a race. -/

def samplePreview : MediaSuggestion where
  title := "Harbour"
  description := "Boats at dusk."
  collection := "Trips"
  tags := ["boats"]
  suggestedFilename := "harbour.mp4"
  confidence := "0.9"
  evidence := []
  uncertainties := []
  providerId := "import"
  modelId := "preview"
  promptVersion := Analysis.promptVersion

def sampleMedium : MediaId := ⟨"00000000-0000-4000-8000-000000000001", by decide +kernel⟩
def sampleLocation : MediaLocationId := ⟨"00000000-0000-4000-8000-000000000002", by decide +kernel⟩
def sampleLibrary : LibraryId := ⟨"00000000-0000-4000-8000-000000000003", by decide +kernel⟩
def sampleRun : MediaAnalysisRunId := ⟨"run-1"⟩

/-- What the surroundings answer in the sample runs. -/
def sampleMoment : Moment where
  newRunId := sampleRun
  media := .ok (some ⟨.video⟩)
  location := .ok (some ⟨sampleMedium, true, sampleLibrary, "trips/harbour.mp4"⟩)
  root := .ok (some "/media")
  prepared := .ok ⟨"trips/harbour.mp4", "{}", ["frame"]⟩
  suggestion := .ok samplePreview

def sampleImport : Caller :=
  .importPreview .default automaticPostCatalogAnalysisDefinition sampleMedium sampleLocation
    samplePreview

/-- The import runs to its end, seven calls, before a drain looks for work. -/
def leisurelyImport : List (Move Caller Moment) :=
  .start sampleImport :: List.replicate 7 (.call 0 sampleMoment) ++
    .start (.drain .default 8 2) :: List.replicate 3 (.call 1 sampleMoment)

/-- The drain begins when the import has created its run and not yet claimed it. -/
def racedImport : List (Move Caller Moment) :=
  .start sampleImport :: List.replicate 3 (.call 0 sampleMoment) ++
    .start (.drain .default 8 2) :: List.replicate 15 (.call 1 sampleMoment)

theorem undisturbed_imports_leisurely :
    Calm id leisurelyImport ⟨⟨⟨Table.empty, []⟩, []⟩, []⟩ ∧
    ImportsAtomicAndFree (leisurelyImport.foldl (World.move (analysisSystem id))
      ⟨⟨⟨Table.empty, []⟩, []⟩, []⟩) :=
  have hcalm : Calm id leisurelyImport ⟨⟨⟨Table.empty, []⟩, []⟩, []⟩ := by decide +kernel
  ⟨hcalm, (undisturbed_imports_atomic_and_free id [] leisurelyImport hcalm).1⟩

/-- In the race the drain pays the provider for the run the import has created. -/
theorem raced_import_is_paid_for :
    ¬ImportsAtomicAndFree (racedImport.foldl (World.move (analysisSystem id))
      ⟨⟨⟨Table.empty, []⟩, []⟩, []⟩) := by
  intro h
  have hcreated : JournalEntry.importCreated sampleRun samplePreview ∈
      (racedImport.foldl (World.move (analysisSystem id))
        ⟨⟨⟨Table.empty, []⟩, []⟩, []⟩).state.journal := by decide +kernel
  have hpaid : invocations sampleRun (racedImport.foldl (World.move (analysisSystem id))
      ⟨⟨⟨Table.empty, []⟩, []⟩, []⟩).state.journal ≠ 0 := by decide +kernel
  exact hpaid (h.free sampleRun samplePreview hcreated)

end FrameNest.Analysis
