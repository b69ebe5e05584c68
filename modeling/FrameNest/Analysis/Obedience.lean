import FrameNest.Analysis.RunChanges

/-! Every call keeps to its protocol: it asks the provider only for a run it has claimed and
not yet asked for, and writes an outcome only for the run and version it claimed. -/
namespace FrameNest.Analysis
open Concurrent

/-- No import, and nothing left half written. -/
def Memory.Worker (g : Memory) : Prop := g.importing = none ∧ g.unfinished = none

/-- The claim a worker executes. -/
def Memory.Holding (g : Memory) (claimed : MediaAnalysisRun) (maxAttempts : MaxAttempts)
    (invoked : Bool) : Prop :=
  g.Worker ∧ g.claim = some ⟨claimed.id, claimed.version, maxAttempts, invoked⟩

/-- An effect that any call may issue and that leaves its memory alone. -/
def AnalysisEffect.quiet : AnalysisEffect → Bool
  | .runs .. | .suggest .. | .interruptRequested => false
  | _ => true

section Rules
variable {lower : String → String} {g : Memory} {α : Type}

theorem quiet_note {e : AnalysisEffect} (he : e.quiet = true) (s : AnalysisState)
    (r : Except AnalysisFailure e.Answer) : g.note s e r = g := by
  cases e <;> first | rfl | exact absurd he Bool.false_ne_true

theorem quiet_may {e : AnalysisEffect} (he : e.quiet = true) : g.may e := by
  cases e <;> trivial

theorem obeys_quiet_bind {e : AnalysisEffect} (he : e.quiet = true)
    {Q : Memory → Except AnalysisFailure α → Prop} {f : e.Answer → AnalysisProgram α}
    (hok : ∀ a, Obeys (analysisSystem lower).toProtocol Q (f a) g)
    (herror : ∀ i s x, (e.exec i s).1 = .error x → Q g (.error x)) :
    Obeys (analysisSystem lower).toProtocol Q (perform e >>= f) g := by
  refine Obeys.perform_bind (quiet_may he) fun i s _ => ?_
  have hnote : ∀ r, (analysisSystem lower).note g s e r = g := quiet_note he s
  rw [hnote]
  cases hr : ((analysisSystem lower).exec i e s).1 with
  | ok a => exact hok a
  | error x => exact herror i s x hr

/-- A repository call, judged from what its transaction can do. -/
theorem obeys_runs {actor : Actor} {op : RunOperation}
    {Q : Memory → Except AnalysisFailure op.Answer → Prop} (hm : g.may (.runs actor op))
    (h : ∀ s r t, op.Effected s r t →
      Q (g.noteRuns s op (r.mapError fun _ => .failed)) (r.mapError .repository)) :
    Obeys (analysisSystem lower).toProtocol Q (runs actor op) g := by
  refine Obeys.perform hm fun i s _ => ?_
  have hQ := h s.store _ _ (op.effected i s.store)
  rw [← Memory.note_runs g s actor op] at hQ
  exact hQ

theorem obeys_orLifecycleError {Q : Memory → Except AnalysisFailure α → Prop} {message : String}
    {p : AnalysisProgram α}
    (h : Obeys (analysisSystem lower).toProtocol (fun g' r => match r with
      | .ok a => Q g' (.ok a)
      | .error _ => ∀ y, Q g' (.error y)) p g) :
    Obeys (analysisSystem lower).toProtocol Q (orLifecycleError message p) g := by
  refine Obeys.rescue (h.mono fun g' r hr => ?_)
  cases r with
  | ok a => exact hr
  | error x =>
    cases x <;> exact hr _

end Rules

section Producers
variable {lower : String → String} {g : Memory}

theorem obeys_createPending (target : CatalogedAnalysisTarget) (definition : String) (now : Nat)
    (hg : g.Worker) : Obeys (analysisSystem lower).toProtocol (fun g' _ => g'.Worker)
      (createPending .scheduler target definition now) g := by
  have hactor : ∀ suggestion, Actor.scheduler = .importer suggestion ↔
      g.importing = some suggestion := by simp [hg.1]
  refine Obeys.rescue (obeys_runs ⟨hactor, trivial⟩ fun s r t heff => ?_)
  cases r with
  | ok a => exact hg
  | error x =>
    cases x with
    | integrity =>
      refine Obeys.bind (obeys_runs ⟨hactor, trivial⟩ fun s' r' t' _ => ?_)
      cases r' with
      | ok a =>
        cases a with
        | some run => exact hg
        | none => exact hg
      | error x => exact hg
    | _ => exact hg

/-- A manual creation leaves the new run unfinished in an import's hands, and only there. -/
theorem obeys_createManualPending (actor : Actor) (target : CatalogedAnalysisTarget)
    (definition : String) (now : Nat)
    (hactor : ∀ suggestion, actor = .importer suggestion ↔ g.importing = some suggestion)
    (hu : g.unfinished = none) : Obeys (analysisSystem lower).toProtocol (fun g' r =>
      g' = g ∨ ∃ run : MediaAnalysisRun, r = .ok run ∧ run.state = .pending ∧ run.version = 1 ∧
        g.importing.isSome = true ∧ g' = { g with unfinished := some run.id })
      (createManualPending actor target definition now) g := by
  refine Obeys.rescue (obeys_runs ⟨hactor, hu⟩ fun s r t heff => ?_)
  cases heff with
  | refused _ x =>
    cases x with
    | integrity =>
      refine Obeys.bind (obeys_runs ⟨hactor, trivial⟩ fun s' r' t' _ => ?_)
      cases r' with
      | ok a =>
        cases a with
        | some run =>
          exact Obeys.ite (c := (run : MediaAnalysisRun).state.active = true)
            (fun _ => Or.inl rfl) fun _ => Or.inl rfl
        | none => exact Or.inl rfl
      | error x => exact Or.inl rfl
    | _ => exact Or.inl rfl
  | foundManual _ _ _ _ run h =>
    refine Or.inl ?_
    simp [Memory.noteRuns, Except.mapError, h]
  | createdManual _ _ _ _ run t h =>
    by_cases hi : g.importing.isSome = true
    · exact Or.inr ⟨run, rfl, h.pending, h.version, hi, by simp [Memory.noteRuns, Except.mapError, h.absent, hi]⟩
    · exact Or.inl (by simp [Memory.noteRuns, Except.mapError, hi])

theorem obeys_requestManual (actor : Actor) (target : CatalogedAnalysisTarget) (definition : String)
    (hactor : ∀ suggestion, actor = .importer suggestion ↔ g.importing = some suggestion)
    (hu : g.unfinished = none) : Obeys (analysisSystem lower).toProtocol (fun g' r =>
      g' = g ∨ ∃ run : MediaAnalysisRun, r = .ok run ∧ run.state = .pending ∧ run.version = 1 ∧
        g.importing.isSome = true ∧ g' = { g with unfinished := some run.id })
      (requestManual actor target definition) g := by
  refine obeys_orLifecycleError (obeys_quiet_bind (e := .nowMs) rfl (fun now => ?_) fun i s x hx =>
    by cases hx)
  refine (obeys_createManualPending actor target definition now hactor hu).mono fun g' r hr => ?_
  cases r with
  | ok a => exact hr
  | error x =>
    obtain rfl | ⟨run, hrun, -⟩ := hr
    · exact fun y => Or.inl rfl
    · cases hrun

end Producers

section Imports
variable {lower : String → String} {g : Memory}

/-- Claimed and recorded, or claimed in vain: either way nothing is left in hand. -/
theorem obeys_persistPending (maxAttempts : MaxAttempts) (pending : MediaAnalysisRun)
    (suggestion : MediaSuggestion) (hg : g.importing = some suggestion)
    (hu : ∀ run, g.unfinished = some run →
      run = pending.id ∧ pending.version = 1 ∧ g.claim = none) :
    Obeys (analysisSystem lower).toProtocol (fun g' _ => g'.unfinished = none)
      (persistPending maxAttempts pending suggestion) g := by
  have hactor : ∀ other, Actor.importer suggestion = .importer other ↔ g.importing = some other := by
    simp [hg]
  refine obeys_orLifecycleError (Obeys.bind (obeys_quiet_bind (e := .nowMs) rfl (fun now => ?_)
    fun i s x hx => by cases hx))
  refine obeys_runs ⟨hactor, hu⟩ fun s r t heff => ?_
  obtain ⟨x, rfl, rfl⟩ | ⟨row, hid, -, rfl, -, -, -⟩ := heff.claim_cases
  · exact fun y => rfl
  · refine Obeys.bind (obeys_quiet_bind (e := .nowMs) rfl (fun now' => ?_) fun i s x hx => by cases hx)
    refine obeys_runs ⟨hactor, ?_⟩ fun s' r' t' _ => ?_
    · refine ⟨fun other hother => ?_, _, rfl, hid.symm, rfl⟩
      exact Option.some.inj (hg.symm.trans hother)
    · cases r' with
      | ok a => exact rfl
      | error x => exact fun y => rfl

/-- An import ends with nothing unfinished, whatever its transactions answer. -/
theorem obeys_persistImportedPreview (maxAttempts : MaxAttempts) (definition : String)
    (mediaId : MediaId) (locationId : MediaLocationId) (suggestion : MediaSuggestion)
    (hg : g.importing = some suggestion) (hu : g.unfinished = none) (hc : g.claim = none) :
    Obeys (analysisSystem lower).toProtocol (fun g' _ => g'.unfinished = none)
      (persistImportedPreview maxAttempts definition mediaId locationId suggestion) g := by
  have hactor : ∀ other, Actor.importer suggestion = .importer other ↔ g.importing = some other := by
    simp [hg]
  refine obeys_quiet_bind (e := .contentCategory mediaId) rfl
    (fun (category : MetadataCategory) => ?_) fun _ _ _ _ => hu
  refine Obeys.ite (c := (category : MetadataCategory) = .movie) (fun _ => hu) fun _ => ?_
  refine Obeys.bind ((obeys_requestManual _ _ definition hactor hu).mono fun g₁ r hr => ?_)
  cases r with
  | error x =>
    obtain rfl | ⟨run, hrun, -⟩ := hr
    · exact hu
    · cases hrun
  | ok pending =>
    have hshape : g₁.importing = some suggestion ∧ g₁.claim = none ∧
        (g₁.unfinished = none ∨
          (pending.state = .pending ∧ pending.version = 1 ∧ g₁.unfinished = some pending.id)) := by
      obtain rfl | ⟨run, hrun, hp, hv, -, rfl⟩ := hr
      · exact ⟨hg, hc, Or.inl hu⟩
      · cases hrun
        exact ⟨hg, hc, Or.inr ⟨hp, hv, rfl⟩⟩
    obtain ⟨hg₁, hc₁, hu₁⟩ := hshape
    refine Obeys.ite (fun _ => ?_) fun hp => ?_
    · refine obeys_persistPending maxAttempts pending suggestion hg₁ fun run hrun => ?_
      obtain hnone | ⟨-, hv, hsome⟩ := hu₁
      · rw [hnone] at hrun
        cases hrun
      · rw [hsome] at hrun
        exact ⟨(Option.some.inj hrun).symm, hv, hc₁⟩
    · obtain hnone | ⟨hp', -⟩ := hu₁
      · exact hnone
      · exact absurd hp' hp

end Imports

section Execution
variable {lower : String → String} {g : Memory} {claimed : MediaAnalysisRun}
  {maxAttempts : MaxAttempts}

theorem Memory.Worker.actor (hg : g.Worker) {actor : Actor}
    (h : ∀ suggestion, actor ≠ .importer suggestion) (suggestion : MediaSuggestion) :
    actor = .importer suggestion ↔ g.importing = some suggestion := by
  simp [hg.1, h suggestion]

theorem obeys_ofExcept {α : Type} {x : Except AnalysisException α}
    {Q : Memory → Except AnalysisFailure α → Prop} (h : ∀ r, Q g r) :
    Obeys (analysisSystem lower).toProtocol Q (ofExcept x) g := by
  cases x with
  | ok a => exact h _
  | error x => exact h _

/-- The executor asks the provider at most once, and last. -/
theorem obeys_executeSuggestion (hg : g.Holding claimed maxAttempts false) :
    Obeys (analysisSystem lower).toProtocol
      (fun g' _ => ∃ invoked, g'.Holding claimed maxAttempts invoked)
      (executeSuggestion lower claimed maxAttempts) g := by
  have hend : ∃ invoked, g.Holding claimed maxAttempts invoked := ⟨false, hg⟩
  refine obeys_quiet_bind (e := .providerConfigured) rfl (fun (configured : Bool) => ?_)
    fun _ _ _ _ => hend
  refine Obeys.ite (fun _ => hend) fun _ => ?_
  refine obeys_quiet_bind (e := .modelCapabilities) rfl
    (fun (capabilities : Option (List String)) => ?_) fun _ _ _ _ => hend
  refine Obeys.ite (fun _ => hend) fun _ => ?_
  refine obeys_quiet_bind (e := .getMedia claimed.mediaId) rfl
    (fun (media : Option CatalogMedia) => ?_) fun _ _ _ _ => hend
  refine obeys_quiet_bind (e := .getLocation claimed.mediaLocationId) rfl
    (fun (location : Option CatalogLocation) => ?_) fun _ _ _ _ => hend
  cases media with
  | none => exact hend
  | some media =>
    cases location with
    | none => exact hend
    | some location =>
      refine Obeys.ite (fun _ => hend) fun _ => ?_
      refine obeys_quiet_bind (e := .libraryRoot location.libraryId) rfl
        (fun (root : Option String) => ?_) fun _ _ _ _ => hend
      cases root with
      | none => exact hend
      | some root =>
        refine Obeys.ite (fun _ => hend) fun _ => ?_
        refine Obeys.bind (obeys_ofExcept fun r => ?_)
        cases r with
        | error x => exact hend
        | ok extension =>
          refine Obeys.ite (fun _ => hend) fun _ => ?_
          refine Obeys.bind (Obeys.rescue (Obeys.perform trivial fun i s _ => ?_))
          cases ((analysisSystem lower).exec i (.prepare root location.relativePath) s).1 with
          | error x => cases x with
            | execution x => cases x <;> exact hend
            | _ => exact hend
          | ok prepared =>
            refine Obeys.bind (obeys_ofExcept fun r => ?_)
            cases r with
            | error x => exact hend
            | ok request =>
              refine Obeys.perform ⟨hg.1.1, _, hg.2, rfl, rfl, rfl⟩ fun i s _ => ?_
              exact ⟨true, hg.1, by simp [analysisSystem, Memory.note, hg.2]⟩

theorem obeys_claim (run : MediaAnalysisRun) (hg : g.Worker) :
    Obeys (analysisSystem lower).toProtocol (fun g' r => match r with
      | .ok claimed => g'.Holding claimed maxAttempts false
      | .error _ => g'.Worker) (claim .coordinator run maxAttempts) g := by
  refine obeys_quiet_bind (e := .nowMs) rfl (fun now => ?_) fun _ _ _ hx => by cases hx
  refine obeys_runs ⟨hg.actor (by simp), by simp [hg.2]⟩ fun s r t heff => ?_
  obtain ⟨x, rfl, rfl⟩ | ⟨row, hid, -, rfl, -, -, -⟩ := heff.claim_cases
  · exact ⟨hg.1, rfl⟩
  · refine ⟨⟨hg.1, by simp [Memory.noteRuns, Except.mapError, hg.1]⟩, ?_⟩
    have hrun : (row.claimed now).id = run.id := hid
    simp [Memory.noteRuns, Except.mapError, hrun]

/-- A call whose outcome write leaves nothing in hand. -/
theorem obeys_outcome {op : RunOperation} (hm : g.may (.runs .coordinator op))
    (hnote : ∀ s r, (g.noteRuns s op r).Worker) :
    Obeys (analysisSystem lower).toProtocol (fun g' _ => g'.Worker) (runs .coordinator op) g :=
  obeys_runs hm fun s _ _ _ => hnote s _

theorem obeys_outcome_error {op : RunOperation} {message : String}
    (hm : g.may (.runs .coordinator op)) (hnote : ∀ s r, (g.noteRuns s op r).Worker) :
    Obeys (analysisSystem lower).toProtocol (fun g' _ => g'.Worker)
      (orLifecycleError message (runs .coordinator op)) g := by
  refine obeys_orLifecycleError ((obeys_outcome hm hnote).mono fun g' r hr => ?_)
  cases r with
  | ok a => exact hr
  | error x => exact fun _ => hr

theorem obeys_recordSuggestion (suggestion : MediaSuggestion) {invoked : Bool}
    (hg : g.Holding claimed maxAttempts invoked) :
    Obeys (analysisSystem lower).toProtocol (fun g' _ => g'.Worker)
      (recordSuggestion .coordinator claimed suggestion) g := by
  refine obeys_quiet_bind (e := .nowMs) rfl (fun now => ?_) fun _ _ _ hx => by cases hx
  refine obeys_outcome ⟨hg.1.actor (by simp), ?_⟩ fun s r => ⟨hg.1.1, rfl⟩
  exact ⟨fun other hother => by simp [hg.1.1] at hother, _, hg.2, rfl, rfl⟩

/-- An interruption gives the claim up. -/
theorem obeys_interruptRequested_bind {α : Type} {Q : Memory → Except AnalysisFailure α → Prop}
    {f : Bool → AnalysisProgram α} (hg : g.importing = none)
    (htrue : Obeys (analysisSystem lower).toProtocol Q (f true) { g with claim := none })
    (hfalse : Obeys (analysisSystem lower).toProtocol Q (f false) g) :
    Obeys (analysisSystem lower).toProtocol Q (interruptRequested >>= f) g := by
  refine ⟨hg, fun i s _ => ?_⟩
  show Obeys _ _ (f i.interruptRequested) (g.note s .interruptRequested (.ok i.interruptRequested))
  cases i.interruptRequested with
  | true => exact htrue
  | false => exact hfalse

theorem obeys_persistFailure (x : AnalysisFailure) {invoked : Bool}
    (hg : g.Holding claimed maxAttempts invoked) :
    Obeys (analysisSystem lower).toProtocol (fun g' _ => g'.Worker)
      (persistFailure claimed maxAttempts x) g := by
  refine obeys_interruptRequested_bind hg.1.1 hg.1 ?_
  refine obeys_quiet_bind (e := .nowMs) rfl (fun now => ?_) fun _ _ _ hx => by cases hx
  have hactor : ∀ suggestion, Actor.coordinator = .importer suggestion ↔
      g.importing = some suggestion := hg.1.actor (by simp)
  refine Obeys.ite (fun hretry => ?_) fun _ => ?_
  · simp only [Bool.and_eq_true, List.contains_iff_mem] at hretry
    exact obeys_outcome_error ⟨hactor, hg.1.1, hretry.2, _, hg.2, rfl, rfl⟩ fun s r => ⟨hg.1.1, rfl⟩
  · exact obeys_outcome_error ⟨hactor, hg.1.1, _, hg.2, rfl, rfl⟩ fun s r => ⟨hg.1.1, rfl⟩

theorem obeys_executeClaimed (working : MediaAnalysisRun) (hg : g.Worker) :
    Obeys (analysisSystem lower).toProtocol (fun g' _ => g'.Worker)
      (executeClaimed lower working maxAttempts) g := by
  refine Obeys.bind ((obeys_claim working hg).mono fun g₁ r hr => ?_)
  cases r with
  | error x => exact hr
  | ok claimed =>
    refine obeys_quiet_bind (e := .inTransaction) rfl (fun (inside : Bool) => ?_)
      fun _ _ _ hx => by cases hx
    refine Obeys.ite (fun _ => hr.1) fun _ => ?_
    refine Obeys.bind (Obeys.rescue (Obeys.bind ((obeys_executeSuggestion hr).mono
      fun g₂ r hg₂ => ?_)))
    obtain ⟨invoked, hg₂⟩ := hg₂
    cases r with
    | error x => exact obeys_persistFailure x hg₂
    | ok suggestion =>
      refine obeys_orLifecycleError ((obeys_recordSuggestion suggestion hg₂).mono fun g' r hr => ?_)
      cases r with
      | ok a => exact hr
      | error x => exact fun _ => hr

theorem obeys_reconcileInterrupted (run : MediaAnalysisRun) (hg : g.Worker) :
    Obeys (analysisSystem lower).toProtocol (fun g' _ => g'.Worker)
      (reconcileInterrupted run) g := by
  refine Obeys.ite (fun _ => hg) fun _ => ?_
  refine obeys_quiet_bind (e := .nowMs) rfl (fun now => ?_) fun _ _ _ hx => by cases hx
  have hactor : ∀ suggestion, Actor.coordinator = .importer suggestion ↔
      g.importing = some suggestion := hg.actor (by simp)
  refine Obeys.rescue (obeys_runs ⟨hactor, hg.1⟩ fun s r t _ => ?_)
  cases r with
  | ok a => exact hg
  | error x =>
    cases x with
    | conflict =>
      refine Obeys.bind (obeys_runs ⟨hactor, trivial⟩ fun s' r' t' _ => ?_)
      cases r' with
      | error x => exact hg
      | ok current => cases current <;> exact hg
    | _ => exact hg

theorem obeys_execute (run : MediaAnalysisRun) (hg : g.Worker) :
    Obeys (analysisSystem lower).toProtocol (fun g' _ => g'.Worker)
      (execute lower run maxAttempts) g := by
  refine Obeys.ite (fun _ => hg) fun _ => ?_
  refine Obeys.bind ((obeys_reconcileInterrupted run hg).mono fun g₁ r hr => ?_)
  cases r with
  | error x => exact hr
  | ok working => exact Obeys.ite (fun _ => obeys_executeClaimed working hr) fun _ => hr

theorem obeys_processRun (run : MediaAnalysisRun) (hg : g.Worker) :
    Obeys (analysisSystem lower).toProtocol (fun g' _ => g'.Worker)
      (processRun lower run maxAttempts) g := by
  refine obeys_quiet_bind (e := .activeRunIds run.id) rfl (fun (active : Bool) => ?_)
    fun _ _ _ _ => hg
  refine Obeys.ite (fun _ => hg) fun _ => ?_
  refine Obeys.ite (fun _ => hg) fun _ => ?_
  refine obeys_quiet_bind (e := .stopping) rfl (fun (stop : Bool) => ?_) fun _ _ _ _ => hg
  refine Obeys.ite (fun _ => hg) fun _ => ?_
  refine Obeys.rescue (Obeys.bind ((obeys_execute run hg).mono fun g₁ r hr => ?_))
  cases r with
  | ok a => exact hr
  | error x => exact hr

theorem obeys_drainBatch (found : List MediaAnalysisRun) (d : DrainState) (hg : g.Worker) :
    Obeys (analysisSystem lower).toProtocol (fun g' _ => g'.Worker)
      (drainBatch lower maxAttempts found d) g := by
  induction found generalizing d g with
  | nil => exact hg
  | cons run rest ih =>
    refine obeys_quiet_bind (e := .stopping) rfl (fun (stop : Bool) => ?_) fun _ _ _ _ => hg
    refine Obeys.ite (fun _ => hg) fun _ => Obeys.ite (fun _ => ih _ hg) fun _ => ?_
    refine Obeys.bind ((obeys_processRun run hg).mono fun g₁ r hr => ?_)
    cases r with
    | error x => exact hr
    | ok outcome =>
      cases outcome with
      | shutdown => exact hr
      | retry => exact ih _ hr
      | progress => exact ih _ hr
      | stale => exact ih _ hr

theorem obeys_discover (batchSize : Nat) (cursor : Option (Nat × MediaAnalysisRunId))
    (hg : g.Worker) : Obeys (analysisSystem lower).toProtocol (fun g' _ => g'.Worker)
      (discover batchSize cursor) g := by
  have hactor : ∀ suggestion, Actor.coordinator = .importer suggestion ↔
      g.importing = some suggestion := hg.actor (by simp)
  refine Obeys.rescue (Obeys.bind (obeys_runs ⟨hactor, trivial⟩ fun s r t _ => ?_))
  cases r with
  | ok a => exact hg
  | error x => cases x <;> exact hg

theorem obeys_drainOnce (batchSize fuel : Nat) (d : DrainState) (hg : g.Worker) :
    Obeys (analysisSystem lower).toProtocol (fun g' _ => g'.Worker)
      (drainOnce lower maxAttempts batchSize fuel d) g := by
  induction fuel generalizing d g with
  | zero => exact hg
  | succ fuel ih =>
    refine obeys_quiet_bind (e := .stopping) rfl (fun (stop : Bool) => ?_) fun _ _ _ _ => hg
    refine Obeys.ite (fun _ => hg) fun _ => ?_
    refine Obeys.bind ((obeys_discover batchSize d.cursor hg).mono fun g₁ r hr => ?_)
    cases r with
    | error x => exact hr
    | ok found =>
      cases found with
      | none => exact hr
      | some found =>
        cases found with
        | nil => exact hr
        | cons run rest =>
          refine Obeys.bind ((obeys_drainBatch (run :: rest) d hr).mono fun g₂ r' hr' => ?_)
          cases r' with
          | error x => exact hr'
          | ok next =>
            cases next with
            | none => exact hr'
            | some d' => exact ih d' hr'

theorem obeys_notifyCataloged (target : CatalogedAnalysisTarget) (definition : String)
    (hg : g.Worker) : Obeys (analysisSystem lower).toProtocol (fun g' _ => g'.Worker)
      (notifyCataloged target definition) g := by
  refine obeys_quiet_bind (e := .stopping) rfl (fun (stop : Bool) => ?_) fun _ _ _ _ => hg
  refine Obeys.ite (fun _ => hg) fun _ => ?_
  refine obeys_quiet_bind (e := .enabled) rfl (fun (on : Bool) => ?_) fun _ _ _ _ => hg
  refine Obeys.ite (fun _ => hg) fun _ => Obeys.rescue ?_
  refine obeys_quiet_bind (e := .enabled) rfl (fun (on : Bool) => ?_) fun _ _ _ hx => by cases hx
  refine Obeys.ite (fun _ => hg) fun _ => obeys_orLifecycleError ?_
  refine obeys_quiet_bind (e := .nowMs) rfl (fun now => ?_) fun _ _ _ hx => by cases hx
  refine Obeys.bind ((obeys_createPending target definition now hg).mono fun g₁ r hr => ?_)
  cases r with
  | ok a => exact hr
  | error x =>
    intro y
    cases y <;> exact hr

end Execution

/-- Every call obeys, and ends with nothing left unfinished. -/
theorem analysis_obedient (lower : String → String) :
    Obedient (analysisSystem lower) fun g _ => g.unfinished = none := by
  have hworker : ({} : Memory).Worker := ⟨rfl, rfl⟩
  -- a call's result is thrown away
  have hforget : ∀ {α : Type} {p : AnalysisProgram α} {g : Memory},
      Obeys (analysisSystem lower).toProtocol (fun g' _ => g'.unfinished = none) p g →
      Obeys (analysisSystem lower).toProtocol (fun g' _ => g'.unfinished = none)
        (p >>= fun _ => pure ()) g := by
    intro α p g hp
    refine Obeys.bind (hp.mono fun g' r hr => ?_)
    cases r with
    | ok a => exact hr
    | error x => exact hr
  intro c
  cases c with
  | notifyCataloged target definition =>
    exact hforget ((obeys_notifyCataloged target definition hworker).mono fun _ _ h => h.2)
  | requestManual target definition =>
    refine hforget (obeys_quiet_bind (e := .stopping) rfl (fun (stop : Bool) => ?_)
      fun _ _ _ _ => rfl)
    refine Obeys.ite (fun _ => rfl) fun _ => ?_
    refine (obeys_requestManual .requester target definition (hworker.actor (by simp)) rfl).mono
      fun g' r hr => ?_
    obtain rfl | ⟨run, -, -, -, hi, -⟩ := hr
    · rfl
    · cases hi
  | importPreview maxAttempts definition mediaId locationId suggestion =>
    exact hforget (obeys_persistImportedPreview maxAttempts definition mediaId locationId suggestion
      rfl rfl rfl)
  | drain maxAttempts batchSize fuel =>
    exact hforget ((obeys_drainOnce batchSize fuel {} hworker).mono fun _ _ h => h.2)

end FrameNest.Analysis
