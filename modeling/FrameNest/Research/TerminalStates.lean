import FrameNest.Research.Runs

/-! Terminal states and record bindings against callers that act on a row they read
earlier. -/
namespace FrameNest.Research
open Concurrent Sample

/-- Once terminal always in that state, once bound always bound. -/
structure ResearchRequestRow.Settles (row row' : ResearchRequestRow) : Prop where
  terminal : row.terminal = true → row'.state = row.state
  bound : row.recordId ≠ none → row'.recordId ≠ none

def ResearchState.Settles (s s' : ResearchState) (op : String) : Prop :=
  ∀ row, s.request? op = some row → ∃ row', s'.request? op = some row' ∧ row.Settles row'

def ResearchRuntime.TerminalAbsorbs (rt : ResearchRuntime)
    (permits : Memory → Env → Effect → ResearchState → Prop) (mayCrash : Bool) : Prop :=
  ∀ w w' op, Reachable (rt.system permits mayCrash) .empty w →
    Relation.ReflTransGen (Step (rt.system permits mayCrash)) w w' → w.state.Settles w'.state op

/-- What a caller may do to a terminal row: a submission or a poll repeats the SAVED
of its completion, everyone else starts from a row in that very state. -/
def Memory.mayRewrite (g : Memory) (basis stored : ResearchRequestRow) : Prop :=
  match g.call with
  | .submitPending | .pollOnce => g.completed.isSome = true ∧ stored.state = .saved
  | _ => basis.state = stored.state

instance (g : Memory) (basis stored : ResearchRequestRow) : Decidable (g.mayRewrite basis stored) := by
  delta Memory.mayRewrite
  generalize g.call = c
  apply @Call.casesOn _ c <;> intros <;> infer_instance

/-- No caller saves over a terminal state or a record binding that its own row lacks. -/
def respectsTerminal (g : Memory) (_ : Env) (e : Effect) (s : ResearchState) : Prop :=
  match e with
  | .save row => ∀ basis, g.seen row.operationId = some basis →
    ∀ stored, s.request? row.operationId = some stored →
      (stored.terminal = true → g.mayRewrite basis stored) ∧
        (stored.recordId.isSome = true → basis.recordId.isSome = true)
  | _ => True

instance (g : Memory) (env : Env) (e : Effect) (s : ResearchState) :
    Decidable (respectsTerminal g env e s) := by
  delta respectsTerminal
  apply @Effect.casesOn _ e
  case save =>
    intro row
    exact decidable_of_iff (∀ basis ∈ g.seen row.operationId,
      ∀ stored ∈ s.request? row.operationId, (stored.terminal = true → g.mayRewrite basis stored) ∧
        (stored.recordId.isSome = true → basis.recordId.isSome = true)) Iff.rfl
  all_goals
    intros
    infer_instance

/-- A permitted save of a terminal row keeps its state. -/
theorem saveAllowed_rewrite {rt : ResearchRuntime} {g : Memory}
    {basis row stored : ResearchRequestRow} (h : rt.SaveAllowed g basis row)
    (ht : stored.terminal = true) (hr : g.mayRewrite basis stored) : row.state = stored.state := by
  -- a caller still at work has completed nothing, so it may rewrite nothing
  have hworks : ¬ g.worksOn basis := by
    intro hw
    have hcompl := hw.2.1
    obtain hc | hc := worksOn_call hw <;> simp [Memory.mayRewrite, hc, hcompl] at hr
  cases h with
  | running handle nowMs hw hs => exact absurd hw hworks
  | touched nowMs hw hs => exact absurd hw hworks
  | validating handle answer nowMs hw hs hc he => exact absurd hw hworks
  | finished state code accounting nowMs hterm hc =>
    have hcall := hc.2
    cases hg : g.call with
    | submitPending =>
      simp only [hg, Memory.mayRewrite] at hcall hr
      obtain hw | ⟨c, -, -, hsaved⟩ := hcall
      · exact absurd hw.1 hworks
      · exact hsaved.trans hr.2.symm
    | pollOnce =>
      simp only [hg, Memory.mayRewrite] at hcall hr
      obtain hw | ⟨c, -, -, hsaved⟩ := hcall
      · exact absurd hw.1 hworks
      · exact hsaved.trans hr.2.symm
    | recover =>
      simp only [hg, Memory.mayRewrite] at hcall hr
      have hsub : stored.state = .submitting := hr.symm.trans hcall.2.1
      simp [ResearchRequestRow.terminal, hsub, isTerminalLifecycle] at ht
    | cancel operationId =>
      simp only [hg, Memory.mayRewrite] at hcall hr
      have hopen : basis.terminal = true := (ResearchRequestRow.terminal_congr hr).trans ht
      rw [hcall.2.2.1] at hopen
      cases hopen
    | _ => simp [hg] at hcall
  | cancelMarked nowMs ho hg hopen hc =>
    simp only [Memory.mayRewrite, hg] at hr
    have hterm : basis.terminal = true := (ResearchRequestRow.terminal_congr hr).trans ht
    rw [hopen] at hterm
    cases hterm
  | confirmed confirmedAtMs updatedAtMs hg ho hs hc =>
    simp only [Memory.mayRewrite, hg] at hr
    exact hr
  | cleaned cleanup nowMs hg hterm =>
    obtain ⟨limit, hg⟩ := hg
    simp only [Memory.mayRewrite, hg] at hr
    exact hr

/-- One permitted effect settles every stored request. -/
theorem settles_step {rt : ResearchRuntime} {g : Memory} {env : Env} {e : Effect}
    {s : ResearchState} (hm : rt.may g e) (hp : respectsTerminal g env e s) (op : String) :
    s.Settles (rt.exec env e s).2 op := by
  intro stored hst
  obtain h | ⟨row, rfl, rfl, h⟩ | ⟨nowMs, -, hadm, h⟩ | ⟨c, recordId, nowMs, -, -, -, h⟩ :=
    answered_request (exec_answered rt env e s) hst
  · exact ⟨stored, h, fun _ => rfl, id⟩
  · obtain ⟨basis, hseen, hsave⟩ := hm
    obtain ⟨hterminal, hbound⟩ := hp basis hseen stored hst
    have hstate : stored.terminal = true → row.state = stored.state := fun ht =>
      saveAllowed_rewrite hsave ht (hterminal ht)
    have hrecord : stored.recordId ≠ none → row.recordId ≠ none := by
      intro hb
      rw [(saveAllowed_facts hsave).recordId]
      exact Option.isSome_iff_ne_none.mp (hbound (Option.isSome_iff_ne_none.mpr hb))
    exact ⟨stored.overwrite row, h, hstate, hrecord⟩
  · refine ⟨stored.claimed nowMs, h, fun ht => ?_, id⟩
    simp [ResearchRequestRow.terminal, hadm, isTerminalLifecycle] at ht
  · exact ⟨stored.bound recordId nowMs, h, fun _ => rfl, fun _ => Option.some_ne_none recordId⟩

theorem ResearchState.Settles.trans {s s' s'' : ResearchState} {op : String}
    (h : s.Settles s' op) (h' : s'.Settles s'' op) : s.Settles s'' op := by
  intro row hrow
  obtain ⟨row', hrow', hs⟩ := h row hrow
  obtain ⟨row'', hrow'', hs'⟩ := h' row' hrow'
  refine ⟨row'', hrow'', fun ht => ?_, fun hb => hs'.bound (hs.bound hb)⟩
  have hstate : row'.state = row.state := hs.terminal ht
  exact (hs'.terminal ((ResearchRequestRow.terminal_congr hstate).trans ht)).trans hstate

/-- While every save respects the terminal rows and bindings it meets, terminal states
absorb and no record binding is lost. -/
theorem terminal_states_absorb (rt : ResearchRuntime) (mayCrash : Bool) :
    rt.TerminalAbsorbs respectsTerminal mayCrash := by
  intro w w' op hreach hsteps
  have hinterference := system_interference rt respectsTerminal mayCrash
  have hobedient := system_obedient rt respectsTerminal mayCrash
  have hw := hreach.sound hinterference hobedient consistent_empty
  exact hw.stable (J := fun s => w.state.Settles s op) hinterference hobedient
    (fun g i e s _ _ hm hp hj => hj.trans (settles_step hm hp op)) hsteps
    fun row hrow => ⟨row, hrow, fun _ => rfl, id⟩

/- A cancellation that the provider confirms, then the clean-up of its response. -/
def cancelledRequest : Script :=
  admission ++ submission ++ .start (.cancel "op-1") ::
    calls 3 10 { env with observation := cancelled }

theorem cancelled_request_settles :
    (runtime.after cancelledRequest).state.terminalRequest "op-1" = true ∧
      (runtime.after cancelledRequest).state.Settles (runtime.after
        (cancelledRequest ++ .start (.releaseRemotePending 10) :: calls 4 4 env)).state "op-1" :=
  ⟨by decide +kernel, terminal_states_absorb runtime true _ _ "op-1"
    (runtime.after_permitted (by decide +kernel)) (runtime.append_permitted (by decide +kernel))⟩

/- The poll has asked the provider about the running request when `cancel` ends it; the
   provider then answers that the request is still running. -/
def cancelledMidPoll : Script :=
  admission ++ submission ++ .start .pollOnce :: calls 3 3 env ++ .start (.cancel "op-1") ::
    calls 4 9 { env with observation := cancelled }

theorem terminal_state_lost_to_poll : ¬ runtime.TerminalAbsorbs always true := by
  intro h
  have hbefore : ((runtime.after cancelledMidPoll).state.request? "op-1").map (·.state) =
      some .cancelled := by decide +kernel
  have hafter : ((runtime.after (cancelledMidPoll ++ calls 3 2 env)).state.request? "op-1").map
      (·.state) = some .running := by decide +kernel
  obtain ⟨row, hrow, hstate⟩ := Option.map_eq_some_iff.mp hbefore
  obtain ⟨row', hrow', hsettles⟩ := h _ _ "op-1" (runtime.after_reachable cancelledMidPoll)
    (runtime.after_append cancelledMidPoll (calls 3 2 env)) row hrow
  have hkept := hsettles.terminal (by simp [ResearchRequestRow.terminal, hstate, isTerminalLifecycle])
  rw [hrow', Option.map_some, hkept, hstate] at hafter
  cases hafter

end FrameNest.Research

/-! A committed cancellation and the callers that may have read the row before it. -/
namespace FrameNest.Research
open Concurrent Sample

/-- The request carries a cancellation mark that no completion came before. -/
def ResearchState.cancelCommitted (s : ResearchState) (op : String) : Prop :=
  (∃ row, s.request? op = some row ∧ row.cancelRequestedAtMs ≠ none) ∧ ¬ s.hasDocument op

instance (s : ResearchState) (op : String) : Decidable (s.cancelCommitted op) :=
  decidable_of_iff ((s.request? op).any (·.cancelRequestedAtMs.isSome) = true ∧ ¬ s.hasDocument op)
    (by simp [ResearchState.cancelCommitted, Option.any_eq_true, Option.isSome_iff_ne_none])

/-- Still marked and not SAVED, with neither a document nor a record. -/
structure Unfinalized (s : ResearchState) (op : String) : Prop where
  request : ∃ row, s.request? op = some row ∧ row.cancelRequestedAtMs ≠ none ∧
    row.state ≠ .saved ∧ row.recordId = none
  document : ¬ s.hasDocument op
  record : ∀ record ∈ s.records.rows, record.finalOperationId ≠ op

/-- A mark that commits before the completion prevents finalization for good. -/
def ResearchRuntime.CancellationPrevents (rt : ResearchRuntime)
    (permits : Memory → Env → Effect → ResearchState → Prop) (mayCrash : Bool) : Prop :=
  ∀ w w' op, Reachable (rt.system permits mayCrash) .empty w → w.state.cancelCommitted op →
    Relation.ReflTransGen (Step (rt.system permits mayCrash)) w w' → Unfinalized w'.state op

def Memory.knowsMark (g : Memory) (op : String) : Prop :=
  ∀ basis, g.seen op = some basis → basis.cancelRequestedAtMs ≠ none

/-- Over a committed cancellation, only a caller that read the mark saves or completes; `cancel`
writes a mark of its own. -/
def respectsMarks (g : Memory) (_ : Env) (e : Effect) (s : ResearchState) : Prop :=
  match e with
  | .save row => s.cancelCommitted row.operationId →
    g.call = .cancel row.operationId ∨ g.knowsMark row.operationId
  | .complete c => s.cancelCommitted c.operationId → g.knowsMark c.operationId
  | _ => True

instance (g : Memory) (op : String) : Decidable (g.knowsMark op) :=
  decidable_of_iff ((g.seen op).all (·.cancelRequestedAtMs.isSome) = true)
    (by simp [Memory.knowsMark, Option.all_eq_true, Option.isSome_iff_ne_none])

instance (g : Memory) (env : Env) (e : Effect) (s : ResearchState) :
    Decidable (respectsMarks g env e s) := by
  delta respectsMarks
  apply @Effect.casesOn _ e <;> intros <;> infer_instance

theorem saveAllowed_marks {rt : ResearchRuntime} {g : Memory} {basis row : ResearchRequestRow}
    (h : rt.SaveAllowed g basis row)
    (hb : g.call = .cancel basis.operationId ∨ basis.cancelRequestedAtMs ≠ none) :
    row.cancelRequestedAtMs ≠ none := by
  -- a caller that submits or polls is no `cancel`, so its basis carries the mark
  have hworks : g.worksOn basis → basis.cancelRequestedAtMs ≠ none := by
    intro hw
    obtain hc | hc := worksOn_call hw
    · simpa [hc] using hb
    · simpa [hc] using hb
  cases h with
  | running handle nowMs hw hs => exact hworks hw
  | touched nowMs hw hs => exact hworks hw
  | validating handle answer nowMs hw hs hc he => exact absurd hc (hworks hw)
  | finished state code accounting nowMs ht hc =>
    obtain hcall | hmark := hb
    · have hcancel := hc.2
      simp only [hcall] at hcancel
      exact Option.isSome_iff_ne_none.mp hcancel.2.2.2.1
    · exact hmark
  | cancelMarked nowMs ho hg ht hc => exact Option.some_ne_none nowMs
  | confirmed confirmedAtMs updatedAtMs hg ho hs hc => exact Option.isSome_iff_ne_none.mp hc
  | cleaned cleanup nowMs hg ht =>
    obtain ⟨limit, hg⟩ := hg
    exact hb.resolve_left (by simp [hg])

/-- One permitted effect leaves a committed cancellation as it is. -/
theorem cancelCommitted_step {rt : ResearchRuntime} {g : Memory} {env : Env} {e : Effect}
    {s : ResearchState} {op : String} (hg : Coherent g s) (hm : rt.may g e)
    (hp : respectsMarks g env e s) (hc : s.cancelCommitted op) :
    (rt.exec env e s).2.cancelCommitted op := by
  have hans := exec_answered rt env e s
  have hcomplete : ∀ c, e = .complete c → c.operationId ≠ op := by
    rintro c rfl rfl
    obtain ⟨basis, hseen, hval, -, -⟩ := hm
    obtain hst | ht := (hg.seen _ basis hseen).wellFormed.marked (hp hc basis hseen)
    · simp [hval] at hst
    · simp [ResearchRequestRow.terminal, hval, isTerminalLifecycle] at ht
  have hdocument : ¬ (rt.exec env e s).2.hasDocument op := by
    intro hd
    obtain hold | ⟨c, he, hop⟩ := answered_document hans hd
    · exact hc.2 hold
    · exact hcomplete c he hop
  obtain ⟨stored, hst, hmarked⟩ := hc.1
  obtain h | ⟨row, rfl, rfl, h⟩ | ⟨nowMs, -, -, h⟩ | ⟨c, recordId, nowMs, he, hop, -, -⟩ :=
    answered_request hans hst
  · exact ⟨⟨stored, h, hmarked⟩, hdocument⟩
  · obtain ⟨basis, hseen, hsave⟩ := hm
    have hop := (saveAllowed_facts hsave).operationId
    have hbasis : g.call = .cancel basis.operationId ∨ basis.cancelRequestedAtMs ≠ none := by
      rw [← hop]
      exact (hp hc).imp_right fun hknows => hknows basis hseen
    have hkeeps : row.cancelRequestedAtMs ≠ none := saveAllowed_marks hsave hbasis
    exact ⟨⟨stored.overwrite row, h, hkeeps⟩, hdocument⟩
  · exact ⟨⟨stored.claimed nowMs, h, hmarked⟩, hdocument⟩
  · exact absurd hop (hcomplete c he)

/-- While no caller writes over a mark it has not read, a committed cancellation
prevents finalization. -/
theorem cancellation_prevents_finalization (rt : ResearchRuntime) (mayCrash : Bool) :
    rt.CancellationPrevents respectsMarks mayCrash := by
  intro w w' op hreach hc hsteps
  have hinterference := system_interference rt respectsMarks mayCrash
  have hobedient := system_obedient rt respectsMarks mayCrash
  have hw := hreach.sound hinterference hobedient consistent_empty
  have hs := (hw.steps hinterference hobedient hsteps).state
  have hkept : w'.state.cancelCommitted op :=
    hw.stable (J := fun s => s.cancelCommitted op) hinterference hobedient
      (fun g i e s _ hg hm hp hj => cancelCommitted_step hg hm hp hj) hsteps hc
  obtain ⟨⟨row, hrow, hmarked⟩, hnone⟩ := hkept
  refine ⟨⟨row, hrow, hmarked, ?_, ?_⟩, hnone, ?_⟩
  · exact fun hsaved => hnone (hs.saved op row hrow hsaved)
  · exact Classical.not_not.mp fun hbound => hnone (hs.bound op row hrow hbound)
  · rintro record hmem rfl
    exact hnone (hs.recorded record hmem)

/- A cancellation that the provider only acknowledges, then a poll that meets the
   finished answer. -/
def markedThenPolled : Script × Script :=
  (admission ++ submission ++ .start (.cancel "op-1") :: calls 3 3 env,
    calls 3 1 env ++ .start .pollOnce :: calls 4 9 completed)

theorem cancellation_kept :
    Unfinalized (runtime.after (markedThenPolled.1 ++ markedThenPolled.2)).state "op-1" :=
  cancellation_prevents_finalization runtime true _ _ "op-1"
    (runtime.after_permitted (by decide +kernel)) (by decide +kernel)
    (runtime.append_permitted (by decide +kernel))

/- The poll has loaded the running request and asked the provider when `cancel` marks
   the row; then the provider's answer arrives. -/
def markedMidPoll : Script :=
  admission ++ submission ++ .start .pollOnce :: calls 3 4 completed ++
    .start (.cancel "op-1") :: calls 4 3 env

theorem cancellation_lost_to_poll : ¬ runtime.CancellationPrevents always true := by
  intro h
  have hc : (runtime.after markedMidPoll).state.cancelCommitted "op-1" := by decide +kernel
  have hlost : (runtime.after (markedMidPoll ++ calls 3 7 completed)).state.hasDocument "op-1" := by
    decide +kernel
  have hkept := h _ _ "op-1" (runtime.after_reachable markedMidPoll) hc
    (runtime.after_append markedMidPoll (calls 3 7 completed))
  exact hkept.document hlost

end FrameNest.Research
