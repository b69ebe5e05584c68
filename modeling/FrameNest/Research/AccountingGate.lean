import FrameNest.Research.Runs

/-! The accounting gate. The blocker is read in one transaction and the hold is inserted
in a later one, so what was read has to be compared with what holds at the insertion. -/
namespace FrameNest.Research
open Relational Concurrent Sample

instance (row : BudgetHoldRow) : Decidable row.settledWithin :=
  inferInstanceAs (Decidable (_ ∧ _))

namespace ResearchState

/-- The hold of `op` is reconciled, within its reservation. -/
def settled (s : ResearchState) (op : String) : Prop :=
  ∃ hold ∈ s.holds.find? op, hold.settledWithin

instance (s : ResearchState) (op : String) : Decidable (s.settled op) := by
  unfold settled
  infer_instance

/- A hold that was not there. -/
def gainsHold (s s' : ResearchState) : Prop :=
  ∃ op, s.holds.find? op = none ∧ s'.holds.find? op ≠ none

end ResearchState

/-- No hold is inserted while the hold of a terminal request is open, unknown or over its
reservation. -/
def FailsClosed (s s' : ResearchState) : Prop :=
  s.gainsHold s' → ∀ row ∈ s.requests.rows, row.terminal = true → s.settled row.operationId

/-- The gate, over all interleavings with crashes anywhere. -/
def ResearchRuntime.GateHolds (rt : ResearchRuntime)
    (permits : Memory → Env → Effect → ResearchState → Prop) : Prop :=
  ∀ w w', Reachable (rt.system permits true) .empty w → Step (rt.system permits true) w w' →
    FailsClosed w.state w'.state

/-- A request that became terminal between the check of an admission and its transaction
is settled by then. -/
def settlesInTime (g : Memory) (_ : Env) (e : Effect) (s : ResearchState) : Prop :=
  match e with
  | .admitRow _ _ => ∀ before ∈ g.checked, ∀ row ∈ s.requests.rows, row.terminal = true →
    before.terminalRequest row.operationId = true ∨ s.settled row.operationId
  | _ => True

instance (g : Memory) (env : Env) (e : Effect) (s : ResearchState) :
    Decidable (settlesInTime g env e s) := by
  unfold settlesInTime
  split <;> infer_instance

section Gate
variable {rt : ResearchRuntime} {g : Memory} {env : Env} {e : Effect} {s s' : ResearchState}

/- What the check saw terminal stays settled while the admission goes on. -/
def Vetted (g : Memory) (s : ResearchState) : Prop :=
  ∀ before, g.checked = some before → ∀ op, before.terminalRequest op = true → s.settled op

/-- A settled hold is never written again. -/
theorem answered_settled {r : Except Failure e.Result} (h : Answered rt.casefold s e r s')
    {op : String} (hs : s.settled op) : s'.settled op := by
  obtain ⟨hold, hfound, hwithin⟩ := hs
  have hsame : s'.holds = s.holds → s'.settled op := fun heq => by
    unfold ResearchState.settled
    rw [heq]
    exact ⟨hold, hfound, hwithin⟩
  cases h with
  | failed e x s' h => exact hsame h.holds
  | plain e a s' hp h => exact hsame h.holds
  | admitted row reservation requests holds newHold hf hslot hop hres hi hu hr hh =>
    obtain ⟨dayKey, monthKey, -, -, -, -, hins⟩ := reserveHold_ok hh
    refine ⟨hold, ?_, hwithin⟩
    have hne : (reservation.row dayKey monthKey row.admittedAtMs).operationId ≠ op := by
      rintro rfl
      have hnone := (Table.insert?_some hins).1
      rw [hfound] at hnone
      cases hnone
    exact (Table.find?_insert hins op).trans ((if_neg hne).trans hfound)
  | reconciled r nowMs newHold holds h =>
    obtain ⟨found, hreserved, ⟨-, rfl⟩ | ⟨hstate, -, hst, rfl⟩⟩ := reconcileHold_ok h
    · exact ⟨hold, hfound, hwithin⟩
    · refine ⟨hold, ?_, hwithin⟩
      have hne : r.operationId ≠ op := by
        rintro rfl
        cases hreserved.symm.trans hfound
        rw [hwithin.1] at hstate
        cases hstate
      have hkept := Table.find?_update (t := s.holds) (k := r.operationId)
        (fun row => row.settle r.state hst (r.accounted row.reservedUsdMicros) nowMs)
        (fun _ => rfl) op
      exact hkept.trans ((if_neg hne).trans hfound)
  | _ => exact hsame rfl

/-- Only an admission gains a hold. -/
theorem answered_gains {r : Except Failure e.Result} (h : Answered rt.casefold s e r s')
    (hgain : s.gainsHold s') : ∃ row reservation, e = .admitRow row reservation := by
  obtain ⟨op, hnone, hsome⟩ := hgain
  cases h with
  | failed e x s' h => rw [h.holds] at hsome; exact absurd hnone hsome
  | plain e a s' hp h => rw [h.holds] at hsome; exact absurd hnone hsome
  | admitted row reservation requests holds hold hf hslot hop hres hi hu hr hh =>
    exact ⟨row, reservation, rfl⟩
  | replayed row existing reservation hf hfp => exact ⟨row, reservation, rfl⟩
  | reconciled r nowMs hold holds h =>
    obtain ⟨found, hfound, ⟨-, rfl⟩ | ⟨-, -, hst, rfl⟩⟩ := reconcileHold_ok h
    · exact absurd hnone hsome
    · have hstill := Table.find?_update (t := s.holds) (k := r.operationId)
        (fun row => row.settle r.state hst (r.accounted row.reservedUsdMicros) nowMs)
        (fun _ => rfl) op
      rw [hnone] at hstill
      exact absurd (hstill.trans (by simp)) hsome
  | _ => exact absurd hnone hsome

theorem note_checked {r : Except Failure e.Result} (h : Answered rt.casefold s e r s')
    {before : ResearchState} (hc : (g.note s e r).checked = some before) :
    g.checked = some before ∨ (before = s ∧ s.blocker = none ∧ s' = s) := by
  cases h with
  | failed e x s' h => cases e <;> exact Or.inl hc
  | plain e a s' hp h => cases e <;> first | exact Or.inl hc | cases hp
  | blocker =>
    cases hb : s.blocker with
    | none =>
      rw [hb] at hc
      cases hc
      exact Or.inr ⟨rfl, rfl, rfl⟩
    | some code =>
      rw [hb] at hc
      exact Or.inl hc
  | request op =>
    left
    cases hr : s.request? op with
    | none => rw [hr] at hc; exact hc
    | some row => rw [hr] at hc; exact hc
  | _ => exact Or.inl hc

/-- Where nothing blocks, every terminal request is settled. -/
theorem settled_of_blocker (hs : Consistent s) (hb : s.blocker = none) {op : String}
    (ht : s.terminalRequest op = true) : s.settled op := by
  obtain ⟨row, hrow, hterm⟩ := (Option.any_eq_true _ _).mp ht
  obtain ⟨hold, hfound, -⟩ := hs.held op row hrow
  have hop : row.operationId = op := ResearchState.request?_operationId hrow
  rw [hop] at hfound
  have hkey : hold.operationId = op := Table.find?_key hfound
  refine ⟨hold, hfound, ?_⟩
  exact blockingAccountingState_none hb (Table.find?_mem hfound) (hkey ▸ ht)

theorem vetted_step (hg : Vetted g s) : Vetted g (rt.exec env e s).2 := fun before hc op ht =>
  answered_settled (exec_answered rt env e s) (hg before hc op ht)

theorem vetted_own (hs : Consistent s) (hg : Vetted g s) :
    Vetted (g.note s e (rt.exec env e s).1) (rt.exec env e s).2 := by
  have hans := exec_answered rt env e s
  intro before hc op ht
  obtain hold | ⟨rfl, hb, hsame⟩ := note_checked hans hc
  · exact answered_settled hans (hg before hold op ht)
  · exact answered_settled hans (settled_of_blocker hs hb ht)

theorem gate_interference (rt : ResearchRuntime)
    (permits : Memory → Env → Effect → ResearchState → Prop) (mayCrash : Bool) :
    Interference (rt.system permits mayCrash) (fun s => Consistent s ∧ True)
      (fun g s => Coherent g s ∧ Vetted g s) fun _ _ => True :=
  (system_interference rt permits mayCrash).and (fun _ _ _ _ _ hc => nomatch hc)
    (fun _ _ _ _ _ _ _ _ _ _ => trivial)
    (fun _ _ _ _ hs _ _ hg _ _ => vetted_own hs hg)
    (fun _ _ _ _ _ _ _ _ _ _ hg' _ _ _ => vetted_step hg')

/-- At an insertion the gate holds exactly when the condition does. -/
theorem failsClosed_iff (hm : rt.may g e) (hg : Vetted g s)
    (hgain : s.gainsHold (rt.exec env e s).2) :
    FailsClosed s (rt.exec env e s).2 ↔ settlesInTime g env e s := by
  obtain ⟨row, reservation, rfl⟩ := answered_gains (exec_answered rt env e s) hgain
  refine ⟨fun h before _ found hfound hterm => Or.inr (h hgain found hfound hterm),
    fun h _ found hfound hterm => ?_⟩
  obtain ⟨hadm⟩ := hm
  obtain ⟨before, hbefore⟩ := Option.isSome_iff_exists.mp hadm.checked
  obtain hold | hnow := h before hbefore found hfound hterm
  · exact hg before hbefore _ hold
  · exact hnow

end Gate

/-- The gate fails closed in every run in which what turns terminal under an admission is
settled before it inserts its hold; and at each insertion of any run, exactly then. -/
theorem accounting_fails_closed (rt : ResearchRuntime) : rt.GateHolds settlesInTime ∧
    ∀ w, Reachable (rt.system always true) .empty w → ∀ t ∈ w.threads, ∀ env e next,
      t.program = .call e next → w.state.gainsHold (rt.exec env e w.state).2 →
      (FailsClosed w.state (rt.exec env e w.state).2 ↔ settlesInTime t.memory env e w.state) := by
  refine ⟨fun w w' hreach hstep hgain => ?_, fun w hreach t ht env e next hprogram hgain => ?_⟩
  · have hw := hreach.sound (gate_interference rt settlesInTime true)
      (system_obedient rt settlesInTime true) ⟨consistent_empty, trivial⟩
    obtain hsame | ⟨t, ht, env, e, next, hprogram, hp, hexec⟩ := hstep.cases_state
    · obtain ⟨op, hnone, hsome⟩ := hgain
      rw [hsame] at hsome
      exact absurd hnone hsome
    · obtain ⟨hT, hO⟩ := hw.threads t ht
      rw [hprogram] at hO
      have hgain' : w.state.gainsHold (rt.exec env e w.state).2 := hexec ▸ hgain
      exact (failsClosed_iff hO.1 hT.2 hgain').mpr hp hgain'
  · have hw := hreach.sound (gate_interference rt always true)
      (system_obedient rt always true) ⟨consistent_empty, trivial⟩
    obtain ⟨hT, hO⟩ := hw.threads t ht
    rw [hprogram] at hO
    exact failsClosed_iff hO.1 hT.2 hgain

/- A second client asks for the same, as `op-2`. -/
def second : Env := { env with operationId := "op-2" }

def otherClient : Call := .admitResearch "ana" "c2" .search "why" "1"

/- The first request completes while the second is under way: after 12 calls it is saved,
   after 13 its hold is settled at its cost. -/
def otherCompletes (n : Nat) : Script :=
  admission ++ .start otherClient :: calls 2 2 second ++
    .start .submitPending ::
      calls 3 n { env with observation := ⟨.complete, some handle, some measured, none, rfl⟩ } ++
    calls 2 4 second

theorem settled_before_insertion : FailsClosed (priced.after (otherCompletes 13)).state
    (priced.after (otherCompletes 13 ++ [.call 2 second])).state :=
  (accounting_fails_closed priced).1 _ _ (priced.after_permitted (by decide +kernel))
    (priced.after_call (by decide +kernel) (by decide +kernel))

theorem inserted_before_settlement : ¬ priced.GateHolds always := by
  intro h
  have hrun : ((priced.after (otherCompletes 12)).threads[2]?).any (fun t => !t.program.settled) =
        true ∧
      (priced.after (otherCompletes 12)).state.holds.find? "op-2" = none ∧
      (priced.after (otherCompletes 12 ++ [.call 2 second])).state.holds.find? "op-2" ≠ none ∧
      ¬ ∀ row ∈ (priced.after (otherCompletes 12)).state.requests.rows, row.terminal = true →
        (priced.after (otherCompletes 12)).state.settled row.operationId := by decide +kernel
  obtain ⟨hrunning, hnone, hsome, hopen⟩ := hrun
  have hstep : Step (priced.system always true) (priced.after (otherCompletes 12))
      (priced.after (otherCompletes 12 ++ [.call 2 second])) := priced.after_step hrunning
  exact hopen (h _ _ (priced.after_reachable (otherCompletes 12)) hstep ⟨"op-2", hnone, hsome⟩)

end FrameNest.Research
