import FrameNest.Research.OpenAIResponses
import FrameNest.Research.SingleSubmission

/-! What the coordinator's methods save over the adapter's answers: the handle they read,
or the one their own submission was answered with. -/
namespace FrameNest.Research
open Concurrent ResearchRuntime OpenAIResponsesAdapter

namespace Memory

/- The handle that the caller's own submission was answered with. -/
def answeredHandle (g : Memory) : Option ProviderHandle := g.observed.bind (·.remoteHandle)

/- A row the caller may save as far as its handle goes. -/
def holds (g : Memory) (row : ResearchRequestRow) : Prop :=
  (g.observed ≠ none → g.claimed = some row.operationId) ∧
    ∃ basis, g.seen row.operationId = some basis ∧ row.handle = g.answeredHandle.or basis.handle

/- Once the method has returned, the row it last saw carries its submission's handle. -/
def delivered (g : Memory) : Prop :=
  ∀ op handle, g.claimed = some op → g.answeredHandle = some handle →
    (g.seen op).bind (·.handle) = some handle

theorem holds.congr {g : Memory} {row row' : ResearchRequestRow} (h : g.holds row)
    (hop : row'.operationId = row.operationId) (hh : row'.handle = row.handle) : g.holds row' := by
  unfold holds at h ⊢
  rw [hop, hh]
  exact h

/- What was saved is held. -/
theorem holds.learn {g : Memory} {row : ResearchRequestRow} (h : g.holds row) :
    (g.learn row).holds row := by
  refine ⟨h.1, row, learn_seen g row, ?_⟩
  obtain ⟨-, basis, -, hh⟩ := h
  show row.handle = g.answeredHandle.or row.handle
  cases ha : g.answeredHandle with
  | none => rfl
  | some handle =>
    rw [ha] at hh
    rw [hh]
    rfl

theorem holds_of_seen {g : Memory} {row : ResearchRequestRow} (hseen : g.seen row.operationId = some row)
    (ho : g.observed = none) : g.holds row := by
  refine ⟨fun h => absurd ho h, row, hseen, ?_⟩
  simp [answeredHandle, ho]

theorem delivered_of_unobserved {g : Memory} (ho : g.observed = none) : g.delivered := by
  intro op handle hc ha
  simp [answeredHandle, ho] at ha

end Memory

/- A save keeps the handle; every other effect is free. -/
def Effect.keeps (g : Memory) : Effect → Prop
  | .save row => g.holds row
  | _ => True

def ResearchRuntime.mayOver (rt : ResearchRuntime) (g : Memory) (e : Effect) : Prop :=
  rt.may g e ∧ e.keeps g

/- What the adapter's answers have in common, where the save that follows a handle commits. -/
def overAdapter (g : Memory) (env : Env) (e : Effect) (s : ResearchState) : Prop :=
  match e with
  | .submit _ => env.fault = false → env.observation.kind ≠ .complete ∧
    (env.observation.remoteHandle ≠ none → env.observation.kind = .running)
  | .poll handle => env.fault = false → env.observation.kind = .complete →
    env.observation.remoteHandle = some handle
  | .save row => g.answeredHandle ≠ none → env.fault = false ∧
    (s.request? row.operationId).any (fun stored => (stored.overwrite row).updateAccepted) = true
  | _ => True

theorem Env.answer_spec {env : Env} {value a : α} {s : ResearchState}
    (h : (env.answer value s).1 = .ok a) : env.fault = false ∧ a = value := by
  unfold Env.answer at h
  split at h
  · cases h
  · rename_i hf
    cases h
    exact ⟨by simpa using hf, rfl⟩

section Walk
variable {rt : ResearchRuntime} {g : Memory} {row : ResearchRequestRow}

/- Up to here the caller's submission, if it made one, was answered with no handle. -/
abbrev Keeps (rt : ResearchRuntime) (p : Coordinator α) (g : Memory) : Prop :=
  Obeys ((rt.protocol overAdapter).withMay fun g e => e.keeps g) (fun g _ => g.delivered) p g

theorem delivered_of_none (ha : g.answeredHandle = none) : g.delivered := by
  intro op handle _ hsome
  rw [ha] at hsome
  cases hsome

theorem keeps_call {e : Effect} {f : e.Result → Coordinator α} (hm : e.keeps g)
    (herr : ∀ env s x, overAdapter g env e s → (rt.exec env e s).1 = .error x →
      (g.note s e (.error x)).delivered)
    (h : ∀ env s a, (rt.exec env e s).1 = .ok a → Keeps rt (f a) (g.note s e (.ok a))) :
    Keeps rt (call e >>= f) g := by
  refine Obeys.perform_bind hm fun env s hp => ?_
  cases hr : (rt.exec env e s).1 with
  | ok a =>
    simp only [protocol, Protocol.withMay, hr]
    exact h env s a hr
  | error x =>
    simp only [protocol, Protocol.withMay, hr]
    exact herr env s x hp hr

theorem keeps_clock {f : Int → Coordinator α} (h : ∀ nowMs, Keeps rt (f nowMs) g) :
    Keeps rt (call .clockMs >>= f) g :=
  keeps_call trivial (fun _ _ _ _ hr => nomatch hr) fun _ _ nowMs _ => h nowMs

theorem keeps_try {e : Effect} {f : Except Failure e.Result → Coordinator α} (hm : e.keeps g)
    (h : ∀ env s r, overAdapter g env e s → (rt.exec env e s).1 = r →
      Keeps rt (f r) (g.note s e r)) : Keeps rt (tryCall e >>= f) g :=
  ⟨hm, fun env s hp => h env s _ hp rfl⟩

/- A save of a row that its caller holds leaves it holding that row. -/
theorem keeps_save (hh : g.holds row) (ha : g.answeredHandle = none)
    {f : ResearchRequestRow → Coordinator α}
    (h : ∀ g' : Memory, g'.holds row → g'.answeredHandle = none → Keeps rt (f row) g') :
    Keeps rt (call (.save row) >>= f) g := by
  refine keeps_call hh (fun _ _ _ _ _ => delivered_of_none ha) fun env s saved hr => ?_
  rw [(saveRequest_ok (Env.transact_ok hr)).1]
  exact h _ hh.learn ha

theorem keeps_done (ha : g.answeredHandle = none) (a : α) : Keeps rt (.done a) g :=
  delivered_of_none ha

theorem keeps_last_save (hh : g.holds row) (ha : g.answeredHandle = none) :
    Keeps rt (call (.save row)) g := by
  refine ⟨hh, fun env s _ => ?_⟩
  have hnone : ∀ r, (g.note s (.save row) r).answeredHandle = none := by
    intro r
    cases r with
    | ok saved => exact ha
    | error x => exact ha
  cases hr : (rt.exec env (.save row) s).1 with
  | ok saved =>
    simp only [protocol, Protocol.withMay, hr]
    exact delivered_of_none (hnone _)
  | error x =>
    simp only [protocol, Protocol.withMay, hr]
    exact delivered_of_none (hnone _)

theorem keeps_finish (hh : g.holds row) (ha : g.answeredHandle = none)
    (state : ResearchLifecycleState) (code : Option ResearchErrorCode)
    (accounting : ResearchAccountingState) (usage : Option ResearchUsage) (cost : Option Nat) :
    Keeps rt (finish row state code accounting usage cost) g := by
  refine keeps_clock fun nowMs => ?_
  have hfinished : g.holds (row.finished state code accounting nowMs) := hh.congr rfl rfl
  refine keeps_save hfinished ha fun g' hh' ha' => ?_
  refine keeps_call (e := .reconcile _) trivial (fun _ _ _ _ _ => delivered_of_none ha')
    fun _ _ _ _ => ?_
  exact keeps_done ha' _

theorem keeps_completionRetry (hh : g.holds row) (ha : g.answeredHandle = none) :
    Keeps rt (completionRetry row) g :=
  keeps_clock fun _ => keeps_last_save (hh.congr rfl rfl) ha

theorem keeps_finishSaved (hh : g.holds row) (ha : g.answeredHandle = none)
    (answer : ResearchAnswer) : Keeps rt (rt.finishSaved row answer) g := by
  unfold finishSaved
  cases usageCostMicroUsdOrNone answer.usage (rt.scheduleFor row) with
  | none => exact keeps_finish hh ha _ _ _ _ _
  | some cost => exact keeps_finish hh ha _ _ _ _ _

theorem keeps_completeFromCheckpoint (hh : g.holds row) (ho : g.observed = none)
    (answer : ResearchAnswer) : Keeps rt (rt.completeFromCheckpoint row answer) g := by
  have ha : g.answeredHandle = none := by simp [Memory.answeredHandle, ho]
  unfold completeFromCheckpoint
  cases row.handle with
  | none => exact keeps_done ha _
  | some handle =>
    simp only
    split
    · refine keeps_try (e := .complete _) trivial fun env s r _ _ => ?_
      cases r with
      | error x => exact keeps_completionRetry hh ha
      | ok receipt =>
        refine keeps_call (e := .getRequest _) trivial (fun _ _ _ _ _ => delivered_of_none ha)
          fun env s current hr => ?_
        cases current with
        | none =>
          refine keeps_finishSaved ?_ ?_ answer
          · exact hh
          · exact ha
        | some current =>
          refine keeps_finishSaved ?_ ?_ answer
          · exact Memory.holds_of_seen (Memory.learn_seen g current) ho
          · exact ha
    · exact keeps_completionRetry hh ha

theorem keeps_acceptCompletion (hh : g.holds row) (ho : g.observed = none)
    {observation : ProviderObservation} (hsame : observation.remoteHandle = row.handle) :
    Keeps rt (rt.acceptCompletion row observation) g := by
  have ha : g.answeredHandle = none := by simp [Memory.answeredHandle, ho]
  refine keeps_clock fun nowMs => ?_
  split
  · exact keeps_finish hh ha _ _ _ _ _
  split
  · rename_i answer handle hanswer hhandle
    split
    · exact keeps_finish hh ha _ _ _ _ _
    · have hvalidating : g.holds (row.validating handle (answerCheckpoint answer)
          (rt.sha256 (answerCheckpoint answer).dumps) nowMs) :=
        hh.congr rfl (by rw [← hsame, hhandle]; rfl)
      refine keeps_call (e := .save _) hvalidating (fun _ _ _ _ _ => delivered_of_none ha)
        fun env s saved hr => ?_
      rw [(saveRequest_ok (Env.transact_ok hr)).1]
      refine keeps_completeFromCheckpoint ?_ ?_ answer
      · exact hvalidating.learn
      · exact ho
  · exact delivered_of_none ha

theorem keeps_applyPollObservation (hh : g.holds row) (ho : g.observed = none)
    {observation : ProviderObservation}
    (hsame : observation.kind = .complete → observation.remoteHandle = row.handle) (nowMs : Int) :
    Keeps rt (rt.applyPollObservation row observation nowMs) g := by
  have ha : g.answeredHandle = none := by simp [Memory.answeredHandle, ho]
  unfold applyPollObservation
  cases hk : observation.kind with
  | pending => exact keeps_last_save (hh.congr rfl rfl) ha
  | running => exact keeps_last_save (hh.congr rfl rfl) ha
  | complete => exact keeps_acceptCompletion hh ho (hsame hk)
  | refused => exact keeps_finish hh ha _ _ _ _ _
  | failed => exact keeps_finish hh ha _ _ _ _ _
  | cancelled => exact keeps_finish hh ha _ _ _ _ _
  | uncertain => exact keeps_done ha _

theorem keeps_pollHandle (hh : g.holds row) (ho : g.observed = none) {handle : ProviderHandle}
    (hhandle : row.handle = some handle) : Keeps rt (rt.pollHandle row handle) g := by
  have ha : g.answeredHandle = none := by simp [Memory.answeredHandle, ho]
  refine keeps_clock fun nowMs => ?_
  split
  · exact keeps_try (e := .cancel _) trivial fun _ _ _ _ _ => keeps_finish hh ha _ _ _ _ _
  · refine keeps_try (e := .poll _) trivial fun env s r hp hr => ?_
    cases r with
    | error x => exact keeps_done ha _
    | ok observation =>
      obtain ⟨hf, rfl⟩ := Env.answer_spec hr
      exact keeps_applyPollObservation hh ho (fun hk => by rw [hp hf hk, hhandle]) nowMs

theorem keeps_activeRow {f : Option ResearchRequestRow → Coordinator α} (ho : g.observed = none)
    (hnone : ∀ g' : Memory, g'.observed = none → Keeps rt (f none) g')
    (hsome : ∀ row (g' : Memory), g'.observed = none → g'.holds row → Keeps rt (f (some row)) g') :
    Keeps rt (activeRow >>= f) g := by
  have ha : g.answeredHandle = none := by simp [Memory.answeredHandle, ho]
  unfold activeRow
  rw [Program.bind_assoc]
  refine keeps_call (e := .activeSlotOperationId) trivial (fun _ _ _ _ _ => delivered_of_none ha)
    fun env s slot _ => ?_
  cases slot with
  | none => exact hnone _ ho
  | some op =>
    refine keeps_call (e := .getRequest op) trivial (fun _ _ _ _ _ => delivered_of_none ha)
      fun env s found _ => ?_
    cases found with
    | none => exact hnone _ ho
    | some row => exact hsome row _ ho (Memory.holds_of_seen (Memory.learn_seen _ row) ho)

theorem keeps_pollOnce (ho : g.observed = none) : Keeps rt rt.pollOnce g := by
  have hend : ∀ (g' : Memory) (found : Option ResearchRequestRow), g'.observed = none →
      Keeps rt (.done found) g' := fun g' found ho' => Memory.delivered_of_unobserved ho'
  refine keeps_activeRow ho (fun g' ho' => hend g' none ho') fun row g' ho' hh => ?_
  dsimp only
  split
  · exact hend g' none ho'
  split
  · split
    · exact hend g' (some row) ho'
    · exact Obeys.bind ((keeps_completeFromCheckpoint hh ho' _).mono fun g' r h => by
        cases r <;> exact h)
  · split
    · exact hend g' none ho'
    · rename_i handle hhandle
      exact Obeys.bind ((keeps_pollHandle hh ho' hhandle).mono fun g' r h => by cases r <;> exact h)

/- The one save that adds a handle: the submission's own. -/
theorem keeps_running {o : ProviderObservation} {nowMs : Int} (ho : g.observed = some o)
    (hclaimed : g.claimed = some row.operationId) (hseen : g.seen row.operationId = some row) :
    Keeps rt (call (.save (row.running o.remoteHandle nowMs))) g := by
  have ha : g.answeredHandle = o.remoteHandle := by simp [Memory.answeredHandle, ho]
  have hh : g.holds (row.running o.remoteHandle nowMs) := by
    refine ⟨fun _ => hclaimed, row, hseen, ?_⟩
    rw [ha]
    rfl
  refine ⟨hh, fun env s hp => ?_⟩
  cases hr : (rt.exec env (.save (row.running o.remoteHandle nowMs)) s).1 with
  | ok saved =>
    simp only [protocol, Protocol.withMay, hr]
    rw [(saveRequest_ok (Env.transact_ok hr)).1]
    intro op handle hc hsome
    have hop : row.operationId = op := Option.some.inj (hclaimed.symm.trans hc)
    have hremote : o.remoteHandle = some handle := ha.symm.trans hsome
    have hlearnt : ((g.note s (.save (row.running o.remoteHandle nowMs))
        (.ok (row.running o.remoteHandle nowMs))).seen op) =
        some (row.running o.remoteHandle nowMs) := by
      rw [← hop]
      exact Memory.learn_seen g (row.running o.remoteHandle nowMs)
    rw [hlearnt]
    show o.remoteHandle.or row.record.remoteHandle = some handle
    rw [hremote]
    rfl
  | error x =>
    simp only [protocol, Protocol.withMay, hr]
    -- with a handle this save commits
    cases hremote : o.remoteHandle with
    | none => exact delivered_of_none (ha.trans hremote)
    | some handle =>
      obtain ⟨hf, hacc⟩ := hp (by rw [ha, hremote]; exact Option.some_ne_none handle)
      obtain ⟨stored, hst, hacc⟩ := (Option.any_eq_true _ _).mp hacc
      have hsave : rt.exec env (.save (row.running o.remoteHandle nowMs)) s =
          (.ok (row.running o.remoteHandle nowMs),
            savedState s (row.running o.remoteHandle nowMs)) := exec_save hf hst hacc
      rw [hsave] at hr
      cases hr

/- The adapter never answers a submission COMPLETE, and hands over no handle otherwise. -/
theorem keeps_applySubmitObservation {o : ProviderObservation} (ho : g.observed = some o)
    (hclaimed : g.claimed = some row.operationId) (hseen : g.seen row.operationId = some row)
    (hcomplete : o.kind ≠ .complete) (hrunning : o.remoteHandle ≠ none → o.kind = .running) :
    Keeps rt (rt.applySubmitObservation row o) g := by
  have hrest : o.kind ≠ .running → g.answeredHandle = none ∧ g.holds row := by
    intro hk
    have hnone : o.remoteHandle = none := by
      by_contra hsome
      exact hk (hrunning hsome)
    have ha : g.answeredHandle = none := by simp [Memory.answeredHandle, ho, hnone]
    refine ⟨ha, fun _ => hclaimed, row, hseen, ?_⟩
    rw [ha]
    rfl
  refine keeps_clock fun nowMs => ?_
  cases hk : o.kind with
  | pending => exact keeps_running ho hclaimed hseen
  | running => exact keeps_running ho hclaimed hseen
  | complete => exact absurd hk hcomplete
  | refused =>
    obtain ⟨ha, hh⟩ := hrest (by simp [hk])
    exact keeps_finish hh ha _ _ _ _ _
  | failed =>
    obtain ⟨ha, hh⟩ := hrest (by simp [hk])
    exact keeps_finish hh ha _ _ _ _ _
  | cancelled =>
    obtain ⟨ha, hh⟩ := hrest (by simp [hk])
    exact keeps_finish hh ha _ _ _ _ _
  | uncertain =>
    obtain ⟨ha, hh⟩ := hrest (by simp [hk])
    exact keeps_finish hh ha _ _ _ _ _

theorem keeps_submitClaimed (ho : g.observed = none)
    (hclaimed : g.claimed = some row.operationId) (hseen : g.seen row.operationId = some row) :
    Keeps rt (rt.submitClaimed row) g := by
  unfold submitClaimed
  split
  · exact Memory.delivered_of_unobserved ho
  · rename_i request hrequest
    refine keeps_try (e := .submit request) trivial fun env s r hp hr => ?_
    cases r with
    | error x =>
      refine keeps_finish ?_ ?_ _ _ _ _ _
      · exact Memory.holds_of_seen (g := { g with sent := true }) hseen ho
      · simp [Memory.note, Memory.answeredHandle, ho]
    | ok o =>
      obtain ⟨hf, rfl⟩ := Env.answer_spec hr
      obtain ⟨hcomplete, hrunning⟩ := hp hf
      exact keeps_applySubmitObservation rfl hclaimed hseen hcomplete hrunning

theorem keeps_submitPending (ho : g.observed = none) : Keeps rt rt.submitPending g := by
  have hend : ∀ (g' : Memory) (found : Option ResearchRequestRow), g'.observed = none →
      Keeps rt (.done found) g' := fun g' found ho' => Memory.delivered_of_unobserved ho'
  refine keeps_call (e := .submissionEnabled) trivial
    (fun _ _ _ _ _ => Memory.delivered_of_unobserved ho) fun env s enabled _ => ?_
  split
  · exact hend _ none ho
  refine keeps_activeRow ho (fun g' ho' => hend g' none ho') fun row g' ho' _ => ?_
  dsimp only
  split
  · exact hend g' none ho'
  refine keeps_call (e := .claimSubmission _) trivial
    (fun _ _ _ _ _ => Memory.delivered_of_unobserved ho') fun env s claimed _ => ?_
  cases claimed with
  | none => exact hend _ none ho'
  | some claimed =>
    have hwalk : Keeps rt (rt.submitClaimed claimed)
        { g'.learn claimed with claimed := some claimed.operationId } :=
      keeps_submitClaimed ho' rfl (Memory.learn_seen g' claimed)
    exact Obeys.bind (hwalk.mono fun g' r h => by cases r <;> exact h)

end Walk

/- A caller that neither submits nor polls rewrites no handle. -/
theorem saveAllowed_handle {rt : ResearchRuntime} {g : Memory} {basis row : ResearchRequestRow}
    (h : rt.SaveAllowed g basis row) (hs : g.call ≠ .submitPending) (hp : g.call ≠ .pollOnce) :
    row.handle = basis.handle := by
  have hidle : ¬ g.worksOn basis := by
    intro hw
    obtain hcall | hcall := worksOn_call hw
    · exact hs hcall
    · exact hp hcall
  cases h with
  | running o nowMs hw hstate ho hk => exact absurd hw hidle
  | validating handle answer nowMs hw hstate hc he => exact absurd hw hidle
  | _ => rfl

/-- Over the adapter, every method saves the handles it read and delivers the one its own
submission was answered with. -/
theorem program_obeys_over (rt : ResearchRuntime) (c : Call) :
    Obeys ((rt.protocol overAdapter).withMay rt.mayOver) (fun g _ => g.delivered) (rt.program c)
      { call := c } := by
  have hprogram := program_obeys rt overAdapter c
  by_cases hsubmit : c = .submitPending
  · subst hsubmit
    have hwalk : Keeps rt (rt.program .submitPending) { call := .submitPending } :=
      Obeys.bind ((keeps_submitPending rfl).mono fun g r h => by cases r <;> exact h)
    exact (Obeys.both hprogram hwalk).mono fun _ _ h => h.2
  by_cases hpoll : c = .pollOnce
  · subst hpoll
    have hwalk : Keeps rt (rt.program .pollOnce) { call := .pollOnce } :=
      Obeys.bind ((keeps_pollOnce rfl).mono fun g r h => by cases r <;> exact h)
    exact (Obeys.both hprogram hwalk).mono fun _ _ h => h.2
  -- the other methods send nothing, so nothing is ever answered to them
  have hstays : ∀ (g : Memory) s e r, (g.call = c ∧ g.observed = none) →
      (rt.protocol overAdapter).may g e →
      ((rt.protocol overAdapter).note g s e r).call = c ∧
        ((rt.protocol overAdapter).note g s e r).observed = none := by
    intro g s e r hg hm
    refine ⟨by simpa [protocol] using hg.1, ?_⟩
    cases e with
    | submit request => exact absurd (hg.1.symm.trans hm.1) hsubmit
    | _ =>
      show (g.note s _ r).observed = none
      rw [← hg.2]
      unfold Memory.note
      split <;> first | rfl | contradiction
  have hkeeps : ∀ (g : Memory) e, (g.call = c ∧ g.observed = none) →
      (rt.protocol overAdapter).may g e → rt.mayOver g e := by
    intro g e hg hm
    refine ⟨hm, ?_⟩
    cases e with
    | save row =>
      obtain ⟨basis, hseen, hsave⟩ := hm
      have hh := saveAllowed_handle hsave (fun h => hsubmit (hg.1.symm.trans h))
        fun h => hpoll (hg.1.symm.trans h)
      refine ⟨fun ho => absurd hg.2 ho, basis, hseen, ?_⟩
      simp [Memory.answeredHandle, hg.2, hh]
    | _ => trivial
  have hall := Obeys.keeps hstays hprogram ⟨rfl, rfl⟩
  exact (Obeys.strengthen hstays hkeeps hall ⟨rfl, rfl⟩).mono fun _ _ h =>
    Memory.delivered_of_unobserved h.2.2

end FrameNest.Research
