import Mathlib.Data.List.Range
import Mathlib.Data.List.Nodup
import Mathlib.Data.Rat.Defs

/-! `shutdown_started_resources`: the resources a lifespan has started are shut down in reverse
order, under one deadline. -/
namespace FrameNest.Lifespan

/-- How an awaited shutdown ends. A raised exception may be a `TypeError`, another `Exception`, a
cancellation, or one that no `except Exception` catches; any of them may come after the budget. -/
inductive Outcome (ε : Type) where
  | returned
  | typeError
  | failed
  | cancelled (exc : ε)
  | exited
deriving DecidableEq

structure ShutdownDeadline where
  budgetSeconds : ℚ
  deadlineAt : ℚ
deriving DecidableEq

/-- A resource, what its shutdown can be called with, and how it ends when it is called so. -/
structure StartedResource (ε : Type) where
  name : String
  acceptsDeadline : Bool
  acceptsNothing : Bool
  onDeadline : Outcome ε
  onNothing : Outcome ε
deriving DecidableEq

/-- A shutdown that was entered: whose, with which argument, and how it ended. -/
structure Call (ε : Type) where
  position : Nat
  argument : Option ShutdownDeadline
  outcome : Outcome ε
deriving DecidableEq

structure Shutdown (ε : Type) where
  calls : List (Call ε)
  faults : List String
  cancelled : Option ε
deriving DecidableEq

variable {ε : Type}

def Outcome.isTypeError : Outcome ε → Bool
  | .typeError => true
  | _ => false

section Loop

/- `await resource.shutdown(..)`; arguments that do not fit raise `TypeError` and enter nothing. -/
def StartedResource.call (r : StartedResource ε) (position : Nat) :
    Option ShutdownDeadline → Outcome ε × List (Call ε)
  | some deadline =>
    if r.acceptsDeadline then (r.onDeadline, [⟨position, some deadline, r.onDeadline⟩])
    else (.typeError, [])
  | none =>
    if r.acceptsNothing then (r.onNothing, [⟨position, none, r.onNothing⟩]) else (.typeError, [])

/- The inner `try`: whatever raised the `TypeError`, the shutdown is called again. -/
def StartedResource.stop (r : StartedResource ε) (position : Nat) (deadline : ShutdownDeadline) :
    Outcome ε × List (Call ε) :=
  let first := r.call position (some deadline)
  if first.1.isTypeError then
    let second := r.call position none
    (second.1, first.2 ++ second.2)
  else first

/- The outer `try`; `false` when an exception leaves it. -/
def shutdownLoop (deadline : ShutdownDeadline) :
    List (StartedResource ε × Nat) → Shutdown ε → Bool × Shutdown ε
  | [], s => (true, s)
  | (r, position) :: rest, s =>
    let stopped := r.stop position deadline
    let s := { s with calls := s.calls ++ stopped.2 }
    match stopped.1 with
    | .returned => shutdownLoop deadline rest s
    | .cancelled exc => shutdownLoop deadline rest { s with cancelled := some exc }
    | .typeError | .failed => shutdownLoop deadline rest { s with faults := s.faults ++ [r.name] }
    | .exited => (false, s)

/- `shutdown_started_resources`, of resources in the order they were started in. -/
def shutdownStartedResources (resources : List (StartedResource ε)) (deadline : ShutdownDeadline) :
    Bool × Shutdown ε :=
  shutdownLoop deadline resources.zipIdx.reverse ⟨[], [], none⟩

end Loop

section Stopping
variable {r : StartedResource ε} {position : Nat} {deadline : ShutdownDeadline}

/-- Every call made to stop a resource is one of that resource. -/
theorem stop_positions {c : Call ε} (h : c ∈ (r.stop position deadline).2) :
    c.position = position := by
  unfold StartedResource.stop StartedResource.call at h
  cases hd : r.acceptsDeadline <;> cases hn : r.acceptsNothing <;>
    cases ho : r.onDeadline <;> simp [hd, hn, ho, Outcome.isTypeError] at h
  all_goals rcases h with rfl | rfl <;> rfl

/-- A shutdown that can be called, that raises nothing beyond `Exception`, and that cannot be
called without the deadline if with it its body raises a `TypeError`. -/
def StartedResource.Tame (r : StartedResource ε) : Prop :=
  if r.acceptsDeadline then
    r.onDeadline ≠ .exited ∧ ¬(r.onDeadline = .typeError ∧ r.acceptsNothing = true)
  else r.acceptsNothing = true ∧ r.onNothing ≠ .exited

theorem tame_iff : r.Tame ↔
    (r.stop position deadline).1 ≠ .exited ∧ (r.stop position deadline).2.length = 1 := by
  unfold StartedResource.Tame StartedResource.stop StartedResource.call
  cases hd : r.acceptsDeadline <;> cases hn : r.acceptsNothing <;>
    cases ho : r.onDeadline <;> simp [Outcome.isTypeError]

/-- The one call of a tame resource has the deadline if there is a place for it, and ends as the
stop of the resource does. -/
theorem Tame.call (h : r.Tame) (position : Nat) (deadline : ShutdownDeadline) : ∃ c, (r.stop position deadline).2 = [c] ∧
    (r.acceptsDeadline = true → c.argument = some deadline) ∧
    (r.stop position deadline).1 = c.outcome := by
  unfold StartedResource.Tame at h
  unfold StartedResource.stop StartedResource.call
  cases hd : r.acceptsDeadline <;> cases hn : r.acceptsNothing <;>
    cases ho : r.onDeadline <;> simp_all [Outcome.isTypeError]

end Stopping

section Runs
variable {resources : List (StartedResource ε)} {deadline : ShutdownDeadline} {s : Shutdown ε}
  {l : List (StartedResource ε × Nat)}

/-- The loop comes to its end unless something leaves it, and then it has stopped every resource
and remembers whether one of them was cancelled. -/
theorem shutdownLoop_ends (h : (shutdownLoop deadline l s).1 = true) :
    (∀ x ∈ l, (x.1.stop x.2 deadline).1 ≠ .exited) ∧
      (shutdownLoop deadline l s).2.calls = s.calls ++ l.flatMap (fun x => (x.1.stop x.2 deadline).2) ∧
      ((shutdownLoop deadline l s).2.cancelled.isSome = true ↔
        s.cancelled.isSome = true ∨ ∃ x ∈ l, ∃ exc, (x.1.stop x.2 deadline).1 = .cancelled exc) := by
  induction l generalizing s with
  | nil => simp [shutdownLoop]
  | cons x rest ih =>
    obtain ⟨r, position⟩ := x
    rw [shutdownLoop] at h ⊢
    cases hstop : (r.stop position deadline).1 with
    | exited => simp [hstop] at h
    | cancelled exc =>
      simp only [hstop] at h ⊢
      obtain ⟨hrest, hcalls, hcancelled⟩ := ih h
      refine ⟨by simpa [hstop] using hrest, by rw [hcalls]; simp, ?_⟩
      rw [hcancelled]
      simp [hstop]
    | _ =>
      simp only [hstop] at h ⊢
      obtain ⟨hrest, hcalls, hcancelled⟩ := ih h
      refine ⟨by simpa [hstop] using hrest, by rw [hcalls]; simp, ?_⟩
      rw [hcancelled]
      simp [hstop]

theorem shutdownLoop_returns (h : ∀ x ∈ l, (x.1.stop x.2 deadline).1 ≠ .exited) :
    (shutdownLoop deadline l s).1 = true := by
  induction l generalizing s with
  | nil => rfl
  | cons x rest ih =>
    obtain ⟨r, position⟩ := x
    have hfirst := h (r, position) (by simp)
    have hrest : ∀ x ∈ rest, (x.1.stop x.2 deadline).1 ≠ .exited :=
      fun x hx => h x (List.mem_cons_of_mem _ hx)
    rw [shutdownLoop]
    cases hstop : (r.stop position deadline).1 with
    | exited => exact absurd hstop hfirst
    | _ => exact ih hrest

/-- Where every part of a list bears the number of its element and the numbers differ, the parts
together bear each number once only if every part is one long. -/
theorem parts_of_length_one {α β : Type} {part : α × Nat → List β} {number : β → Nat}
    {l : List (α × Nat)} (hpart : ∀ x ∈ l, ∀ b ∈ part x, number b = x.2)
    (hnodup : (l.map Prod.snd).Nodup) (h : (l.flatMap part).map number = l.map Prod.snd) :
    ∀ x ∈ l, (part x).length = 1 := by
  induction l with
  | nil => simp
  | cons x rest ih =>
    rw [List.map_cons, List.nodup_cons] at hnodup
    have hrest : ∀ b ∈ rest.flatMap part, number b ≠ x.2 := by
      intro b hb hbx
      obtain ⟨y, hy, hby⟩ := List.mem_flatMap.mp hb
      have hyb := hpart y (List.mem_cons_of_mem _ hy) b hby
      exact hnodup.1 (List.mem_map.mpr ⟨y, hy, hyb.symm.trans hbx⟩)
    have hfirst := hpart x (by simp)
    rw [List.flatMap_cons, List.map_append, List.map_cons] at h
    cases hparts : part x with
    | nil =>
      rw [hparts, List.map_nil, List.nil_append] at h
      have hmem : x.2 ∈ (rest.flatMap part).map number := by
        rw [h]
        exact List.mem_cons_self
      obtain ⟨b, hb, hbx⟩ := List.mem_map.mp hmem
      exact absurd hbx (hrest b hb)
    | cons b parts =>
      rw [hparts, List.map_cons, List.cons_append, List.cons.injEq] at h
      cases parts with
      | cons c parts =>
        rw [List.map_cons, List.cons_append] at h
        have hc : number c = x.2 := hfirst c (by simp [hparts])
        have hmem : x.2 ∈ rest.map Prod.snd := by
          rw [← h.2, hc]
          exact List.mem_cons_self
        exact absurd hmem hnodup.1
      | nil =>
        rw [List.map_nil, List.nil_append] at h
        intro y hy
        rcases List.mem_cons.mp hy with rfl | hy
        · rw [hparts]
          rfl
        · exact ih (fun y hy => hpart y (List.mem_cons_of_mem _ hy)) hnodup.2 h.2 y hy

theorem parts_once {α β : Type} {part : α × Nat → List β} {number : β → Nat}
    {l : List (α × Nat)} (hpart : ∀ x ∈ l, ∀ b ∈ part x, number b = x.2)
    (hone : ∀ x ∈ l, (part x).length = 1) : (l.flatMap part).map number = l.map Prod.snd := by
  induction l with
  | nil => rfl
  | cons x rest ih =>
    obtain ⟨b, hb⟩ := List.length_eq_one_iff.mp (hone x (by simp))
    have hnumber : number b = x.2 := hpart x (by simp) b (by simp [hb])
    rw [List.flatMap_cons, List.map_append, hb, List.map_cons, List.map_nil, hnumber,
      ih (fun y hy => hpart y (List.mem_cons_of_mem _ hy)) fun y hy =>
        hone y (List.mem_cons_of_mem _ hy)]
    rfl

theorem positions_reverse (resources : List (StartedResource ε)) :
    resources.zipIdx.reverse.map Prod.snd = (List.range resources.length).reverse := by
  rw [List.map_reverse, List.zipIdx_map_snd, List.range_eq_range']

/-- The shutdown of a lifespan: it returns, every resource was stopped by one call, last started
first, with the deadline wherever it is accepted, and a cancellation is handed on. -/
structure Complete (resources : List (StartedResource ε)) (deadline : ShutdownDeadline) : Prop where
  returns : (shutdownStartedResources resources deadline).1 = true
  once : (shutdownStartedResources resources deadline).2.calls.map Call.position =
    (List.range resources.length).reverse
  sameDeadline : ∀ c ∈ (shutdownStartedResources resources deadline).2.calls, ∀ r,
    resources[c.position]? = some r → r.acceptsDeadline = true → c.argument = some deadline
  cancellation : (shutdownStartedResources resources deadline).2.cancelled.isSome = true ↔
    ∃ c ∈ (shutdownStartedResources resources deadline).2.calls, ∃ exc, c.outcome = .cancelled exc

/-- A shutdown is complete exactly when every resource is tame. -/
theorem shutdown_complete_iff (resources : List (StartedResource ε)) (deadline : ShutdownDeadline) :
    Complete resources deadline ↔ ∀ r ∈ resources, r.Tame := by
  have hnodup : (resources.zipIdx.reverse.map Prod.snd).Nodup := by
    rw [positions_reverse]
    exact List.nodup_reverse.mpr List.nodup_range
  have hpart : ∀ x ∈ resources.zipIdx.reverse, ∀ c ∈ (x.1.stop x.2 deadline).2,
      c.position = x.2 := fun x _ c hc => stop_positions hc
  constructor
  · intro h r hr
    obtain ⟨hstops, hcalls, -⟩ := shutdownLoop_ends h.returns
    have honce := h.once
    rw [shutdownStartedResources, hcalls, List.nil_append, ← positions_reverse] at honce
    obtain ⟨position, hlt, hget⟩ := List.mem_iff_getElem.mp hr
    have hmem : (r, position) ∈ resources.zipIdx.reverse := by
      rw [List.mem_reverse, List.mem_zipIdx_iff_getElem?, List.getElem?_eq_getElem hlt, hget]
    exact tame_iff.mpr ⟨hstops _ hmem, parts_of_length_one hpart hnodup honce _ hmem⟩
  · intro htame
    have htame' : ∀ x ∈ resources.zipIdx.reverse, x.1.Tame := by
      intro x hx
      rw [List.mem_reverse, List.mem_zipIdx_iff_getElem?] at hx
      exact htame x.1 (List.mem_of_getElem? hx)
    have hreturns : (shutdownStartedResources resources deadline).1 = true :=
      shutdownLoop_returns fun x hx => (tame_iff.mp (htame' x hx)).1
    obtain ⟨-, hcalls, hcancelled⟩ := shutdownLoop_ends hreturns
    refine ⟨hreturns, ?_, ?_, ?_⟩
    · rw [shutdownStartedResources, hcalls, List.nil_append,
        parts_once hpart fun x hx => (tame_iff.mp (htame' x hx)).2, positions_reverse]
    · rw [shutdownStartedResources, hcalls, List.nil_append]
      intro c hc r hr haccepts
      obtain ⟨x, hx, hcx⟩ := List.mem_flatMap.mp hc
      obtain ⟨c', hone, hargument, -⟩ := Tame.call (htame' x hx) x.2 deadline
      rw [hone, List.mem_singleton] at hcx
      subst hcx
      have hposition : c.position = x.2 := hpart x hx c (by simp [hone])
      rw [List.mem_reverse, List.mem_zipIdx_iff_getElem?] at hx
      rw [hposition, hx] at hr
      cases hr
      exact hargument haccepts
    · rw [shutdownStartedResources, hcancelled, hcalls, List.nil_append]
      constructor
      · rintro (hno | ⟨x, hx, exc, hexc⟩)
        · cases hno
        · obtain ⟨c, hone, -, houtcome⟩ :=
            Tame.call (htame' x hx) x.2 deadline
          refine ⟨c, List.mem_flatMap.mpr ⟨x, hx, by simp [hone]⟩, exc, ?_⟩
          rw [← houtcome, hexc]
      · rintro ⟨c, hc, exc, hexc⟩
        obtain ⟨x, hx, hcx⟩ := List.mem_flatMap.mp hc
        obtain ⟨c', hone, -, houtcome⟩ :=
          Tame.call (htame' x hx) x.2 deadline
        rw [hone, List.mem_singleton] at hcx
        subst hcx
        exact Or.inr ⟨x, hx, exc, houtcome.trans hexc⟩

/- Its shutdown takes an optional deadline and raises a `TypeError` in its body. -/
def twiceShutDown : StartedResource Unit := ⟨"media_analysis", true, true, .typeError, .returned⟩

theorem typeError_is_shut_down_twice : ¬Complete [twiceShutDown] ⟨30, 30⟩ := by
  intro h
  have htwice : (shutdownStartedResources [twiceShutDown] ⟨30, 30⟩).2.calls.map Call.position =
      [0, 0] := rfl
  have honce := h.once
  rw [htwice] at honce
  cases honce

end Runs
end FrameNest.Lifespan
