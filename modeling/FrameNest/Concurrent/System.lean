import Mathlib.Logic.Relation
import Mathlib.Data.List.Basic
import FrameNest.Concurrent.Program

/-! Any number of programs interleaved over one shared state. A crash forgets
every thread and keeps the state. -/
namespace Concurrent
variable {ι E σ ε α γ κ : Type} {R : E → Type}

structure Thread (E : Type) (R : E → Type) (ε γ α : Type) where
  memory : γ
  program : Program E R ε α

structure World (E : Type) (R : E → Type) (ε σ γ α : Type) where
  state : σ
  threads : List (Thread E R ε γ α)

structure System (κ ι E : Type) (R : E → Type) (ε σ γ α : Type)
    extends Protocol ι E R ε σ γ where
  program : κ → Program E R ε α
  memory : κ → γ
  mayStart : List (Thread E R ε γ α) → κ → Bool
  mayCrash : Bool

variable {Y : System κ ι E R ε σ γ α}

inductive Step (Y : System κ ι E R ε σ γ α) :
    World E R ε σ γ α → World E R ε σ γ α → Prop
  | start (w) (c : κ) (h : Y.mayStart w.threads c = true) :
      Step Y w ⟨w.state, w.threads ++ [⟨Y.memory c, Y.program c⟩]⟩
  | call (w) (n : Nat) (i : ι) (g : γ) (e : E) (next : Except ε (R e) → Program E R ε α)
      (h : w.threads[n]? = some ⟨g, .call e next⟩) (hp : Y.permits g i e w.state) :
      Step Y w ⟨(Y.exec i e w.state).2,
        w.threads.set n ⟨Y.note g w.state e (Y.exec i e w.state).1,
          next (Y.exec i e w.state).1⟩⟩
  | crash (w) (h : Y.mayCrash = true) : Step Y w ⟨w.state, []⟩

def Reachable (Y : System κ ι E R ε σ γ α) (s : σ) (w : World E R ε σ γ α) : Prop :=
  Relation.ReflTransGen (Step Y) ⟨s, []⟩ w

/- The same system, judged by other allowed calls. -/
def System.withMay (Y : System κ ι E R ε σ γ α) (may : γ → E → Prop) : System κ ι E R ε σ γ α :=
  { Y with may }

theorem Step.withMay (may : γ → E → Prop) {w w' : World E R ε σ γ α} (h : Step Y w w') :
    Step (Y.withMay may) w w' := by
  cases h with
  | start c hs => exact .start w c hs
  | call n i g e next hn hp => exact .call w n i g e next hn hp
  | crash hc => exact .crash w hc

theorem Reachable.withMay (may : γ → E → Prop) {s : σ} {w : World E R ε σ γ α}
    (h : Reachable Y s w) : Reachable (Y.withMay may) s w :=
  Relation.ReflTransGen.mono (fun _ _ hstep => Step.withMay may hstep) _ _ h

/-- What a step can do to the shared state: nothing, or one call of one thread. -/
theorem Step.cases_state {w w' : World E R ε σ γ α} (h : Step Y w w') :
    w'.state = w.state ∨ ∃ t ∈ w.threads, ∃ i e next,
      t.program = .call e next ∧ Y.permits t.memory i e w.state ∧
        w'.state = (Y.exec i e w.state).2 := by
  cases h with
  | start c hs => exact Or.inl rfl
  | call n i g e next hn hp =>
    exact Or.inr ⟨_, List.mem_of_getElem? hn, i, e, next, rfl, hp, rfl⟩
  | crash => exact Or.inl rfl

/-- What no permitted call of any thread undoes holds in every reachable state. -/
theorem Reachable.invariant {J : σ → Prop}
    (hJ : ∀ g i e s, Y.permits g i e s → J s → J (Y.exec i e s).2) {s : σ}
    {w : World E R ε σ γ α} (hs : J s) (h : Reachable Y s w) : J w.state := by
  induction h with
  | refl => exact hs
  | tail _ hstep ih =>
    obtain hsame | ⟨t, -, i, e, next, -, hp, hexec⟩ := hstep.cases_state
    · rw [hsame]
      exact ih
    · rw [hexec]
      exact hJ _ i e _ hp ih

/- A thread's own call keeps `I` of the shared state and `T` of its memory against
   the state. -/
structure Preserved (Y : System κ ι E R ε σ γ α) (I : σ → Prop) (T : γ → σ → Prop) : Prop where
  start : ∀ c s, I s → T (Y.memory c) s
  state : ∀ g i e s, I s → T g s → Y.may g e → Y.permits g i e s → I (Y.exec i e s).2
  own : ∀ g i e s, I s → T g s → Y.may g e → Y.permits g i e s →
    T (Y.note g s e (Y.exec i e s).1) (Y.exec i e s).2

/- Any other thread's call keeps `T` as well, and `A` of every two threads. -/
structure Interference (Y : System κ ι E R ε σ γ α) (I : σ → Prop) (T : γ → σ → Prop)
    (A : γ → γ → Prop) : Prop extends Preserved Y I T where
  other : ∀ g g' i e s, I s → T g s → T g' s → A g g' → Y.may g e → Y.permits g i e s →
    T g' (Y.exec i e s).2
  symm : ∀ g g', A g g' → A g' g
  newcomer : ∀ c g s, I s → T g s → A (Y.memory c) g
  apart : ∀ g g' i e s, I s → T g s → T g' s → A g g' → Y.may g e → Y.permits g i e s →
    A (Y.note g s e (Y.exec i e s).1) g'

/-- A second invariant, established on top of a first. -/
theorem Preserved.and {I₀ I : σ → Prop} {T₀ T : γ → σ → Prop} (h₀ : Preserved Y I₀ T₀)
    (start : ∀ c s, I₀ s → I s → T (Y.memory c) s)
    (state : ∀ g i e s, I₀ s → T₀ g s → I s → T g s → Y.may g e → Y.permits g i e s →
      I (Y.exec i e s).2)
    (own : ∀ g i e s, I₀ s → T₀ g s → I s → T g s → Y.may g e → Y.permits g i e s →
      T (Y.note g s e (Y.exec i e s).1) (Y.exec i e s).2) :
    Preserved Y (fun s => I₀ s ∧ I s) (fun g s => T₀ g s ∧ T g s) where
  start c s h := ⟨h₀.start c s h.1, start c s h.1 h.2⟩
  state g i e s hI hT hm hp :=
    ⟨h₀.state g i e s hI.1 hT.1 hm hp, state g i e s hI.1 hT.1 hI.2 hT.2 hm hp⟩
  own g i e s hI hT hm hp :=
    ⟨h₀.own g i e s hI.1 hT.1 hm hp, own g i e s hI.1 hT.1 hI.2 hT.2 hm hp⟩

/-- The same of the threads that run beside each other. -/
theorem Interference.and {I₀ I : σ → Prop} {T₀ T : γ → σ → Prop} {A : γ → γ → Prop}
    (h₀ : Interference Y I₀ T₀ A)
    (start : ∀ c s, I₀ s → I s → T (Y.memory c) s)
    (state : ∀ g i e s, I₀ s → T₀ g s → I s → T g s → Y.may g e → Y.permits g i e s →
      I (Y.exec i e s).2)
    (own : ∀ g i e s, I₀ s → T₀ g s → I s → T g s → Y.may g e → Y.permits g i e s →
      T (Y.note g s e (Y.exec i e s).1) (Y.exec i e s).2)
    (other : ∀ g g' i e s, I₀ s → T₀ g s → T₀ g' s → I s → T g s → T g' s → A g g' →
      Y.may g e → Y.permits g i e s → T g' (Y.exec i e s).2) :
    Interference Y (fun s => I₀ s ∧ I s) (fun g s => T₀ g s ∧ T g s) A where
  toPreserved := h₀.toPreserved.and start state own
  other g g' i e s hI hT hT' hA hm hp := ⟨h₀.other g g' i e s hI.1 hT.1 hT'.1 hA hm hp,
    other g g' i e s hI.1 hT.1 hT'.1 hI.2 hT.2 hT'.2 hA hm hp⟩
  symm := h₀.symm
  newcomer c g s hI hT := h₀.newcomer c g s hI.1 hT.1
  apart g g' i e s hI hT hT' hA hm hp := h₀.apart g g' i e s hI.1 hT.1 hT'.1 hA hm hp

/- A stronger relation between the threads, established on top of an invariant. -/
theorem Interference.relate {I : σ → Prop} {T : γ → σ → Prop} {A₀ A : γ → γ → Prop}
    (h₀ : Interference Y I T A₀) (hA : ∀ g g', A g g' → A₀ g g')
    (symm : ∀ g g', A g g' → A g' g) (newcomer : ∀ c g, A (Y.memory c) g)
    (apart : ∀ g g' i e s, I s → T g s → T g' s → A g g' → Y.may g e → Y.permits g i e s →
      A (Y.note g s e (Y.exec i e s).1) g') : Interference Y I T A where
  toPreserved := h₀.toPreserved
  other g g' i e s hI hT hT' h hm hp := h₀.other g g' i e s hI hT hT' (hA g g' h) hm hp
  symm := symm
  newcomer c g _ _ _ := newcomer c g
  apart := apart

/-- With fewer calls allowed, what was kept is kept. -/
theorem Preserved.withMay {I : σ → Prop} {T : γ → σ → Prop} {may : γ → E → Prop}
    (hmay : ∀ g e, may g e → Y.may g e) (h : Preserved Y I T) : Preserved (Y.withMay may) I T where
  start := h.start
  state g i e s hI hT hm hp := h.state g i e s hI hT (hmay g e hm) hp
  own g i e s hI hT hm hp := h.own g i e s hI hT (hmay g e hm) hp

theorem Interference.withMay {I : σ → Prop} {T : γ → σ → Prop} {A : γ → γ → Prop}
    {may : γ → E → Prop} (hmay : ∀ g e, may g e → Y.may g e) (h : Interference Y I T A) :
    Interference (Y.withMay may) I T A where
  toPreserved := h.toPreserved.withMay hmay
  other g g' i e s hI hT hT' hA hm hp := h.other g g' i e s hI hT hT' hA (hmay g e hm) hp
  symm := h.symm
  newcomer := h.newcomer
  apart g g' i e s hI hT hT' hA hm hp := h.apart g g' i e s hI hT hT' hA (hmay g e hm) hp

/- The same system, with fewer calls permitted. -/
def System.restrict (Y : System κ ι E R ε σ γ α) (p : γ → ι → E → σ → Prop) :
    System κ ι E R ε σ γ α :=
  { Y with permits := fun g i e s => Y.permits g i e s ∧ p g i e s }

theorem Interference.restrict {p : γ → ι → E → σ → Prop} {I : σ → Prop} {T : γ → σ → Prop}
    {A : γ → γ → Prop} (h : Interference Y I T A) : Interference (Y.restrict p) I T A where
  start := h.start
  state g i e s hI hT hm hp := h.state g i e s hI hT hm hp.1
  own g i e s hI hT hm hp := h.own g i e s hI hT hm hp.1
  other g g' i e s hI hT hT' hA hm hp := h.other g g' i e s hI hT hT' hA hm hp.1
  symm := h.symm
  newcomer := h.newcomer
  apart g g' i e s hI hT hT' hA hm hp := h.apart g g' i e s hI hT hT' hA hm hp.1

theorem Obeys.restrict {p : γ → ι → E → σ → Prop} {Q : γ → Except ε α → Prop}
    {program : Program E R ε α} {g : γ} (h : Obeys Y.toProtocol Q program g) :
    Obeys (Y.restrict p).toProtocol Q program g := by
  induction program generalizing g with
  | done a => exact h
  | fail x => exact h
  | call e next ih => exact ⟨h.1, fun i s hp => ih _ (h.2 i s hp.1)⟩

def Apart (A : γ → γ → Prop) (threads : List (Thread E R ε γ α)) : Prop :=
  ∀ (m n : Nat) (t t' : Thread E R ε γ α), m ≠ n → threads[m]? = some t →
    threads[n]? = some t' → A t.memory t'.memory

theorem Apart.append {A : γ → γ → Prop} {threads : List (Thread E R ε γ α)}
    (h : Apart A threads) (symm : ∀ g g', A g g' → A g' g) {t : Thread E R ε γ α}
    (ht : ∀ t' ∈ threads, A t.memory t'.memory) : Apart A (threads ++ [t]) := by
  intro m n a b hne ha hb
  rw [List.getElem?_append] at ha hb
  split at ha
  · split at hb
    · exact h m n a b hne ha hb
    · rw [List.getElem?_singleton] at hb
      split at hb
      · cases hb
        exact symm _ _ (ht a (List.mem_of_getElem? ha))
      · cases hb
  · rw [List.getElem?_singleton] at ha
    split at ha
    · rename_i hm
      cases ha
      split at hb
      · exact ht b (List.mem_of_getElem? hb)
      · rw [List.getElem?_singleton] at hb
        split at hb
        · omega
        · cases hb
    · cases ha

theorem Apart.set {A : γ → γ → Prop} {threads : List (Thread E R ε γ α)}
    (h : Apart A threads) (symm : ∀ g g', A g g' → A g' g) {k : Nat} {t : Thread E R ε γ α}
    (ht : ∀ n t', n ≠ k → threads[n]? = some t' → A t.memory t'.memory) :
    Apart A (threads.set k t) := by
  intro m n a b hne ha hb
  rw [List.getElem?_set] at ha hb
  by_cases hm : k = m
  · subst hm
    rw [if_neg hne] at hb
    rw [if_pos rfl] at ha
    split at ha
    · cases ha
      exact ht n b (Ne.symm hne) hb
    · cases ha
  · rw [if_neg hm] at ha
    by_cases hn : k = n
    · subst hn
      rw [if_pos rfl] at hb
      split at hb
      · cases hb
        exact symm _ _ (ht m a (Ne.symm hm) ha)
      · cases hb
    · rw [if_neg hn] at hb
      exact h m n a b hne ha hb

structure Sound (Y : System κ ι E R ε σ γ α) (Q : γ → Except ε α → Prop) (I : σ → Prop)
    (T : γ → σ → Prop) (A : γ → γ → Prop) (w : World E R ε σ γ α) : Prop where
  state : I w.state
  threads : ∀ t ∈ w.threads, T t.memory w.state ∧ Obeys Y.toProtocol Q t.program t.memory
  apart : Apart A w.threads

def Obedient (Y : System κ ι E R ε σ γ α) (Q : γ → Except ε α → Prop) : Prop :=
  ∀ c, Obeys Y.toProtocol Q (Y.program c) (Y.memory c)

section Runs
variable {Q : γ → Except ε α → Prop} {I J : σ → Prop} {T : γ → σ → Prop} {A : γ → γ → Prop}
  {w w' : World E R ε σ γ α}

theorem Sound.init {s : σ} (h : I s) : Sound Y Q I T A ⟨s, []⟩ :=
  ⟨h, by simp, fun _ _ _ _ _ hm _ => by simp at hm⟩

theorem Sound.step (hY : Interference Y I T A) (hprog : Obedient Y Q)
    (hw : Sound Y Q I T A w) (h : Step Y w w') : Sound Y Q I T A w' := by
  cases h with
  | start c hs =>
    refine ⟨hw.state, fun t ht => ?_, hw.apart.append hY.symm fun t ht =>
      hY.newcomer c _ w.state hw.state (hw.threads t ht).1⟩
    obtain ht | ht := List.mem_append.mp ht
    · exact hw.threads t ht
    · rw [List.mem_singleton.mp ht]
      exact ⟨hY.start c _ hw.state, hprog c⟩
  | call n i g e next hn hp =>
    obtain ⟨hT, hO⟩ := hw.threads _ (List.mem_of_getElem? hn)
    -- a thread other than the caller, by its place: its memory keeps `T` and stays apart
    have hothers : ∀ m t, m ≠ n → w.threads[m]? = some t →
        T t.memory (Y.exec i e w.state).2 ∧
          A (Y.note g w.state e (Y.exec i e w.state).1) t.memory := by
      intro m t hne hm
      have hA : A g t.memory := hw.apart n m _ t (Ne.symm hne) hn hm
      have hT' := (hw.threads t (List.mem_of_getElem? hm)).1
      exact ⟨hY.other g t.memory i e _ hw.state hT hT' hA hO.1 hp,
        hY.apart g t.memory i e _ hw.state hT hT' hA hO.1 hp⟩
    refine ⟨hY.state g i e _ hw.state hT hO.1 hp, fun t ht => ?_,
      hw.apart.set hY.symm fun m t hne hm => (hothers m t hne hm).2⟩
    obtain ⟨m, hm⟩ := List.mem_iff_getElem?.mp ht
    rw [List.getElem?_set] at hm
    by_cases hnm : n = m
    · rw [if_pos hnm] at hm
      split at hm
      · cases hm
        exact ⟨hY.own g i e _ hw.state hT hO.1 hp, hO.2 i _ hp⟩
      · cases hm
    · rw [if_neg hnm] at hm
      exact ⟨(hothers m t (Ne.symm hnm) hm).1, (hw.threads t (List.mem_of_getElem? hm)).2⟩
  | crash hc => exact Sound.init hw.state

theorem Sound.steps (hY : Interference Y I T A) (hprog : Obedient Y Q)
    (hw : Sound Y Q I T A w) (h : Relation.ReflTransGen (Step Y) w w') :
    Sound Y Q I T A w' := by
  induction h with
  | refl => exact hw
  | tail _ hstep ih => exact ih.step hY hprog hstep

/-- What holds of a world besides joins its invariants. -/
theorem Sound.and {I' : σ → Prop} {T' : γ → σ → Prop} (hw : Sound Y Q I T A w) (hI : I' w.state)
    (hT : ∀ t ∈ w.threads, T' t.memory w.state) :
    Sound Y Q (fun s => I s ∧ I' s) (fun g s => T g s ∧ T' g s) A w :=
  ⟨⟨hw.state, hI⟩, fun t ht => ⟨⟨(hw.threads t ht).1, hT t ht⟩, (hw.threads t ht).2⟩, hw.apart⟩

theorem Reachable.sound (hY : Interference Y I T A) (hprog : Obedient Y Q) {s : σ} (hs : I s)
    (h : Reachable Y s w) : Sound Y Q I T A w :=
  (Sound.init hs).steps hY hprog h

/-- What no permitted call of a sound thread undoes stays true for the rest of the run. -/
theorem Sound.stable (hY : Interference Y I T A) (hprog : Obedient Y Q)
    (hJ : ∀ g i e s, I s → T g s → Y.may g e → Y.permits g i e s → J s → J (Y.exec i e s).2)
    (hw : Sound Y Q I T A w) (h : Relation.ReflTransGen (Step Y) w w')
    (hj : J w.state) : J w'.state := by
  induction h with
  | refl => exact hj
  | tail hsteps hstep ih =>
    have hmid := hw.steps hY hprog hsteps
    obtain hsame | ⟨t, ht, i, e, next, hprogram, hp, hexec⟩ := hstep.cases_state
    · rw [hsame]
      exact ih
    · obtain ⟨hT, hO⟩ := hmid.threads t ht
      rw [hprogram] at hO
      rw [hexec]
      exact hJ _ i e _ hmid.state hT hO.1 hp ih

end Runs

/- A scripted run, for the runs a counterexample exhibits. -/
inductive Move (κ ι : Type) where
  | start (c : κ)
  | call (n : Nat) (i : ι)
  | crash

def World.move (Y : System κ ι E R ε σ γ α) (w : World E R ε σ γ α) :
    Move κ ι → World E R ε σ γ α
  | .start c => if Y.mayStart w.threads c then
      ⟨w.state, w.threads ++ [⟨Y.memory c, Y.program c⟩]⟩ else w
  | .call n i => match w.threads[n]? with
    | some ⟨g, .call e next⟩ => ⟨(Y.exec i e w.state).2,
        w.threads.set n ⟨Y.note g w.state e (Y.exec i e w.state).1,
          next (Y.exec i e w.state).1⟩⟩
    | _ => w
  | .crash => if Y.mayCrash then ⟨w.state, []⟩ else w

def World.MayMove (Y : System κ ι E R ε σ γ α) (w : World E R ε σ γ α) : Move κ ι → Prop
  | .call n i => match w.threads[n]? with
    | some ⟨g, .call e _⟩ => Y.permits g i e w.state
    | _ => True
  | _ => True

instance [∀ g i e s, Decidable (Y.permits g i e s)] (w : World E R ε σ γ α) (m : Move κ ι) :
    Decidable (w.MayMove Y m) :=
  match m with
  | .start _ | .crash => isTrue trivial
  | .call n i => match h : w.threads[n]? with
    | some ⟨g, .call e next⟩ =>
      decidable_of_iff (Y.permits g i e w.state) (by simp only [World.MayMove, h])
    | some ⟨_, .done _⟩ | some ⟨_, .fail _⟩ | none =>
      isTrue (by simp only [World.MayMove, h])

/- Every call of the script is one the system permits at its point. -/
def World.Allowed (Y : System κ ι E R ε σ γ α) : List (Move κ ι) → World E R ε σ γ α → Prop
  | [], _ => True
  | m :: ms, w => w.MayMove Y m ∧ World.Allowed Y ms (w.move Y m)

instance World.decidableAllowed [∀ g i e s, Decidable (Y.permits g i e s)] :
    ∀ (ms : List (Move κ ι)) (w : World E R ε σ γ α), Decidable (w.Allowed Y ms)
  | [], _ => isTrue trivial
  | m :: ms, w =>
    have : Decidable ((w.move Y m).Allowed Y ms) := World.decidableAllowed ms _
    inferInstanceAs (Decidable (w.MayMove Y m ∧ _))

theorem World.mayMove_of_forall (hY : ∀ g i e s, Y.permits g i e s) (w : World E R ε σ γ α)
    (m : Move κ ι) : w.MayMove Y m := by
  unfold World.MayMove
  split
  · split
    · exact hY _ _ _ _
    · trivial
  · trivial

theorem World.allowed_of_forall (hY : ∀ g i e s, Y.permits g i e s) (ms : List (Move κ ι))
    (w : World E R ε σ γ α) : w.Allowed Y ms := by
  induction ms generalizing w with
  | nil => trivial
  | cons m ms ih => exact ⟨World.mayMove_of_forall hY w m, ih _⟩

/-- A scripted call of a thread that has not ended is a step. -/
theorem World.call_step {w : World E R ε σ γ α} {n : Nat} {i : ι}
    (h : (w.threads[n]?).any (fun t => !t.program.settled) = true)
    (hp : w.MayMove Y (.call n i)) : Step Y w (w.move Y (.call n i)) := by
  cases ht : w.threads[n]? with
  | none => simp [ht] at h
  | some t =>
    obtain ⟨g, p⟩ := t
    cases p with
    | done a => simp [ht, Program.settled] at h
    | fail x => simp [ht, Program.settled] at h
    | call e next =>
      simp only [World.MayMove, ht] at hp
      simp only [World.move, ht]
      exact Step.call w n i g e next ht hp

/-- A scripted move is a step, or changes nothing. -/
theorem World.move_cases {w : World E R ε σ γ α} {m : Move κ ι} (h : w.MayMove Y m) :
    w.move Y m = w ∨ Step Y w (w.move Y m) := by
  cases m with
  | start c =>
    by_cases hs : Y.mayStart w.threads c = true
    · right
      simpa [World.move, hs] using Step.start w c hs
    · left
      simp [World.move, hs]
  | call n i =>
    by_cases hn : (w.threads[n]?).any (fun t => !t.program.settled) = true
    · exact Or.inr (World.call_step hn h)
    · left
      cases ht : w.threads[n]? with
      | none => simp only [World.move, ht]
      | some t =>
        obtain ⟨g, p⟩ := t
        cases p with
        | done a => simp only [World.move, ht]
        | fail x => simp only [World.move, ht]
        | call e next => simp [ht, Program.settled] at hn
  | crash =>
    by_cases hc : Y.mayCrash = true
    · right
      simpa [World.move, hc] using Step.crash w hc
    · left
      simp [World.move, hc]

theorem World.moves_reach (ms : List (Move κ ι)) (w : World E R ε σ γ α) (h : w.Allowed Y ms) :
    Relation.ReflTransGen (Step Y) w (ms.foldl (World.move Y) w) := by
  induction ms generalizing w with
  | nil => exact Relation.ReflTransGen.refl
  | cons m ms ih =>
    refine Relation.ReflTransGen.trans ?_ (ih _ h.2)
    obtain hsame | hstep := World.move_cases h.1
    · rw [hsame]
    · exact Relation.ReflTransGen.single hstep

end Concurrent
