import FrameNest.Concurrent.System
import Mathlib.Logic.Function.Basic

/-! Threads that exclude one another only while they run: what holds of the shared state, of
every thread that counts and of every two of them. Programs are judged only where the
invariants hold. -/
namespace Concurrent
variable {κ ι E ε σ γ α : Type} {R : E → Type}

/-- The protocol as a thread meets it where `I` and its own `T` hold. -/
def Protocol.within (P : Protocol ι E R ε σ γ) (I : σ → Prop) (T : γ → σ → Prop) :
    Protocol ι E R ε σ γ :=
  { P with permits := fun g i e s => P.permits g i e s ∧ I s ∧ T g s }

/-- `A` of every two threads whose programs count. -/
def ApartWhile (L : Program E R ε α → Prop) (A : γ → γ → Prop)
    (threads : List (Thread E R ε γ α)) : Prop :=
  ∀ (m n : Nat) (t t' : Thread E R ε γ α), m ≠ n → threads[m]? = some t →
    threads[n]? = some t' → L t.program → L t'.program → A t.memory t'.memory

/-- What keeps `I`, `T` and `A` when only threads that count exclude one another. A thread
that still calls counts. -/
structure Exclusion (Y : System κ ι E R ε σ γ α) (L : Program E R ε α → Prop) (I : σ → Prop)
    (T : γ → σ → Prop) (A : γ → γ → Prop) : Prop where
  calls : ∀ e next, L (.call e next)
  start : ∀ c s, I s → T (Y.memory c) s
  admitted : ∀ threads c, Y.mayStart threads c = true → ∀ t ∈ threads, L t.program →
    A (Y.memory c) t.memory
  state : ∀ g i e s, I s → T g s → Y.may g e → Y.permits g i e s → I (Y.exec i e s).2
  own : ∀ g i e s, I s → T g s → Y.may g e → Y.permits g i e s →
    T (Y.note g s e (Y.exec i e s).1) (Y.exec i e s).2
  other : ∀ g g' i e s, I s → T g s → T g' s → A g g' → Y.may g e → Y.permits g i e s →
    T g' (Y.exec i e s).2
  symm : ∀ g g', A g g' → A g' g
  apart : ∀ g g' i e s, I s → T g s → T g' s → A g g' → Y.may g e → Y.permits g i e s →
    A (Y.note g s e (Y.exec i e s).1) g'

structure Kept (Y : System κ ι E R ε σ γ α) (L : Program E R ε α → Prop)
    (Q : γ → Except ε α → Prop) (I : σ → Prop) (T : γ → σ → Prop) (A : γ → γ → Prop)
    (w : World E R ε σ γ α) : Prop where
  state : I w.state
  obeys : ∀ t ∈ w.threads, Obeys (Y.toProtocol.within I T) Q t.program t.memory
  threads : ∀ t ∈ w.threads, L t.program → T t.memory w.state
  apart : ApartWhile L A w.threads

section Runs
variable {Y : System κ ι E R ε σ γ α} {L : Program E R ε α → Prop} {Q : γ → Except ε α → Prop}
  {I : σ → Prop} {T : γ → σ → Prop} {A : γ → γ → Prop} {w w' : World E R ε σ γ α}

theorem ApartWhile.append {threads : List (Thread E R ε γ α)} (h : ApartWhile L A threads)
    (symm : ∀ g g', A g g' → A g' g) {t : Thread E R ε γ α}
    (ht : ∀ t' ∈ threads, L t'.program → A t.memory t'.memory) :
    ApartWhile L A (threads ++ [t]) := by
  -- two threads of the longer list are two of the shorter one, or one is the newcomer
  have hplace : ∀ (m : Nat) (a : Thread E R ε γ α), (threads ++ [t])[m]? = some a →
      threads[m]? = some a ∨ (m = threads.length ∧ a = t) := by
    intro m a ha
    rw [List.getElem?_append] at ha
    split at ha
    · exact Or.inl ha
    · rw [List.getElem?_singleton] at ha
      split at ha
      · cases ha
        exact Or.inr ⟨by omega, rfl⟩
      · cases ha
  intro m n a b hne ha hb hla hlb
  obtain hold | ⟨hm, rfl⟩ := hplace m a ha
  · obtain hold' | ⟨hn, rfl⟩ := hplace n b hb
    · exact h m n a b hne hold hold' hla hlb
    · exact symm _ _ (ht a (List.mem_of_getElem? hold) hla)
  · obtain hold' | ⟨hn, rfl⟩ := hplace n b hb
    · exact ht b (List.mem_of_getElem? hold') hlb
    · omega

theorem ApartWhile.set {threads : List (Thread E R ε γ α)} (h : ApartWhile L A threads)
    (symm : ∀ g g', A g g' → A g' g) {k : Nat} {t : Thread E R ε γ α}
    (ht : ∀ n t', n ≠ k → threads[n]? = some t' → L t'.program → A t.memory t'.memory) :
    ApartWhile L A (threads.set k t) := by
  have hplace : ∀ (m : Nat) (a : Thread E R ε γ α), (threads.set k t)[m]? = some a →
      (m = k ∧ a = t) ∨ (m ≠ k ∧ threads[m]? = some a) := by
    intro m a ha
    rw [List.getElem?_set] at ha
    split at ha
    · rename_i hk
      split at ha
      · cases ha
        exact Or.inl ⟨hk.symm, rfl⟩
      · cases ha
    · rename_i hk
      exact Or.inr ⟨fun hm => hk hm.symm, ha⟩
  intro m n a b hne ha hb hla hlb
  obtain ⟨hm, rfl⟩ | ⟨hm, hold⟩ := hplace m a ha
  · obtain ⟨hn, rfl⟩ | ⟨hn, hold'⟩ := hplace n b hb
    · omega
    · exact ht n b hn hold' hlb
  · obtain ⟨hn, rfl⟩ | ⟨hn, hold'⟩ := hplace n b hb
    · exact symm _ _ (ht m a hm hold hla)
    · exact h m n a b hne hold hold' hla hlb

theorem Kept.init {s : σ} (h : I s) : Kept Y L Q I T A ⟨s, []⟩ :=
  ⟨h, by simp, by simp, fun _ _ _ _ _ hm _ => by simp at hm⟩

theorem Kept.step (hY : Exclusion Y L I T A)
    (hprog : ∀ c, Obeys (Y.toProtocol.within I T) Q (Y.program c) (Y.memory c))
    (hw : Kept Y L Q I T A w) (h : Step Y w w') : Kept Y L Q I T A w' := by
  cases h with
  | start c hs =>
    refine ⟨hw.state, fun t ht => ?_, fun t ht hl => ?_,
      hw.apart.append hY.symm (hY.admitted _ c hs)⟩
    · obtain ht | ht := List.mem_append.mp ht
      · exact hw.obeys t ht
      · rw [List.mem_singleton.mp ht]
        exact hprog c
    · obtain ht | ht := List.mem_append.mp ht
      · exact hw.threads t ht hl
      · rw [List.mem_singleton.mp ht]
        exact hY.start c _ hw.state
  | call n i g e next hn hp =>
    have hmem := List.mem_of_getElem? hn
    have hT : T g w.state := hw.threads _ hmem (hY.calls e next)
    have hO := hw.obeys _ hmem
    -- another thread that counts, by its place: its memory keeps `T` and stays apart
    have hothers : ∀ m t, m ≠ n → w.threads[m]? = some t → L t.program →
        T t.memory (Y.exec i e w.state).2 ∧
          A (Y.note g w.state e (Y.exec i e w.state).1) t.memory := by
      intro m t hne hm hl
      have hA : A g t.memory := hw.apart n m _ t (Ne.symm hne) hn hm (hY.calls e next) hl
      have hT' := hw.threads t (List.mem_of_getElem? hm) hl
      exact ⟨hY.other g t.memory i e _ hw.state hT hT' hA hO.1 hp,
        hY.apart g t.memory i e _ hw.state hT hT' hA hO.1 hp⟩
    refine ⟨hY.state g i e _ hw.state hT hO.1 hp, fun t ht => ?_, fun t ht hl => ?_,
      hw.apart.set hY.symm fun m t hne hm hl => (hothers m t hne hm hl).2⟩
    all_goals
      obtain ⟨m, hm⟩ := List.mem_iff_getElem?.mp ht
      rw [List.getElem?_set] at hm
      by_cases hnm : n = m
    · rw [if_pos hnm] at hm
      split at hm
      · cases hm
        exact hO.2 i _ ⟨hp, hw.state, hT⟩
      · cases hm
    · rw [if_neg hnm] at hm
      exact hw.obeys t (List.mem_of_getElem? hm)
    · rw [if_pos hnm] at hm
      split at hm
      · cases hm
        exact hY.own g i e _ hw.state hT hO.1 hp
      · cases hm
    · rw [if_neg hnm] at hm
      exact (hothers m t (Ne.symm hnm) hm hl).1
  | crash hc => exact Kept.init hw.state

theorem Kept.steps (hY : Exclusion Y L I T A)
    (hprog : ∀ c, Obeys (Y.toProtocol.within I T) Q (Y.program c) (Y.memory c))
    (hw : Kept Y L Q I T A w) (h : Relation.ReflTransGen (Step Y) w w') :
    Kept Y L Q I T A w' := by
  induction h with
  | refl => exact hw
  | tail _ hstep ih => exact ih.step hY hprog hstep

/-- The call a step makes, by a thread of a kept world, and where. -/
theorem Kept.call (hY : Exclusion Y L I T A) (hw : Kept Y L Q I T A w) (h : Step Y w w') :
    w'.state = w.state ∨ ∃ g i e, I w.state ∧ T g w.state ∧ Y.may g e ∧
      Y.permits g i e w.state ∧ w'.state = (Y.exec i e w.state).2 := by
  obtain hsame | ⟨t, ht, i, e, next, hprogram, hp, hexec⟩ := h.cases_state
  · exact Or.inl hsame
  · have hO := hw.obeys t ht
    have hT : T t.memory w.state := hw.threads t ht (by
      rw [hprogram]
      exact hY.calls e next)
    rw [hprogram] at hO
    exact Or.inr ⟨t.memory, i, e, hw.state, hT, hO.1, hp, hexec⟩

end Runs
end Concurrent

/-! One durable value with several owners, each of which works on its own copy. A copy may be
written back only while the value still carries the epoch the copy was taken under; taking the
value over gives it an epoch no copy carries. -/
namespace Fencing
variable {ι V ε : Type} [DecidableEq ι]

/-- The copies that may still be written: those of one epoch are one owner's, and a copy of the
present epoch is the durable value. -/
structure Fenced (epoch : V → ε) (copies : ι → Option V) (durable : Option V) : Prop where
  apart : ∀ i k v u, copies i = some v → copies k = some u → epoch v = epoch u → i = k
  current : ∀ i v d, copies i = some v → durable = some d → epoch v = epoch d → v = d

namespace Fenced
variable {epoch : V → ε} {copies : ι → Option V} {durable : Option V} {i : ι} {v u d : V}

omit [DecidableEq ι] in
theorem none (epoch : V → ε) (durable : Option V) : Fenced epoch (fun _ : ι => .none) durable :=
  ⟨fun _ _ _ _ h => (by cases h), fun _ _ _ h => (by cases h)⟩

/-- An owner that stops leaves the others as they were. -/
theorem drop (h : Fenced epoch copies durable) (i : ι) :
    Fenced epoch (Function.update copies i .none) durable := by
  have hsub : ∀ k v, Function.update copies i .none k = some v → copies k = some v := by
    intro k v hk
    by_cases hki : k = i
    · rw [hki, Function.update_self] at hk
      cases hk
    · rwa [Function.update_of_ne hki] at hk
  exact ⟨fun k l v u hk hl => h.apart k l v u (hsub k v hk) (hsub l u hl),
    fun k v d hk => h.current k v d (hsub k v hk)⟩

/-- The owner of the present epoch writes and keeps what it wrote. -/
theorem write (h : Fenced epoch copies (some d)) (hi : copies i = some v)
    (hu : epoch u = epoch v) :
    Fenced epoch (Function.update copies i (some u)) (some u) := by
  have hothers : ∀ k w, k ≠ i → copies k = some w → epoch w ≠ epoch u := by
    intro k w hne hk heq
    exact hne (h.apart k i w v hk hi (heq.trans hu))
  refine ⟨fun k l x y hk hl hxy => ?_, fun k x y hk hy hxy => ?_⟩
  · by_cases hki : k = i
    · by_cases hli : l = i
      · exact hki.trans hli.symm
      · rw [hki, Function.update_self] at hk
        rw [Function.update_of_ne hli] at hl
        cases hk
        exact absurd hxy.symm (hothers l y hli hl)
    · rw [Function.update_of_ne hki] at hk
      by_cases hli : l = i
      · rw [hli, Function.update_self] at hl
        cases hl
        exact absurd hxy (hothers k x hki hk)
      · rw [Function.update_of_ne hli] at hl
        exact h.apart k l x y hk hl hxy
  · cases hy
    by_cases hki : k = i
    · rw [hki, Function.update_self] at hk
      exact (Option.some.inj hk).symm
    · rw [Function.update_of_ne hki] at hk
      exact absurd hxy (hothers k x hki hk)

/-- It writes and does not hear of it: its copy may not be written again. -/
theorem write_lost (h : Fenced epoch copies (some d)) (hi : copies i = some v)
    (hu : epoch u = epoch v) :
    Fenced epoch (Function.update copies i .none) (some u) := by
  have hwritten := (h.write hi hu).drop i
  rwa [Function.update_idem] at hwritten

/-- The value is taken over under a new epoch. -/
theorem take (h : Fenced epoch copies durable)
    (hfresh : ∀ k w, copies k = some w → epoch w ≠ epoch u) :
    Fenced epoch (Function.update copies i (some u)) (some u) := by
  have hne : ∀ k w, Function.update copies i (some u) k = some w → epoch w = epoch u → k = i := by
    intro k w hk heq
    by_contra hki
    rw [Function.update_of_ne hki] at hk
    exact hfresh k w hk heq
  refine ⟨fun k l x y hk hl hxy => ?_, fun k x y hk hy hxy => ?_⟩
  · by_cases hki : k = i
    · rw [hki, Function.update_self] at hk
      cases hk
      exact hki.trans (hne l y hl hxy.symm).symm
    · by_cases hli : l = i
      · rw [hli, Function.update_self] at hl
        cases hl
        exact (hne k x hk hxy).trans hli.symm
      · rw [Function.update_of_ne hki] at hk
        rw [Function.update_of_ne hli] at hl
        exact h.apart k l x y hk hl hxy
  · cases hy
    have hki := hne k x hk hxy
    rw [hki, Function.update_self] at hk
    exact (Option.some.inj hk).symm

/-- It is taken over by an owner that is not heard of again. -/
theorem take_lost (h : Fenced epoch copies durable) (hi : copies i = .none)
    (hfresh : ∀ k w, copies k = some w → epoch w ≠ epoch u) : Fenced epoch copies (some u) := by
  have htaken : Fenced epoch (Function.update copies i (some u)) (some u) := h.take hfresh
  have hdropped := htaken.drop i
  rwa [Function.update_idem, Function.update_eq_self_iff.mpr hi.symm] at hdropped

end Fenced

end Fencing
