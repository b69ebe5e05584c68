import FrameNest.Concurrent.System

/-! Reasoning about one program among others: what the others may do between two of its
calls (rely), what its own calls do (guarantee), and the world in which every caller keeps
to its part. -/
namespace Concurrent
variable {ι E σ ε α β γ κ : Type} {R : E → Type}

/-- The parts of the callers: an invariant they share, and for each role the changes it
suffers and the changes it makes. -/
structure Roles (σ γ : Type) where
  inv : σ → Prop
  rely : γ → σ → σ → Prop
  guar : γ → σ → σ → Prop

/-- From the state its last call left, whatever the others do within `rely`, every call of
the program keeps the invariant and stays within `guar`, and `Q` holds where it ends. -/
def Secures (P : Protocol ι E R ε σ γ) (ρ : Roles σ γ) (g : γ) (Q : Except ε α → σ → Prop) :
    Program E R ε α → σ → Prop
  | .done a, s => Q (.ok a) s
  | .fail x, s => Q (.error x) s
  | .call e next, s => ∀ t, ρ.rely g s t → ρ.inv t → ∀ i, P.permits g i e t →
      ρ.inv (P.exec i e t).2 ∧ ρ.guar g t (P.exec i e t).2 ∧
        Secures P ρ g Q (next (P.exec i e t).1) (P.exec i e t).2

/-- An assertion that a caller may carry from one of its calls to the next. -/
structure Roles.Stable (ρ : Roles σ γ) (g : γ) (J : σ → Prop) : Prop where
  rely : ∀ s t, ρ.rely g s t → J s → J t
  guar : ∀ s t, ρ.inv s → ρ.guar g s t → J s → J t

namespace Secures
variable {P : Protocol ι E R ε σ γ} {ρ : Roles σ γ} {g : γ} {s : σ}

@[simp] theorem done_iff {Q : Except ε α → σ → Prop} {a : α} :
    Secures P ρ g Q (.done a) s ↔ Q (.ok a) s := Iff.rfl

@[simp] theorem fail_iff {Q : Except ε α → σ → Prop} {x : ε} :
    Secures P ρ g Q (.fail x) s ↔ Q (.error x) s := Iff.rfl

theorem mono {Q Q' : Except ε α → σ → Prop} (hQ : ∀ r t, Q r t → Q' r t) {p : Program E R ε α}
    (h : Secures P ρ g Q p s) : Secures P ρ g Q' p s := by
  induction p generalizing s with
  | done a => exact hQ _ _ h
  | fail x => exact hQ _ _ h
  | call e next ih =>
    intro t hrely hinv i hp
    obtain ⟨hinv', hguar, hnext⟩ := h t hrely hinv i hp
    exact ⟨hinv', hguar, ih _ hnext⟩

theorem bind {Q : Except ε β → σ → Prop} {p : Program E R ε α} {f : α → Program E R ε β}
    (h : Secures P ρ g (fun r t => match r with
      | .ok a => Secures P ρ g Q (f a) t
      | .error x => Q (.error x) t) p s) : Secures P ρ g Q (p >>= f) s := by
  induction p generalizing s with
  | done a => exact h
  | fail x => exact h
  | call e next ih =>
    intro t hrely hinv i hp
    obtain ⟨hinv', hguar, hnext⟩ := h t hrely hinv i hp
    exact ⟨hinv', hguar, ih _ hnext⟩

theorem rescue {Q : Except ε α → σ → Prop} {p : Program E R ε α} {handler : ε → Program E R ε α}
    (h : Secures P ρ g (fun r t => match r with
      | .ok a => Q (.ok a) t
      | .error x => Secures P ρ g Q (handler x) t) p s) :
    Secures P ρ g Q (p.rescue handler) s := by
  induction p generalizing s with
  | done a => exact h
  | fail x => exact h
  | call e next ih =>
    intro t hrely hinv i hp
    obtain ⟨hinv', hguar, hnext⟩ := h t hrely hinv i hp
    exact ⟨hinv', hguar, ih _ hnext⟩

theorem ite {Q : Except ε α → σ → Prop} {c : Prop} [Decidable c] {p q : Program E R ε α}
    (hp : c → Secures P ρ g Q p s) (hq : ¬c → Secures P ρ g Q q s) :
    Secures P ρ g Q (if c then p else q) s := by
  by_cases hc : c
  · simpa [hc] using hp hc
  · simpa [hc] using hq hc

theorem perform {e : E} {Q : Except ε (R e) → σ → Prop}
    (h : ∀ t, ρ.rely g s t → ρ.inv t → ∀ i, P.permits g i e t →
      ρ.inv (P.exec i e t).2 ∧ ρ.guar g t (P.exec i e t).2 ∧
        Q (P.exec i e t).1 (P.exec i e t).2) :
    Secures P ρ g Q (Program.perform e) s := by
  intro t hrely hinv i hp
  obtain ⟨hinv', hguar, hQ⟩ := h t hrely hinv i hp
  refine ⟨hinv', hguar, ?_⟩
  cases hr : (P.exec i e t).1 with
  | ok a =>
    rw [hr] at hQ
    exact hQ
  | error x =>
    rw [hr] at hQ
    exact hQ

/-- A call and what follows it, by its answer. -/
theorem perform_bind {e : E} {Q : Except ε β → σ → Prop} {f : R e → Program E R ε β}
    (h : ∀ t, ρ.rely g s t → ρ.inv t → ∀ i, P.permits g i e t →
      ρ.inv (P.exec i e t).2 ∧ ρ.guar g t (P.exec i e t).2 ∧
        (∀ a, (P.exec i e t).1 = .ok a → Secures P ρ g Q (f a) (P.exec i e t).2) ∧
        ∀ x, (P.exec i e t).1 = .error x → Q (.error x) (P.exec i e t).2) :
    Secures P ρ g Q (Program.perform e >>= f) s := by
  refine bind (perform fun t hrely hinv i hp => ?_)
  obtain ⟨hinv', hguar, hok, herror⟩ := h t hrely hinv i hp
  refine ⟨hinv', hguar, ?_⟩
  cases hr : (P.exec i e t).1 with
  | ok a => exact hok a hr
  | error x => exact herror x hr

/-- What neither the others nor the program's own calls undo is there at the end. -/
theorem frame {Q : Except ε α → σ → Prop} {J : σ → Prop} {p : Program E R ε α}
    (hJ : ρ.Stable g J) (hs : J s) (h : Secures P ρ g Q p s) :
    Secures P ρ g (fun r t => Q r t ∧ J t) p s := by
  induction p generalizing s with
  | done a => exact ⟨h, hs⟩
  | fail x => exact ⟨h, hs⟩
  | call e next ih =>
    intro t hrely hinv i hp
    obtain ⟨hinv', hguar, hnext⟩ := h t hrely hinv i hp
    exact ⟨hinv', hguar, ih _ (hJ.guar _ _ hinv hguar (hJ.rely _ _ hrely hs)) hnext⟩

/-- Two programs in a row, with what the first leaves alone. -/
theorem bind_frame {J : σ → Prop} {Q' : Except ε α → σ → Prop} {Q : Except ε β → σ → Prop}
    {p : Program E R ε α} {f : α → Program E R ε β} (hJ : ρ.Stable g J) (hs : J s)
    (h : Secures P ρ g Q' p s) (hok : ∀ a t, Q' (.ok a) t → J t → Secures P ρ g Q (f a) t)
    (herror : ∀ x t, Q' (.error x) t → J t → Q (.error x) t) : Secures P ρ g Q (p >>= f) s := by
  refine bind (mono (fun r t ht => ?_) (frame hJ hs h))
  cases r with
  | ok a => exact hok a t ht.1 ht.2
  | error x => exact herror x t ht.1 ht.2

end Secures

/-- Callers whose roles fit together: what one guarantees is what the others rely on. -/
structure Cooperation (Y : System κ ι E R ε σ γ α) (ρ : Roles σ γ)
    (Q : γ → Except ε α → σ → Prop) (A : γ → γ → Prop) : Prop where
  rely_refl : ∀ g s, ρ.rely g s s
  rely_trans : ∀ g s t u, ρ.rely g s t → ρ.rely g t u → ρ.rely g s u
  within : ∀ g g' s t, A g g' → ρ.inv s → ρ.inv t → ρ.guar g s t → ρ.rely g' s t
  symm : ∀ g g', A g g' → A g' g
  role : ∀ g s e r, Y.note g s e r = g
  newcomer : ∀ threads c, Y.mayStart threads c = true → ∀ t ∈ threads, A (Y.memory c) t.memory
  secures : ∀ c s, ρ.inv s → Secures Y.toProtocol ρ (Y.memory c) (Q (Y.memory c)) (Y.program c) s

/-- Every thread is secure from the state its last call left. -/
structure Cooperative (Y : System κ ι E R ε σ γ α) (ρ : Roles σ γ)
    (Q : γ → Except ε α → σ → Prop) (A : γ → γ → Prop) (w : World E R ε σ γ α) : Prop where
  state : ρ.inv w.state
  threads : ∀ t ∈ w.threads, ∃ s, ρ.rely t.memory s w.state ∧
    Secures Y.toProtocol ρ t.memory (Q t.memory) t.program s
  apart : Apart A w.threads

section Runs
variable {Y : System κ ι E R ε σ γ α} {ρ : Roles σ γ} {Q : γ → Except ε α → σ → Prop}
  {A : γ → γ → Prop} {w w' : World E R ε σ γ α}

theorem Cooperative.init {s : σ} (h : ρ.inv s) : Cooperative Y ρ Q A ⟨s, []⟩ :=
  ⟨h, by simp, fun _ _ _ _ _ hm _ => by simp at hm⟩

/-- What one step can do to the shared state: nothing, or one call within a guarantee. -/
theorem Cooperative.step (hY : Cooperation Y ρ Q A) (hw : Cooperative Y ρ Q A w)
    (h : Step Y w w') : Cooperative Y ρ Q A w' ∧
      (w'.state = w.state ∨ ∃ t ∈ w.threads, ρ.guar t.memory w.state w'.state) := by
  cases h with
  | start c hs =>
    refine ⟨⟨hw.state, fun t ht => ?_, hw.apart.append hY.symm (hY.newcomer _ c hs)⟩, Or.inl rfl⟩
    obtain ht | ht := List.mem_append.mp ht
    · exact hw.threads t ht
    · rw [List.mem_singleton.mp ht]
      exact ⟨w.state, hY.rely_refl _ _, hY.secures c w.state hw.state⟩
  | call n i g e next hn hp =>
    obtain ⟨s, hrely, hsecure⟩ := hw.threads _ (List.mem_of_getElem? hn)
    obtain ⟨hinv, hguar, hnext⟩ := hsecure w.state hrely hw.state i hp
    have hrole : Y.note g w.state e (Y.exec i e w.state).1 = g := hY.role _ _ _ _
    refine ⟨⟨hinv, fun t ht => ?_, ?_⟩, Or.inr ⟨_, List.mem_of_getElem? hn, hguar⟩⟩
    · obtain ⟨m, hm⟩ := List.mem_iff_getElem?.mp ht
      rw [List.getElem?_set] at hm
      by_cases hnm : n = m
      · rw [if_pos hnm] at hm
        split at hm
        · cases hm
          refine ⟨(Y.exec i e w.state).2, hY.rely_refl _ _, ?_⟩
          simp only [hrole]
          exact hnext
        · cases hm
      · rw [if_neg hnm] at hm
        obtain ⟨s', hrely', hsecure'⟩ := hw.threads t (List.mem_of_getElem? hm)
        have hA : A g t.memory := hw.apart n m _ t hnm hn hm
        exact ⟨s', hY.rely_trans _ _ _ _ hrely'
          (hY.within g t.memory _ _ hA hw.state hinv hguar), hsecure'⟩
    · refine hw.apart.set hY.symm fun m t hne hm => ?_
      simp only [hrole]
      exact hw.apart n m _ t (Ne.symm hne) hn hm
  | crash hc => exact ⟨Cooperative.init hw.state, Or.inl rfl⟩

theorem Cooperative.steps (hY : Cooperation Y ρ Q A) (hw : Cooperative Y ρ Q A w)
    (h : Relation.ReflTransGen (Step Y) w w') : Cooperative Y ρ Q A w' := by
  induction h with
  | refl => exact hw
  | tail _ hstep ih => exact (ih.step hY hstep).1

theorem Reachable.cooperative (hY : Cooperation Y ρ Q A) {s : σ} (hs : ρ.inv s)
    (h : Reachable Y s w) : Cooperative Y ρ Q A w :=
  (Cooperative.init hs).steps hY h

end Runs
end Concurrent
