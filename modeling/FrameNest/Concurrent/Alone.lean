import FrameNest.Concurrent.RelyGuarantee
import FrameNest.Concurrent.Sequential

/-! One program with nobody beside it: what its calls keep, what each of them may change,
and what holds where it ends, however early it is cut. -/
namespace Concurrent
variable {ι E σ ε α β γ : Type} {R : E → Type}

/-- The role of a caller that nobody disturbs. -/
def alone (inv : σ → Prop) (guar : σ → σ → Prop) : Roles σ γ :=
  ⟨inv, fun _ s t => s = t, fun _ => guar⟩

namespace Secures
variable {P : Protocol ι E R ε σ γ} {inv : σ → Prop} {guar : σ → σ → Prop} {g : γ} {s : σ}

/-- A call made alone, and what follows it, by its answer. -/
theorem alone_bind {e : E} {Q : Except ε β → σ → Prop} {f : R e → Program E R ε β}
    (h : inv s → ∀ i, P.permits g i e s →
      inv (P.exec i e s).2 ∧ guar s (P.exec i e s).2 ∧
        (∀ a, (P.exec i e s).1 = .ok a → Secures P (alone inv guar) g Q (f a) (P.exec i e s).2) ∧
        ∀ x, (P.exec i e s).1 = .error x → Q (.error x) (P.exec i e s).2) :
    Secures P (alone inv guar) g Q (Program.perform e >>= f) s := by
  refine perform_bind fun t hrely hinv i hp => ?_
  have hst : s = t := hrely
  subst hst
  exact h hinv i hp

theorem alone_perform {e : E} {Q : Except ε (R e) → σ → Prop}
    (h : inv s → ∀ i, P.permits g i e s →
      inv (P.exec i e s).2 ∧ guar s (P.exec i e s).2 ∧ Q (P.exec i e s).1 (P.exec i e s).2) :
    Secures P (alone inv guar) g Q (Program.perform e) s := by
  refine perform fun t hrely hinv i hp => ?_
  have hst : s = t := hrely
  subst hst
  exact h hinv i hp

/-- A first program and what follows it, by its result. -/
theorem alone_seq {Q' : Except ε α → σ → Prop} {Q : Except ε β → σ → Prop}
    {ρ : Roles σ γ} {p : Program E R ε α} {f : α → Program E R ε β}
    (h : Secures P ρ g Q' p s) (hok : ∀ a t, Q' (.ok a) t → Secures P ρ g Q (f a) t)
    (herror : ∀ x t, Q' (.error x) t → Q (.error x) t) : Secures P ρ g Q (p >>= f) s := by
  refine bind (mono (fun r t ht => ?_) h)
  cases r with
  | ok a => exact hok a t ht
  | error x => exact herror x t ht

/-- A program whose error is handled, by the error. -/
theorem alone_rescue {Q' Q : Except ε α → σ → Prop} {ρ : Roles σ γ} {p : Program E R ε α}
    {handler : ε → Program E R ε α} (h : Secures P ρ g Q' p s)
    (hok : ∀ a t, Q' (.ok a) t → Q (.ok a) t)
    (herror : ∀ x t, Q' (.error x) t → Secures P ρ g Q (handler x) t) :
    Secures P ρ g Q (p.rescue handler) s := by
  refine rescue (mono (fun r t ht => ?_) h)
  cases r with
  | ok a => exact hok a t ht
  | error x => exact herror x t ht

/-- The invariant holds where the program ends. -/
theorem alone_keeps {Q : Except ε α → σ → Prop} {p : Program E R ε α} (hinv : inv s)
    (h : Secures P (alone inv guar) g Q p s) :
    Secures P (alone inv guar) g (fun r t => Q r t ∧ inv t) p s := by
  induction p generalizing s with
  | done a => exact ⟨h, hinv⟩
  | fail x => exact ⟨h, hinv⟩
  | call e next ih =>
    intro t hrely ht i hp
    obtain ⟨hinv', hguar, hnext⟩ := h t hrely ht i hp
    exact ⟨hinv', hguar, ih _ hinv' hnext⟩

/-- A weaker invariant and a weaker guarantee, from a state in which the stronger one holds. -/
theorem alone_weaken {inv' : σ → Prop} {guar' : σ → σ → Prop} {Q : Except ε α → σ → Prop}
    {p : Program E R ε α} (hweak : ∀ t, inv t → inv' t)
    (hguar : ∀ t u, inv t → inv u → guar t u → guar' t u) (hinv : inv s)
    (h : Secures P (alone inv guar) g Q p s) : Secures P (alone inv' guar') g Q p s := by
  induction p generalizing s with
  | done a => exact h
  | fail x => exact h
  | call e next ih =>
    intro t hrely _ i hp
    have hst : s = t := hrely
    subst hst
    obtain ⟨hinv', hstep, hnext⟩ := h s rfl hinv i hp
    exact ⟨hweak _ hinv', hguar _ _ hinv hinv' hstep, ih _ hinv' hnext⟩

/-- What every allowed call keeps, a program that makes only such calls keeps. -/
theorem alone_obeys {J : σ → Prop} {may : γ → E → Prop} {Q : γ → Except ε α → Prop}
    (hnote : ∀ g s e r, P.note g s e r = g)
    (hstep : ∀ e t i, may g e → inv t → J t → P.permits g i e t →
      inv (P.exec i e t).2 ∧ guar t (P.exec i e t).2 ∧ J (P.exec i e t).2)
    {p : Program E R ε α} (h : Obeys (P.withMay may) Q p g) (hs : J s) :
    Secures P (alone inv guar) g (fun _ t => J t) p s := by
  induction p generalizing s with
  | done a => exact hs
  | fail x => exact hs
  | call e next ih =>
    intro t hrely hinv i hp
    have hst : s = t := hrely
    subst hst
    obtain ⟨hinv', hguar, hJ⟩ := hstep e s i h.1 hinv hs hp
    have hnext : Obeys (P.withMay may) Q (next (P.exec i e s).1) (P.note g s e (P.exec i e s).1) :=
      h.2 i s hp
    rw [hnote] at hnext
    exact ⟨hinv', hguar, ih _ hnext hJ⟩

/-- The invariant holds however early the run is cut, and where it ends so does `Q`. -/
theorem alone_run {Q : Except ε α → σ → Prop} (hnote : ∀ g s e r, P.note g s e r = g)
    {p : Program E R ε α} (h : Secures P (alone inv guar) g Q p s) (hinv : inv s) (is : List ι)
    (hperm : Permitted P is p g s) :
    inv (Program.run P.exec is p s).2 ∧
      Secures P (alone inv guar) g Q (Program.run P.exec is p s).1
        (Program.run P.exec is p s).2 := by
  induction is generalizing p s with
  | nil => simpa using ⟨hinv, h⟩
  | cons i is ih =>
    cases p with
    | done a => simpa using ⟨hinv, h⟩
    | fail x => simpa using ⟨hinv, h⟩
    | call e next =>
      obtain ⟨hinv', -, hnext⟩ := h s rfl hinv i hperm.1
      have hrest := hperm.2
      rw [hnote] at hrest
      rw [Program.run_call]
      exact ih hnext hinv' hrest

/-- One more call of a run that was cut changes the state within the guarantee. -/
theorem alone_step {Q : Except ε α → σ → Prop} (hrefl : ∀ t, guar t t) {p : Program E R ε α}
    (h : Secures P (alone inv guar) g Q p s) (hinv : inv s) (i : ι)
    (hperm : ∀ e t, P.permits g i e t) : guar s (Program.run P.exec [i] p s).2 := by
  cases p with
  | done a => simpa using hrefl s
  | fail x => simpa using hrefl s
  | call e next =>
    rw [Program.run_call, Program.run_nil]
    exact (h s rfl hinv i (hperm e s)).2.1

end Secures

/-- Given the answers of any stream, a program comes to its end. -/
theorem Program.run_settles (exec : ι → (e : E) → σ → Except ε (R e) × σ) (stream : Nat → ι)
    (p : Program E R ε α) (s : σ) :
    ∃ n, (Program.run exec ((List.range n).map stream) p s).1.settled = true := by
  induction p generalizing stream s with
  | done a => exact ⟨0, rfl⟩
  | fail x => exact ⟨0, rfl⟩
  | call e next ih =>
    obtain ⟨n, hn⟩ := ih (exec (stream 0) e s).1 (fun m => stream (m + 1)) (exec (stream 0) e s).2
    refine ⟨n + 1, ?_⟩
    rw [List.range_succ_eq_map, List.map_cons, List.map_map, Program.run_call]
    exact hn

end Concurrent
