import FrameNest.Concurrent.System

/-! What a program can call, read off its text: the calls it makes and the results it
returns when its calls are answered as assumed. -/
namespace Concurrent
variable {ι E σ ε α β γ : Type} {R : E → Type}

/-- Every call is allowed and every result satisfies `Q`, whatever calls answer within
`answers`. -/
def Issues (answers : (e : E) → R e → Prop) (allowed : E → Prop) (Q : α → Prop) :
    Program E R ε α → Prop
  | .done a => Q a
  | .fail _ => True
  | .call e next => allowed e ∧ (∀ x, Issues answers allowed Q (next (.error x))) ∧
      ∀ a, answers e a → Issues answers allowed Q (next (.ok a))

namespace Issues
variable {answers answers' : (e : E) → R e → Prop} {allowed allowed' : E → Prop}

@[simp] theorem done_iff {Q : α → Prop} {a : α} :
    Issues answers allowed Q (.done a : Program E R ε α) ↔ Q a := Iff.rfl

@[simp] theorem fail {Q : α → Prop} (x : ε) :
    Issues answers allowed Q (.fail x : Program E R ε α) := trivial

theorem bind {Q : α → Prop} {Q' : β → Prop} {p : Program E R ε α} {f : α → Program E R ε β}
    (h : Issues answers allowed Q p) (hf : ∀ a, Q a → Issues answers allowed Q' (f a)) :
    Issues answers allowed Q' (p >>= f) := by
  induction p with
  | done a => exact hf a h
  | fail x => trivial
  | call e next ih => exact ⟨h.1, fun x => ih _ (h.2.1 x), fun a ha => ih _ (h.2.2 a ha)⟩

theorem rescue {Q : α → Prop} {p : Program E R ε α} {handler : ε → Program E R ε α}
    (h : Issues answers allowed Q p) (hx : ∀ x, Issues answers allowed Q (handler x)) :
    Issues answers allowed Q (p.rescue handler) := by
  induction p with
  | done a => exact h
  | fail x => exact hx x
  | call e next ih => exact ⟨h.1, fun x => ih _ (h.2.1 x), fun a ha => ih _ (h.2.2 a ha)⟩

theorem ite {Q : α → Prop} {c : Prop} [Decidable c] {p q : Program E R ε α}
    (hp : c → Issues answers allowed Q p) (hq : ¬c → Issues answers allowed Q q) :
    Issues answers allowed Q (if c then p else q) := by
  by_cases hc : c
  · simpa [hc] using hp hc
  · simpa [hc] using hq hc

theorem perform {e : E} {Q : R e → Prop} (he : allowed e) (hQ : ∀ a, answers e a → Q a) :
    Issues answers allowed Q (Program.perform e : Program E R ε (R e)) :=
  ⟨he, fun _ => trivial, fun a ha => hQ a ha⟩

theorem attempt {e : E} {Q : Except ε (R e) → Prop} (he : allowed e) (hQ : ∀ r, Q r) :
    Issues answers allowed Q (Program.attempt e : Program E R ε (Except ε (R e))) :=
  ⟨he, fun _ => hQ _, fun _ _ => hQ _⟩

theorem mono {Q Q' : α → Prop} (hQ : ∀ a, Q a → Q' a) (hallowed : ∀ e, allowed e → allowed' e)
    (hanswers : ∀ e a, answers' e a → answers e a) {p : Program E R ε α}
    (h : Issues answers allowed Q p) : Issues answers' allowed' Q' p := by
  induction p with
  | done a => exact hQ a h
  | fail x => trivial
  | call e next ih =>
    exact ⟨hallowed e h.1, fun x => ih _ (h.2.1 x), fun a ha => ih _ (h.2.2 a (hanswers e a ha))⟩

/-- In a protocol whose memories `J` only see such answers, the program obeys. -/
theorem obeys {P : Protocol ι E R ε σ γ} {J : γ → Prop}
    (hnote : ∀ g s e r, J g → J (P.note g s e r))
    (hanswers : ∀ g i e s a, J g → P.permits g i e s → (P.exec i e s).1 = .ok a → answers e a)
    (hmay : ∀ g e, J g → allowed e → P.may g e) {Q : α → Prop} {p : Program E R ε α} {g : γ}
    (h : Issues answers allowed Q p) (hg : J g) :
    Obeys P (fun g' r => J g' ∧ ∀ a, r = .ok a → Q a) p g := by
  induction p generalizing g with
  | done a =>
    refine ⟨hg, fun b hb => ?_⟩
    cases hb
    exact h
  | fail x =>
    refine ⟨hg, fun b hb => ?_⟩
    cases hb
  | call e next ih =>
    refine ⟨hmay g e hg h.1, fun i s hp => ?_⟩
    cases hr : (P.exec i e s).1 with
    | error x => exact ih _ (h.2.1 x) (hnote _ _ _ _ hg)
    | ok a => exact ih _ (h.2.2 a (hanswers g i e s a hg hp hr)) (hnote _ _ _ _ hg)

end Issues
end Concurrent

/-! A system watched from outside: each call is answered through a translation of its
environment, and a record of what was seen is kept beside the shared state. Nothing the
programs do depends on the record. -/
namespace Concurrent
variable {ι ι' E σ ρ ε α γ κ : Type} {R : E → Type}

/- The watched system. `permits` may look at the record; the programs cannot. -/
def System.recording (Y : System κ ι E R ε σ γ α) (translate : ι' → E → ι)
    (record : ι' → E → σ → ρ → ρ) (permits : γ → ι' → E → σ × ρ → Prop) :
    System κ ι' E R ε (σ × ρ) γ α where
  exec i e s := ((Y.exec (translate i e) e s.1).1,
    (Y.exec (translate i e) e s.1).2, record i e s.1 s.2)
  note g s e r := Y.note g s.1 e r
  permits g i e s := Y.permits g (translate i e) e s.1 ∧ permits g i e s
  may := Y.may
  program := Y.program
  memory := Y.memory
  mayStart := Y.mayStart
  mayCrash := Y.mayCrash

variable {Y : System κ ι E R ε σ γ α} {translate : ι' → E → ι} {record : ι' → E → σ → ρ → ρ}
  {permits : γ → ι' → E → σ × ρ → Prop}

/-- A program that obeys for the answers the translation can give obeys when watched. -/
theorem Obeys.recording {narrow : γ → ι → E → σ → Prop} {Q : γ → Except ε α → Prop}
    (hnarrow : ∀ g i e s, permits g i e s → narrow g (translate i e) e s.1)
    {p : Program E R ε α} {g : γ} (h : Obeys { Y.toProtocol with permits := narrow } Q p g) :
    Obeys (Y.recording translate record permits).toProtocol Q p g := by
  induction p generalizing g with
  | done a => exact h
  | fail x => exact h
  | call e next ih =>
    exact ⟨h.1, fun i s hp => ih _ (h.2 (translate i e) s.1 (hnarrow g i e s hp.2))⟩

/-- What holds of every run holds of every watched run. -/
theorem Interference.recording {I : σ → Prop} {T : γ → σ → Prop} {A : γ → γ → Prop}
    (h : Interference Y I T A) : Interference (Y.recording translate record permits)
      (fun s => I s.1) (fun g s => T g s.1) A where
  start c s hI := h.start c s.1 hI
  state g i e s hI hT hm hp := h.state g (translate i e) e s.1 hI hT hm hp.1
  own g i e s hI hT hm hp := h.own g (translate i e) e s.1 hI hT hm hp.1
  other g g' i e s hI hT hT' hA hm hp :=
    h.other g g' (translate i e) e s.1 hI hT hT' hA hm hp.1
  symm := h.symm
  newcomer c g s hI hT := h.newcomer c g s.1 hI hT
  apart g g' i e s hI hT hT' hA hm hp :=
    h.apart g g' (translate i e) e s.1 hI hT hT' hA hm hp.1

end Concurrent
