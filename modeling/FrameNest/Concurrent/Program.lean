import Mathlib.Logic.Basic

/-! Programs whose only access to shared state is a sequence of atomic calls.
One environment value settles one call, so a run is a function of the list of
environments; a list that ends early leaves the rest of the program unrun,
which is what a crash between two calls leaves behind. -/
namespace Concurrent
variable {ι E σ ε α β γ : Type} {R : E → Type}

inductive Program (E : Type) (R : E → Type) (ε α : Type) where
  | done (value : α)
  | fail (error : ε)
  | call (effect : E) (next : Except ε (R effect) → Program E R ε α)

namespace Program

def bind : Program E R ε α → (α → Program E R ε β) → Program E R ε β
  | .done a, f => f a
  | .fail x, _ => .fail x
  | .call e next, f => .call e fun r => (next r).bind f

instance : Monad (Program E R ε) where
  pure := .done
  bind := bind

/- A call whose error ends the program, and the same call inside a `try`. -/
def perform (e : E) : Program E R ε (R e) :=
  .call e fun
    | .ok value => .done value
    | .error x => .fail x

def attempt (e : E) : Program E R ε (Except ε (R e)) := .call e .done

/-- `try: p except ..: handler`, wherever in `p` the error comes up. -/
def rescue : Program E R ε α → (ε → Program E R ε α) → Program E R ε α
  | .done a, _ => .done a
  | .fail x, handler => handler x
  | .call e next, handler => .call e fun r => (next r).rescue handler

def settled : Program E R ε α → Bool
  | .call _ _ => false
  | _ => true

@[simp] theorem pure_eq (a : α) : (pure a : Program E R ε α) = .done a := rfl

@[simp] theorem done_bind (a : α) (f : α → Program E R ε β) :
    (Program.done a >>= f) = f a := rfl

@[simp] theorem fail_bind (x : ε) (f : α → Program E R ε β) :
    (Program.fail x >>= f) = .fail x := rfl

@[simp] theorem call_bind (e : E) (next : Except ε (R e) → Program E R ε α)
    (f : α → Program E R ε β) :
    (Program.call e next >>= f) = .call e fun r => next r >>= f := rfl

@[simp] theorem rescue_done (a : α) (handler : ε → Program E R ε α) :
    (Program.done a : Program E R ε α).rescue handler = .done a := rfl

@[simp] theorem rescue_fail (x : ε) (handler : ε → Program E R ε α) :
    (Program.fail x : Program E R ε α).rescue handler = handler x := rfl

@[simp] theorem rescue_call (e : E) (next : Except ε (R e) → Program E R ε α)
    (handler : ε → Program E R ε α) :
    (Program.call e next).rescue handler = .call e fun r => (next r).rescue handler := rfl

theorem bind_assoc (p : Program E R ε α) (f : α → Program E R ε β) (k : β → Program E R ε γ) :
    p >>= f >>= k = p >>= fun a => f a >>= k := by
  induction p with
  | done a => rfl
  | fail x => rfl
  | call e next ih => exact congrArg (Program.call e) (funext fun r => ih r)

def run (exec : ι → (e : E) → σ → Except ε (R e) × σ) :
    List ι → Program E R ε α → σ → Program E R ε α × σ
  | i :: is, .call e next, s => run exec is (next (exec i e s).1) (exec i e s).2
  | _, p, s => (p, s)

variable {exec : ι → (e : E) → σ → Except ε (R e) × σ}

@[simp] theorem run_nil (p : Program E R ε α) (s : σ) : run exec [] p s = (p, s) := by
  cases p <;> rfl

@[simp] theorem run_done (is : List ι) (a : α) (s : σ) :
    run exec is (Program.done a : Program E R ε α) s = (.done a, s) := by
  cases is <;> rfl

@[simp] theorem run_fail (is : List ι) (x : ε) (s : σ) :
    run exec is (Program.fail x : Program E R ε α) s = (.fail x, s) := by
  cases is <;> rfl

@[simp] theorem run_call (i : ι) (is : List ι) (e : E)
    (next : Except ε (R e) → Program E R ε α) (s : σ) :
    run exec (i :: is) (.call e next) s =
      run exec is (next (exec i e s).1) (exec i e s).2 := rfl

theorem run_append (is js : List ι) (p : Program E R ε α) (s : σ) :
    run exec (is ++ js) p s = run exec js (run exec is p s).1 (run exec is p s).2 := by
  induction is generalizing p s with
  | nil => simp
  | cons i is ih =>
    cases p with
    | done a => simp
    | fail x => simp
    | call e next => simpa using ih _ _

/-- One call of a run, when its answer is known. -/
theorem run_perform {is : List ι} {e : E} {f : R e → Program E R ε α} {i : ι} {s t : σ} {r : R e}
    (h : exec i e s = (.ok r, t)) :
    run exec (i :: is) (perform e >>= f) s = run exec is (f r) t := by
  simp [perform, h]

theorem run_perform_error {is : List ι} {e : E} {f : R e → Program E R ε α} {i : ι} {s t : σ}
    {x : ε} (h : exec i e s = (.error x, t)) :
    run exec (i :: is) (perform e >>= f) s = (.fail x, t) := by
  simp [perform, h]

/-- The same inside a `try`, whose handler it does not reach. -/
theorem run_perform_rescue {is : List ι} {e : E} {handler : ε → Program E R ε (R e)}
    {f : R e → Program E R ε α} {i : ι} {s t : σ} {r : R e} (h : exec i e s = (.ok r, t)) :
    run exec (i :: is) ((perform e).rescue handler >>= f) s = run exec is (f r) t := by
  simp [perform, h]

theorem run_attempt {is : List ι} {e : E} {f : Except ε (R e) → Program E R ε α} {i : ι}
    {s t : σ} {r : Except ε (R e)} (h : exec i e s = (r, t)) :
    run exec (i :: is) (attempt e >>= f) s = run exec is (f r) t := by
  simp [attempt, h]

/-- A run that ends well has made its next call, and the call succeeded. -/
theorem run_perform_done {is : List ι} {e : E} {f : R e → Program E R ε α} {s s' : σ} {a : α}
    (h : run exec is (perform e >>= f) s = (.done a, s')) :
    ∃ i js r, is = i :: js ∧ (exec i e s).1 = .ok r ∧
      run exec js (f r) (exec i e s).2 = (.done a, s') := by
  cases is with
  | nil => cases h
  | cons i js =>
    have hrun : run exec js ((match (exec i e s).1 with
        | .ok value => Program.done value
        | .error x => .fail x) >>= f) (exec i e s).2 = (.done a, s') := h
    cases hr : (exec i e s).1 with
    | error x =>
      rw [hr] at hrun
      simp at hrun
    | ok r =>
      rw [hr] at hrun
      exact ⟨i, js, r, rfl, hr, hrun⟩

end Program

/- What a caller may do, judged from what it remembers of its own calls. `permits`
   narrows the runs looked at; `note` is the memory after one answered call. -/
structure Protocol (ι E : Type) (R : E → Type) (ε σ γ : Type) where
  exec : ι → (e : E) → σ → Except ε (R e) × σ
  note : γ → σ → (e : E) → Except ε (R e) → γ
  permits : γ → ι → E → σ → Prop
  may : γ → E → Prop

/- The same protocol, with other calls allowed. -/
def Protocol.withMay (P : Protocol ι E R ε σ γ) (may : γ → E → Prop) : Protocol ι E R ε σ γ :=
  { P with may }

/-- Every call the program can ever issue is one it may issue, whatever the
shared state answers, and `Q` holds of its memory and result at the end. -/
def Obeys (P : Protocol ι E R ε σ γ) (Q : γ → Except ε α → Prop) :
    Program E R ε α → γ → Prop
  | .done a, g => Q g (.ok a)
  | .fail x, g => Q g (.error x)
  | .call e next, g => P.may g e ∧ ∀ i s, P.permits g i e s →
      Obeys P Q (next (P.exec i e s).1) (P.note g s e (P.exec i e s).1)

namespace Obeys
variable {P : Protocol ι E R ε σ γ} {e : E}

@[simp] theorem done_iff {Q : γ → Except ε α → Prop} {a : α} {g : γ} :
    Obeys P Q (.done a) g ↔ Q g (.ok a) := Iff.rfl

@[simp] theorem fail_iff {Q : γ → Except ε α → Prop} {x : ε} {g : γ} :
    Obeys P Q (.fail x) g ↔ Q g (.error x) := Iff.rfl

theorem mono {Q Q' : γ → Except ε α → Prop} (hQ : ∀ g r, Q g r → Q' g r)
    {p : Program E R ε α} {g : γ} (h : Obeys P Q p g) : Obeys P Q' p g := by
  induction p generalizing g with
  | done a => exact hQ _ _ h
  | fail x => exact hQ _ _ h
  | call e next ih => exact ⟨h.1, fun i s hp => ih _ (h.2 i s hp)⟩

theorem weaken {may : γ → E → Prop} (hmay : ∀ g e, may g e → P.may g e) {Q : γ → Except ε α → Prop}
    {p : Program E R ε α} {g : γ} (h : Obeys (P.withMay may) Q p g) : Obeys P Q p g := by
  induction p generalizing g with
  | done a => exact h
  | fail x => exact h
  | call e next ih => exact ⟨hmay _ _ h.1, fun i s hp => ih _ (h.2 i s hp)⟩

/-- What stays true of the memory may narrow what the program is known to call. -/
theorem strengthen {may : γ → E → Prop} {J : γ → Prop}
    (hJ : ∀ g s e r, J g → P.may g e → J (P.note g s e r))
    (hmay : ∀ g e, J g → P.may g e → may g e) {Q : γ → Except ε α → Prop} {p : Program E R ε α}
    {g : γ} (h : Obeys P Q p g) (hg : J g) : Obeys (P.withMay may) Q p g := by
  induction p generalizing g with
  | done a => exact h
  | fail x => exact h
  | call e next ih =>
    exact ⟨hmay _ _ hg h.1, fun i s hp => ih _ (h.2 i s hp) (hJ _ _ _ _ hg h.1)⟩

/-- Two readings of one program at once. -/
theorem both {may : γ → E → Prop} {Q Q' : γ → Except ε α → Prop} {p : Program E R ε α} {g : γ}
    (h : Obeys P Q p g) (h' : Obeys (P.withMay may) Q' p g) :
    Obeys (P.withMay fun g e => P.may g e ∧ may g e) (fun g r => Q g r ∧ Q' g r) p g := by
  induction p generalizing g with
  | done a => exact ⟨h, h'⟩
  | fail x => exact ⟨h, h'⟩
  | call e next ih => exact ⟨⟨h.1, h'.1⟩, fun i s hp => ih _ (h.2 i s hp) (h'.2 i s hp)⟩

/- The memory reached by the first program is the one the second starts from. -/
theorem bind {Q : γ → Except ε β → Prop} {p : Program E R ε α}
    {f : α → Program E R ε β} {g : γ}
    (h : Obeys P (fun g' r => match r with
      | .ok a => Obeys P Q (f a) g'
      | .error x => Q g' (.error x)) p g) : Obeys P Q (p >>= f) g := by
  induction p generalizing g with
  | done a => exact h
  | fail x => exact h
  | call e next ih => exact ⟨h.1, fun i s hp => ih _ (h.2 i s hp)⟩

theorem ite {Q : γ → Except ε α → Prop} {c : Prop} [Decidable c] {p q : Program E R ε α} {g : γ}
    (hp : c → Obeys P Q p g) (hq : ¬c → Obeys P Q q g) : Obeys P Q (if c then p else q) g := by
  by_cases hc : c
  · simpa [hc] using hp hc
  · simpa [hc] using hq hc

/- The handler starts from the memory the error left. -/
theorem rescue {Q : γ → Except ε α → Prop} {p : Program E R ε α} {handler : ε → Program E R ε α}
    {g : γ} (h : Obeys P (fun g' r => match r with
      | .ok a => Q g' (.ok a)
      | .error x => Obeys P Q (handler x) g') p g) : Obeys P Q (p.rescue handler) g := by
  induction p generalizing g with
  | done a => exact h
  | fail x => exact h
  | call e next ih => exact ⟨h.1, fun i s hp => ih _ (h.2 i s hp)⟩

/- What every answer leaves true of the memory is true of it at the end. -/
theorem keeps {J : γ → Prop} (hJ : ∀ g s e r, J g → P.may g e → J (P.note g s e r))
    {Q : γ → Except ε α → Prop} {p : Program E R ε α} {g : γ} (h : Obeys P Q p g) (hg : J g) :
    Obeys P (fun g' r => Q g' r ∧ J g') p g := by
  induction p generalizing g with
  | done a => exact ⟨h, hg⟩
  | fail x => exact ⟨h, hg⟩
  | call e next ih => exact ⟨h.1, fun i s hp => ih _ (h.2 i s hp) (hJ _ _ _ _ hg h.1)⟩

theorem perform_bind {Q : γ → Except ε α → Prop} {e : E} {f : R e → Program E R ε α} {g : γ}
    (hm : P.may g e) (h : ∀ i s, P.permits g i e s → match (P.exec i e s).1 with
      | .ok a => Obeys P Q (f a) (P.note g s e (P.exec i e s).1)
      | .error x => Q (P.note g s e (P.exec i e s).1) (.error x)) :
    Obeys P Q (Program.perform e >>= f) g := by
  refine ⟨hm, fun i s hp => ?_⟩
  have hr := h i s hp
  cases hx : (P.exec i e s).1 with
  | ok a => simp only [hx] at hr ⊢; exact hr
  | error x => simp only [hx] at hr ⊢; exact hr

theorem perform {Q : γ → Except ε (R e) → Prop} {g : γ} (hm : P.may g e)
    (h : ∀ i s, P.permits g i e s → Q (P.note g s e (P.exec i e s).1) (P.exec i e s).1) :
    Obeys P Q (Program.perform e) g := by
  refine ⟨hm, fun i s hp => ?_⟩
  have hQ := h i s hp
  cases hr : (P.exec i e s).1 with
  | ok a =>
    rw [hr] at hQ
    exact hQ
  | error x =>
    rw [hr] at hQ
    exact hQ

/-- A call of which nothing is known but that it answers. -/
theorem perform_any {Q : γ → Except ε α → Prop} {e : E} {f : R e → Program E R ε α} {g : γ}
    (hm : P.may g e) (hok : ∀ s a, Obeys P Q (f a) (P.note g s e (.ok a)))
    (herror : ∀ s x, Q (P.note g s e (.error x)) (.error x)) :
    Obeys P Q (Program.perform e >>= f) g := by
  refine perform_bind hm fun i s _ => ?_
  cases (P.exec i e s).1 with
  | ok a => exact hok s a
  | error x => exact herror s x

end Obeys
end Concurrent
