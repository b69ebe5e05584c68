import FrameNest.Concurrent.Program

/-! Reasoning about one program whose run may stop after any of its calls: an invariant of
the shared state that each call keeps, and a postcondition of the runs that end. -/
namespace Concurrent
variable {ι E σ ε α β : Type} {R : E → Type}

/-- Whatever is answered, `I` holds after every call and `Q` of the end. -/
def Upholds (exec : ι → (e : E) → σ → Except ε (R e) × σ) (I : σ → Prop)
    (Q : Except ε α → σ → Prop) : Program E R ε α → σ → Prop
  | .done a, s => Q (.ok a) s
  | .fail x, s => Q (.error x) s
  | .call e next, s => ∀ i, I (exec i e s).2 ∧
      Upholds exec I Q (next (exec i e s).1) (exec i e s).2

namespace Upholds
variable {exec : ι → (e : E) → σ → Except ε (R e) × σ} {I : σ → Prop} {s : σ}

@[simp] theorem done_iff {Q : Except ε α → σ → Prop} {a : α} :
    Upholds exec I Q (.done a) s ↔ Q (.ok a) s := Iff.rfl

@[simp] theorem fail_iff {Q : Except ε α → σ → Prop} {x : ε} :
    Upholds exec I Q (.fail x) s ↔ Q (.error x) s := Iff.rfl

theorem mono {Q Q' : Except ε α → σ → Prop} (hQ : ∀ r t, Q r t → Q' r t) {p : Program E R ε α}
    (h : Upholds exec I Q p s) : Upholds exec I Q' p s := by
  induction p generalizing s with
  | done a => exact hQ _ _ h
  | fail x => exact hQ _ _ h
  | call e next ih => exact fun i => ⟨(h i).1, ih _ (h i).2⟩

/- The postcondition of the first program is what the second one starts from. -/
theorem bind {Q : Except ε β → σ → Prop} {p : Program E R ε α} {f : α → Program E R ε β}
    (h : Upholds exec I (fun r t => match r with
      | .ok a => Upholds exec I Q (f a) t
      | .error x => Q (.error x) t) p s) : Upholds exec I Q (p >>= f) s := by
  induction p generalizing s with
  | done a => exact h
  | fail x => exact h
  | call e next ih => exact fun i => ⟨(h i).1, ih _ (h i).2⟩

theorem rescue {Q : Except ε α → σ → Prop} {p : Program E R ε α} {handler : ε → Program E R ε α}
    (h : Upholds exec I (fun r t => match r with
      | .ok a => Q (.ok a) t
      | .error x => Upholds exec I Q (handler x) t) p s) :
    Upholds exec I Q (p.rescue handler) s := by
  induction p generalizing s with
  | done a => exact h
  | fail x => exact h
  | call e next ih => exact fun i => ⟨(h i).1, ih _ (h i).2⟩

theorem ite {Q : Except ε α → σ → Prop} {c : Prop} [Decidable c] {p q : Program E R ε α}
    (hp : c → Upholds exec I Q p s) (hq : ¬c → Upholds exec I Q q s) :
    Upholds exec I Q (if c then p else q) s := by
  by_cases hc : c
  · simpa [hc] using hp hc
  · simpa [hc] using hq hc

theorem perform {Q : Except ε (R e) → σ → Prop}
    (h : ∀ i, I (exec i e s).2 ∧ Q (exec i e s).1 (exec i e s).2) :
    Upholds exec I Q (Program.perform e) s := by
  intro i
  obtain ⟨hI, hQ⟩ := h i
  refine ⟨hI, ?_⟩
  cases hr : (exec i e s).1 with
  | ok a =>
    rw [hr] at hQ
    exact hQ
  | error x =>
    rw [hr] at hQ
    exact hQ

/-- The invariant holds where the program ends. -/
theorem keeps {Q : Except ε α → σ → Prop} {p : Program E R ε α} (hI : I s)
    (h : Upholds exec I Q p s) : Upholds exec I (fun r t => Q r t ∧ I t) p s := by
  induction p generalizing s with
  | done a => exact ⟨h, hI⟩
  | fail x => exact ⟨h, hI⟩
  | call e next ih => exact fun i => ⟨(h i).1, ih _ (h i).1 (h i).2⟩

/-- However early the run is cut. -/
theorem run {Q : Except ε α → σ → Prop} {p : Program E R ε α} (h : Upholds exec I Q p s)
    (hI : I s) (is : List ι) : I (Program.run exec is p s).2 := by
  induction is generalizing p s with
  | nil => simpa using hI
  | cons i is ih =>
    cases p with
    | done a => simpa using hI
    | fail x => simpa using hI
    | call e next => exact ih (h i).2 (h i).1

/-- A run that has ended ended in `Q`. -/
theorem ended {Q : Except ε α → σ → Prop} {p : Program E R ε α} (h : Upholds exec I Q p s)
    (is : List ι) : (∀ a, (Program.run exec is p s).1 = .done a →
        Q (.ok a) (Program.run exec is p s).2) ∧
      ∀ x, (Program.run exec is p s).1 = .fail x → Q (.error x) (Program.run exec is p s).2 := by
  induction is generalizing p s with
  | nil => cases p <;> simp_all
  | cons i is ih =>
    cases p with
    | done a => simp_all
    | fail x => simp_all
    | call e next => exact ih (h i).2

end Upholds
end Concurrent
