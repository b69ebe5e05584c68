import FrameNest.Concurrent.System

/-! One caller at a time, any call cut short between two of its effects: the next
caller starts from whatever the last one left in the shared state. -/
namespace Concurrent
variable {ι E σ ε α γ κ : Type} {R : E → Type}

/- Every effect of the run is one the protocol permits at its point. -/
def Permitted (P : Protocol ι E R ε σ γ) : List ι → Program E R ε α → γ → σ → Prop
  | i :: is, .call e next, g, s => P.permits g i e s ∧
    Permitted P is (next (P.exec i e s).1) (P.note g s e (P.exec i e s).1) (P.exec i e s).2
  | _, _, _, _ => True

theorem permitted_of_forall {P : Protocol ι E R ε σ γ} (hP : ∀ g i e s, P.permits g i e s)
    (is : List ι) (p : Program E R ε α) (g : γ) (s : σ) : Permitted P is p g s := by
  induction is generalizing p g s with
  | nil => cases p <;> trivial
  | cons i is ih =>
    cases p with
    | done a => trivial
    | fail x => trivial
    | call e next => exact ⟨hP _ _ _ _, ih _ _ _⟩

instance Permitted.decidable {P : Protocol ι E R ε σ γ} [∀ g i e s, Decidable (P.permits g i e s)] :
    ∀ (is : List ι) (p : Program E R ε α) (g : γ) (s : σ), Decidable (Permitted P is p g s)
  | [], .done _, _, _ | [], .fail _, _, _ | [], .call _ _, _, _ => isTrue trivial
  | _ :: _, .done _, _, _ | _ :: _, .fail _, _, _ => isTrue trivial
  | i :: is, .call e next, g, s =>
    have : Decidable (Permitted P is (next (P.exec i e s).1) (P.note g s e (P.exec i e s).1)
      (P.exec i e s).2) := Permitted.decidable is _ _ _
    inferInstanceAs (Decidable (P.permits g i e s ∧ _))

variable {Y : System κ ι E R ε σ γ α}

def SeqStep (Y : System κ ι E R ε σ γ α) (s s' : σ) : Prop :=
  ∃ c is, Permitted Y.toProtocol is (Y.program c) (Y.memory c) s ∧
    s' = (Program.run Y.exec is (Y.program c) s).2

def SeqReachable (Y : System κ ι E R ε σ γ α) : σ → σ → Prop := Relation.ReflTransGen (SeqStep Y)

/- Calls made one after the other, each given the answers it lives to see. -/
def callEach (Y : System κ ι E R ε σ γ α) : List (κ × List ι) → σ → σ
  | [], s => s
  | (c, is) :: calls, s => callEach Y calls (Program.run Y.exec is (Y.program c) s).2

/- Every effect of them is one the system permits at its point. -/
def AllPermitted (Y : System κ ι E R ε σ γ α) : List (κ × List ι) → σ → Prop
  | [], _ => True
  | (c, is) :: calls, s => Permitted Y.toProtocol is (Y.program c) (Y.memory c) s ∧
    AllPermitted Y calls (Program.run Y.exec is (Y.program c) s).2

instance AllPermitted.decidable [∀ g i e s, Decidable (Y.permits g i e s)] :
    ∀ (calls : List (κ × List ι)) (s : σ), Decidable (AllPermitted Y calls s)
  | [], _ => isTrue trivial
  | (c, is) :: calls, s =>
    have : Decidable (AllPermitted Y calls (Program.run Y.exec is (Y.program c) s).2) :=
      AllPermitted.decidable calls _
    inferInstanceAs (Decidable (Permitted Y.toProtocol is (Y.program c) (Y.memory c) s ∧ _))

theorem callEach_reachable (calls : List (κ × List ι)) (s : σ) (h : AllPermitted Y calls s) :
    SeqReachable Y s (callEach Y calls s) := by
  induction calls generalizing s with
  | nil => exact Relation.ReflTransGen.refl
  | cons c calls ih => exact Relation.ReflTransGen.head ⟨c.1, c.2, h.1, rfl⟩ (ih _ h.2)

theorem allPermitted_of_forall (hY : ∀ g i e s, Y.permits g i e s) (calls : List (κ × List ι))
    (s : σ) : AllPermitted Y calls s := by
  induction calls generalizing s with
  | nil => trivial
  | cons c calls ih => exact ⟨permitted_of_forall hY _ _ _ _, ih _⟩

/-- One call made to its end. -/
def Completed (Y : System κ ι E R ε σ γ α) (s s' : σ) : Prop :=
  ∃ c is, (Program.run Y.exec is (Y.program c) s).1.settled = true ∧
    s' = (Program.run Y.exec is (Y.program c) s).2

theorem Completed.seqStep (hP : ∀ g i e s, Y.permits g i e s) {s s' : σ} (h : Completed Y s s') :
    SeqStep Y s s' := by
  obtain ⟨c, is, -, rfl⟩ := h
  exact ⟨c, is, permitted_of_forall hP _ _ _ _, rfl⟩

/-- What each permitted call preserves, any part of a run of an obedient program
preserves. -/
theorem Preserved.run {Q : γ → Except ε α → Prop} {I : σ → Prop} {T : γ → σ → Prop}
    (hY : Preserved Y I T) (is : List ι) {p : Program E R ε α} {g : γ} {s : σ}
    (hp : Obeys Y.toProtocol Q p g) (hperm : Permitted Y.toProtocol is p g s) (hI : I s)
    (hT : T g s) : I (Program.run Y.exec is p s).2 := by
  induction is generalizing p g s with
  | nil => simpa using hI
  | cons i is ih =>
    cases p with
    | done a => simpa using hI
    | fail x => simpa using hI
    | call e next =>
      rw [Program.run_call]
      exact ih (hp.2 i s hperm.1) hperm.2 (hY.state g i e s hI hT hp.1 hperm.1)
        (hY.own g i e s hI hT hp.1 hperm.1)

theorem Preserved.seqStep {Q : γ → Except ε α → Prop} {I : σ → Prop} {T : γ → σ → Prop}
    (hY : Preserved Y I T) (hprog : Obedient Y Q) {s s' : σ} (h : SeqStep Y s s') (hI : I s) :
    I s' := by
  obtain ⟨c, is, hperm, rfl⟩ := h
  exact hY.run is (hprog c) hperm hI (hY.start c s hI)

theorem Preserved.seqReachable {Q : γ → Except ε α → Prop} {I : σ → Prop} {T : γ → σ → Prop}
    (hY : Preserved Y I T) (hprog : Obedient Y Q) {s s' : σ} (h : SeqReachable Y s s')
    (hI : I s) : I s' := by
  induction h with
  | refl => exact hI
  | tail _ hstep ih => exact hY.seqStep hprog hstep ih

end Concurrent
