import FrameNest.Relational.Table
import Mathlib.Logic.Basic

/-! Transactions: an operation that raises leaves the store as it found it. -/
namespace Relational
variable {ε σ α β : Type}

/-- A check that raises when it fails. -/
def require (condition : Bool) (error : ε) : Except ε Unit :=
  if condition then .ok () else .error error

/-- `run_in_transaction`: commit what the operation leaves, roll back what it raises from. -/
def transaction (s : σ) (operation : σ → Except ε (α × σ)) : Except ε α × σ :=
  match operation s with
  | .ok (a, t) => (.ok a, t)
  | .error x => (.error x, s)

theorem bind_eq_ok {x : Except ε α} {f : α → Except ε β} {b : β} :
    (x >>= f) = .ok b ↔ ∃ a, x = .ok a ∧ f a = .ok b := by
  cases x with
  | ok a =>
    constructor
    · intro h
      exact ⟨a, rfl, h⟩
    · rintro ⟨a', ha, h⟩
      cases ha
      exact h
  | error e =>
    constructor
    · intro h
      cases h
    · rintro ⟨a', ha, -⟩
      cases ha

theorem require_eq_ok {condition : Bool} {error : ε} {u : Unit} :
    require condition error = .ok u ↔ condition = true := by
  unfold require
  split <;> simp_all

theorem require_bind_eq_ok {condition : Bool} {error : ε} {f : Unit → Except ε β} {b : β} :
    (require condition error >>= f) = .ok b ↔ condition = true ∧ f () = .ok b := by
  rw [bind_eq_ok]
  constructor
  · rintro ⟨u, hu, h⟩
    exact ⟨require_eq_ok.mp hu, h⟩
  · rintro ⟨hc, h⟩
    exact ⟨(), require_eq_ok.mpr hc, h⟩

@[simp] theorem require_true (error : ε) : require true error = .ok () := rfl

theorem map_eq_ok {x : Except ε α} {f : α → β} {b : β} :
    x.map f = .ok b ↔ ∃ a, x = .ok a ∧ f a = b := by
  cases x with
  | ok a => simp [Except.map]
  | error e => simp [Except.map]

/-- An operation that raises leaves the store unchanged. -/
theorem transaction_error {s : σ} {operation : σ → Except ε (α × σ)} {x : ε}
    (h : (transaction s operation).1 = .error x) : (transaction s operation).2 = s := by
  unfold transaction at h ⊢
  split at h
  · cases h
  · rfl

theorem transaction_ok {s : σ} {operation : σ → Except ε (α × σ)} {a : α}
    (h : (transaction s operation).1 = .ok a) :
    operation s = .ok (a, (transaction s operation).2) := by
  unfold transaction at h ⊢
  split at h
  · rename_i heq
    cases h
    exact heq
  · cases h

theorem transaction_of_ok {s t : σ} {operation : σ → Except ε (α × σ)} {a : α}
    (h : operation s = .ok (a, t)) : transaction s operation = (.ok a, t) := by
  simp [transaction, h]

theorem transaction_of_error {s : σ} {operation : σ → Except ε (α × σ)} {x : ε}
    (h : operation s = .error x) : transaction s operation = (.error x, s) := by
  simp [transaction, h]

/-- The store after a transaction: untouched, or what its operation returned. -/
theorem transaction_cases (s : σ) (operation : σ → Except ε (α × σ)) :
    (transaction s operation).2 = s ∨
      ∃ a, operation s = .ok (a, (transaction s operation).2) := by
  cases h : (transaction s operation).1 with
  | ok a => exact Or.inr ⟨a, transaction_ok h⟩
  | error x => exact Or.inl (transaction_error h)

end Relational
