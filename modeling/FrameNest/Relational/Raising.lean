import FrameNest.Relational.Transaction

/-! What a fallible computation can raise, from what its parts can raise. -/
namespace Relational
variable {ε α β : Type} {P Q : ε → Prop}

/-- Whatever `x` raises satisfies `P`. -/
def Raises (P : ε → Prop) (x : Except ε α) : Prop := ∀ e, x = .error e → P e

namespace Raises

theorem ok (a : α) : Raises P (.ok a : Except ε α) := by
  intro e h
  cases h

theorem error {e : ε} (h : P e) : Raises P (.error e : Except ε α) := by
  intro e' h'
  cases h'
  exact h

theorem mono {x : Except ε α} (h : Raises P x) (hPQ : ∀ e, P e → Q e) : Raises Q x :=
  fun e he => hPQ e (h e he)

theorem bind {x : Except ε α} {f : α → Except ε β} (hx : Raises P x)
    (hf : ∀ a, x = .ok a → Raises P (f a)) : Raises P (x >>= f) := by
  cases x with
  | ok a => exact hf a rfl
  | error e => exact Raises.error (hx e rfl)

theorem require {condition : Bool} {e : ε} (h : P e) : Raises P (Relational.require condition e) := by
  cases condition with
  | true => exact Raises.ok ()
  | false => exact Raises.error h

theorem require_bind {condition : Bool} {e : ε} {f : Unit → Except ε β} (h : P e)
    (hf : condition = true → Raises P (f ())) : Raises P (Relational.require condition e >>= f) := by
  apply bind (Raises.require h)
  intro u hu
  exact hf (require_eq_ok.mp hu)

end Raises
end Relational
