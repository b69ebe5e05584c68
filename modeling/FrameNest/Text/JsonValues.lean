import FrameNest.Text.JsonReader
import FrameNest.Text.Plain
import Mathlib.Algebra.Order.Field.Power
import Mathlib.Algebra.Order.Round
import Mathlib.Data.Int.Log
import Mathlib.Data.Rat.Floor
import Mathlib.Tactic.Linarith
import Mathlib.Tactic.Positivity

/-! JSON values as Python handles them: a dictionary keeps the last of two members with one key,
and a number with a fraction or an exponent is rounded to a double. -/

section Strip
variable {α : Type} {p : α → Bool}

/- What is left without the elements at either end that satisfy `p`. -/
def List.trimBy (p : α → Bool) (l : List α) : List α :=
  ((l.dropWhile p).reverse.dropWhile p).reverse

end Strip

namespace PyStr

def isSpace : CodePoint → Bool := lift Plain.isSpace

/- `s.strip()`. -/
def strip (s : PyStr) : PyStr := s.trimBy isSpace

end PyStr

namespace PyJson
open PyStr

/- `mapping.get(key)`: the last of two members with one key counts. -/
def get (members : List (PyStr × PyJson)) (key : String) : PyJson :=
  (members.reverse.lookup (ofString key)).getD .null

mutual
/-- No value of the JSON text lies deeper than `room`; what another member overwrote is gone. -/
def shallow : PyJson → Nat → Bool
  | .arr items, room => itemsShallow items room
  | .obj members, room => membersShallow members room
  | _, _ => true
def itemsShallow : List PyJson → Nat → Bool
  | [], _ => true
  | _ :: _, 0 => false
  | v :: rest, room + 1 => shallow v room && itemsShallow rest (room + 1)
def membersShallow : List (PyStr × PyJson) → Nat → Bool
  | [], _ => true
  | m :: rest, 0 => (rest.any fun n => n.1 = m.1) && membersShallow rest 0
  | (k, v) :: rest, room + 1 =>
    ((rest.any fun n => n.1 = k) || shallow v room) && membersShallow rest (room + 1)
end

mutual
/-- No value of the JSON text, overwritten ones among them, is `NaN` or an infinity. -/
def standard : PyJson → Bool
  | .constant _ => false
  | .arr items => itemsStandard items
  | .obj members => membersStandard members
  | _ => true
def itemsStandard : List PyJson → Bool
  | [] => true
  | v :: rest => standard v && itemsStandard rest
def membersStandard : List (PyStr × PyJson) → Bool
  | [] => true
  | (_, v) :: rest => standard v && membersStandard rest
end

section Doubles

/- The nearest integer, an even one between two. -/
def roundEven (q : ℚ) : ℤ :=
  if q - ⌊q⌋ < 1 / 2 then ⌊q⌋
  else if 1 / 2 < q - ⌊q⌋ then ⌊q⌋ + 1
  else if ⌊q⌋ % 2 = 0 then ⌊q⌋ else ⌊q⌋ + 1

/- The distance of two doubles near a number. -/
def quantum (q : ℚ) : ℚ := 2 ^ max (Int.log 2 |q| - 52) (-1074)

/-- The double nearest to a number; there is none where that would be an infinity. -/
def nearest (q : ℚ) : Option ℚ :=
  let rounded := roundEven (q / quantum q) * quantum q
  if |rounded| < 2 ^ 1024 then some rounded else none

/- The digits after an `e`, with their sign. -/
def exponentValue : List Char → Int
  | '-' :: digits => -(Nat.ofDigitChars 10 digits 0 : Int)
  | '+' :: digits => Nat.ofDigitChars 10 digits 0
  | digits => Nat.ofDigitChars 10 digits 0

/-- The number that a decimal text stands for. -/
def literalValue (literal : List Char) : ℚ :=
  let unsigned := literal.dropWhile (· = '-')
  let isPower := fun c => c = 'e' || c = 'E'
  let mantissa := unsigned.takeWhile fun c => !isPower c
  let whole := mantissa.takeWhile (· ≠ '.')
  let fraction := (mantissa.dropWhile (· ≠ '.')).tail
  let power := exponentValue (unsigned.dropWhile fun c => !isPower c).tail - fraction.length
  let value := (Nat.ofDigitChars 10 (whole ++ fraction) 0 : ℚ) * 10 ^ power
  if literal.head? = some '-' then -value else value

/- `float(..)` of a literal with a fraction or an exponent; an infinity has no value. -/
def double (literal : List Char) : Option ℚ := nearest (literalValue literal)

/- Halfway beyond the largest double. -/
@[irreducible] def overflowBound : Nat := 2 ^ 1024 - 2 ^ 970

/- `float(n)` raises `OverflowError`. -/
def overflows (n : Int) : Bool := overflowBound ≤ n.natAbs

/- `int(x)` of a finite float. -/
def truncate (q : ℚ) : ℤ := if 0 ≤ q then ⌊q⌋ else ⌈q⌉

theorem roundEven_near (q : ℚ) : |(roundEven q : ℚ)| ≤ |q| + 1 := by
  have hlow : (⌊q⌋ : ℚ) ≤ q := Int.floor_le q
  have hhigh : q < ⌊q⌋ + 1 := Int.lt_floor_add_one q
  have hcases : roundEven q = ⌊q⌋ ∨ roundEven q = ⌊q⌋ + 1 := by
    unfold roundEven
    split_ifs <;> simp
  obtain hfloor | hceil := hcases
  · rw [hfloor, abs_le]
    constructor <;> cases abs_cases q <;> linarith
  · rw [hceil, Int.cast_add, Int.cast_one, abs_le]
    constructor <;> cases abs_cases q <;> linarith

theorem quantum_pos (q : ℚ) : 0 < quantum q := by
  exact zpow_pos (by norm_num) _

theorem quantum_le (q : ℚ) : quantum q ≤ |q| + 1 := by
  unfold quantum
  have hone : (2 : ℚ) ^ (-1074 : ℤ) ≤ 1 := zpow_le_one_of_nonpos₀ (by norm_num) (by norm_num)
  have hsteep : ∀ a b : ℤ, a ≤ b → (2 : ℚ) ^ a ≤ 2 ^ b := fun a b h =>
    zpow_le_zpow_right₀ (by norm_num) h
  have habs : 0 ≤ |q| := abs_nonneg q
  obtain hmax | hmax := max_choice (Int.log 2 |q| - 52) (-1074)
  · rw [hmax]
    by_cases hzero : |q| = 0
    · rw [hzero, Int.log_of_right_le_zero _ le_rfl]
      have hsmall := hsteep (0 - 52) 0 (by omega)
      linarith [zpow_zero (2 : ℚ)]
    · have hpos : 0 < |q| := lt_of_le_of_ne habs (Ne.symm hzero)
      have hlog : ((2 : ℕ) : ℚ) ^ Int.log 2 |q| ≤ |q| := Int.zpow_log_le_self (by norm_num) hpos
      have hshift := hsteep (Int.log 2 |q| - 52) (Int.log 2 |q|) (by omega)
      push_cast at hlog
      linarith
  · rw [hmax]
    linarith

/-- A number far below the largest double has a finite one next to it. -/
theorem nearest_some {q : ℚ} (h : |q| ≤ 2 ^ 100) : ∃ r, nearest q = some r := by
  have hq := quantum_pos q
  have hround := roundEven_near (q / quantum q)
  have hdiv : |q / quantum q| * quantum q = |q| := by
    rw [abs_div, abs_of_pos hq, div_mul_cancel₀ _ (ne_of_gt hq)]
  have hle : |(roundEven (q / quantum q) : ℚ) * quantum q| ≤ 2 * |q| + 1 := by
    rw [abs_mul, abs_of_pos hq]
    have hscaled := mul_le_mul_of_nonneg_right hround (le_of_lt hq)
    have hquantum := quantum_le q
    rw [add_mul, one_mul, hdiv] at hscaled
    linarith
  have hbig : (2 : ℚ) ^ 102 ≤ 2 ^ 1024 := pow_le_pow_right₀ (by norm_num) (by norm_num)
  have hsmall : 2 * |q| + 1 < 2 ^ 102 := by linarith
  exact ⟨_, if_pos (lt_of_le_of_lt hle (lt_of_lt_of_le hsmall hbig))⟩

end Doubles
end PyJson
