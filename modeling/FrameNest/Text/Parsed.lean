import Mathlib.Data.Rat.Defs
import Mathlib.Data.List.Basic

/-! JSON as `json.loads` hands it over: numbers with a fraction or an exponent are floats,
and a text can fail to be JSON in a way its callers expect or in one they do not. -/

inductive Parsed where
  | null
  | bool (b : Bool)
  | int (n : Int)
  | float (value : Option ℚ)
  | str (s : String)
  | arr (items : List Parsed)
  | obj (members : List (String × Parsed))

namespace Parsed

/- `json.loads(path.read_text(encoding="utf-8"))`. A text that is not UTF-8, an integer of
   more digits than `int` converts and a nesting deeper than the stack raise something that
   is neither `OSError` nor `JSONDecodeError`. -/
inductive Loaded where
  | value (payload : Parsed)
  | notJson
  | unreadable

def asStr : Parsed → Option String
  | .str s => some s
  | _ => none

def asObj : Parsed → Option (List (String × Parsed))
  | .obj members => some members
  | _ => none

/- `isinstance(value, int)`, true of the two Booleans as well. -/
def asInt : Parsed → Option Int
  | .int n => some n
  | .bool b => some (if b then 1 else 0)
  | _ => none

/- `value == n`. -/
def equalsInt (n : Int) : Parsed → Bool
  | .int m => m = n
  | .bool b => (if b then 1 else 0) = n
  | .float (some q) => q = n
  | _ => false

def isStr (s : String) : Parsed → Bool
  | .str t => t = s
  | _ => false

/- `value == [..]` for a list of strings. -/
def isStrs (expected : List String) : Parsed → Bool
  | .arr items => items.map asStr = expected.map some
  | _ => false

/- `set(members) == expected`. -/
def keysAre (expected : List String) (members : List (String × Parsed)) : Bool :=
  (expected.all fun key => (members.lookup key).isSome) && members.all fun m => m.1 ∈ expected

end Parsed
