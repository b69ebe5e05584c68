import FrameNest.Text.JsonTree

/-! `json.loads` as a machine that takes one code point after the other. Nesting has a limit,
and so has the length of an integer; beyond either the reader raises something other than
`JSONDecodeError`. -/
namespace JsonReader
open PyStr PyJson

/-- How a text is not read: as bad JSON, or with `RecursionError` or a plain `ValueError`. -/
inductive Fault where
  | malformed
  | raised
deriving DecidableEq

/-- What the reader is called with: the nesting the interpreter allows, and whether the hooks
reject duplicate keys and the constants that are no JSON numbers. -/
structure Settings where
  nesting : Nat
  strict : Bool

/-- An array or an object that is still open, its parts last first. -/
inductive Frame where
  | array (items : List PyJson)
  | object (members : List (PyStr × PyJson)) (key : Option PyStr)

/-- How far a number has got. -/
inductive Phase where
  | minus | zero | digits | point | fraction | exponent | sign | power
deriving DecidableEq

/-- A number being read: its sign, its integer digits and its whole text, last first. -/
structure Number where
  negative : Bool
  digits : List Char
  literal : List Char
  phase : Phase

inductive Escape where
  | plain
  | backslash
  | hex (value missing : Nat)

/-- A string being read, last first; `joinable` when it ends with an escaped high surrogate. -/
structure Quoted where
  read : PyStr
  joinable : Bool
  escape : Escape

inductive Mode where
  | value (first : Bool)
  | key (first : Bool)
  | colon
  | word (rest name : List Char) (v : PyJson)
  | number (n : Number)
  | quoted (isKey : Bool) (q : Quoted)
  | done (v : PyJson)

abbrev State := Mode × List Frame

def isJsonSpace (c : Char) : Bool := c = ' ' || c = '\t' || c = '\n' || c = '\r'

def isDigit (c : Char) : Bool := '0' ≤ c && c ≤ '9'

section Strings

def hexValue? (c : Char) : Option Nat :=
  if '0' ≤ c ∧ c ≤ '9' then some (c.toNat - 48)
  else if 'a' ≤ c ∧ c ≤ 'f' then some (c.toNat - 87)
  else if 'A' ≤ c ∧ c ≤ 'F' then some (c.toNat - 55)
  else none

/- The code point of an escape of four digits. -/
def unit (n : Nat) : CodePoint :=
  if 0xd800 ≤ n ∧ n ≤ 0xdfff then .surrogate (Fin.ofNat 2048 (n - 0xd800)) else .char (Char.ofNat n)

/- A low surrogate joins the high one escaped just before it. -/
def Quoted.addUnit (q : Quoted) (n : Nat) : Quoted :=
  match q.joinable && 0xdc00 ≤ n && n ≤ 0xdfff, q.read with
  | true, .surrogate high :: read =>
    ⟨.char (Char.ofNat (0x10000 + high.val * 0x400 + (n - 0xdc00))) :: read, false, .plain⟩
  | _, read => ⟨unit n :: read, 0xd800 ≤ n && n ≤ 0xdbff, .plain⟩

def Quoted.add (q : Quoted) (c : CodePoint) : Quoted := ⟨c :: q.read, false, .plain⟩

/- What stands for a character after a backslash. -/
def unescape? (c : Char) : Option Char :=
  if c = '"' ∨ c = '\\' ∨ c = '/' then some c
  else if c = 'b' then some (Char.ofNat 8)
  else if c = 'f' then some (Char.ofNat 12)
  else if c = 'n' then some '\n'
  else if c = 'r' then some '\r'
  else if c = 't' then some '\t'
  else none

/- A string that has ended is a key or a value. -/
def endString (isKey : Bool) (s : PyStr) : List Frame → Except Fault State
  | stack =>
    if isKey then
      match stack with
      | .object members none :: stack => .ok (.colon, .object members (some s) :: stack)
      | _ => .error .malformed
    else .ok (.done (.str s), stack)

def stepQuoted (isKey : Bool) (q : Quoted) (stack : List Frame) (c : CodePoint) :
    Except Fault State :=
  match q.escape, c with
  | .plain, .char c =>
    if c = '"' then endString isKey q.read.reverse stack
    else if c = '\\' then .ok (.quoted isKey { q with escape := .backslash }, stack)
    else if c.toNat < 32 then .error .malformed
    else .ok (.quoted isKey (q.add (.char c)), stack)
  | .plain, .surrogate offset => .ok (.quoted isKey (q.add (.surrogate offset)), stack)
  | .backslash, .char c =>
    if c = 'u' then .ok (.quoted isKey { q with escape := .hex 0 4 }, stack)
    else
      match unescape? c with
      | some d => .ok (.quoted isKey (q.add (.char d)), stack)
      | none => .error .malformed
  | .hex value missing, .char c =>
    match hexValue? c with
    | none => .error .malformed
    | some d =>
      if missing ≤ 1 then .ok (.quoted isKey (q.addUnit (value * 16 + d)), stack)
      else .ok (.quoted isKey { q with escape := .hex (value * 16 + d) (missing - 1) }, stack)
  | .backslash, .surrogate _ | .hex _ _, .surrogate _ => .error .malformed

end Strings

section Numbers

/- `int(..)` of the digits, which raises when there are too many of them. -/
def Number.toInt (n : Number) : Except Fault PyJson :=
  if n.digits.length ≤ maxStrDigits then
    let value : Int := Nat.ofDigitChars 10 n.digits.reverse 0
    .ok (.int (if n.negative then -value else value))
  else .error .raised

/- The value of a number that can end where it stands. -/
def Number.value (n : Number) : Except Fault PyJson :=
  match n.phase with
  | .minus => .error .malformed
  | .fraction | .power => .ok (.float n.literal.reverse)
  | .zero | .digits => n.toInt
  -- The number ended before the point or the exponent, and what is left is no JSON.
  | .point => n.toInt.bind fun _ => .error .malformed
  | .exponent | .sign =>
    if n.literal.contains '.' then .error .malformed
    else n.toInt.bind fun _ => .error .malformed

/- The phase after one more character, if it belongs to the number. -/
def Phase.next (phase : Phase) (c : Char) : Option Phase :=
  match phase with
  | .minus => if c = '0' then some .zero else if isDigit c then some .digits else none
  | .zero => if c = '.' then some .point else if c = 'e' ∨ c = 'E' then some .exponent else none
  | .digits =>
    if isDigit c then some .digits
    else if c = '.' then some .point
    else if c = 'e' ∨ c = 'E' then some .exponent
    else none
  | .point => if isDigit c then some .fraction else none
  | .fraction =>
    if isDigit c then some .fraction else if c = 'e' ∨ c = 'E' then some .exponent else none
  | .exponent =>
    if isDigit c then some .power else if c = '+' ∨ c = '-' then some .sign else none
  | .sign | .power => if isDigit c then some .power else none

def Number.add (n : Number) (c : Char) (phase : Phase) : Number :=
  { n with
    digits := if phase = .zero ∨ phase = .digits then c :: n.digits else n.digits
    literal := c :: n.literal
    phase := phase }

end Numbers

section Steps
variable (settings : Settings)

/- `parse_constant` raises under the hooks. -/
def endWord (v : PyJson) (stack : List Frame) : Except Fault State :=
  match settings.strict, v with
  | true, .constant _ => .error .malformed
  | _, v => .ok (.done v, stack)

def openFrame (mode : Mode) (frame : Frame) (stack : List Frame) : Except Fault State :=
  if settings.nesting ≤ stack.length then .error .raised else .ok (mode, frame :: stack)

/- The first character of a value. -/
def startValue (stack : List Frame) (c : Char) : Except Fault State :=
  if c = '"' then .ok (.quoted false ⟨[], false, .plain⟩, stack)
  else if c = '[' then openFrame settings (.value true) (.array []) stack
  else if c = '\x7b' then openFrame settings (.key true) (.object [] none) stack
  else if c = 't' then .ok (.word "rue".toList "true".toList (.bool true), stack)
  else if c = 'f' then .ok (.word "alse".toList "false".toList (.bool false), stack)
  else if c = 'n' then .ok (.word "ull".toList "null".toList .null, stack)
  else if c = 'N' then .ok (.word "aN".toList "NaN".toList (.constant "NaN".toList), stack)
  else if c = 'I' then
    .ok (.word "nfinity".toList "Infinity".toList (.constant "Infinity".toList), stack)
  else if c = '-' then .ok (.number ⟨true, [], ['-'], .minus⟩, stack)
  else if c = '0' then .ok (.number ⟨false, ['0'], ['0'], .zero⟩, stack)
  else if isDigit c then .ok (.number ⟨false, [c], [c], .digits⟩, stack)
  else .error .malformed

def stepValue (first : Bool) (stack : List Frame) (c : Char) : Except Fault State :=
  if isJsonSpace c then .ok (.value first, stack)
  else if first && c = ']' then
    match stack with
    | .array [] :: stack => .ok (.done (.arr []), stack)
    | _ => .error .malformed
  else startValue settings stack c

def stepKey (first : Bool) (stack : List Frame) (c : Char) : Except Fault State :=
  if isJsonSpace c then .ok (.key first, stack)
  else if c = '"' then .ok (.quoted true ⟨[], false, .plain⟩, stack)
  else if first && c = '\x7d' then
    match stack with
    | .object [] none :: stack => .ok (.done (.obj []), stack)
    | _ => .error .malformed
  else .error .malformed

def stepColon (stack : List Frame) (c : Char) : Except Fault State :=
  if isJsonSpace c then .ok (.colon, stack)
  else if c = ':' then .ok (.value false, stack)
  else .error .malformed

/- `object_pairs_hook` raises at a key that is there already. -/
def endObject (members : List (PyStr × PyJson)) (stack : List Frame) : Except Fault State :=
  if settings.strict && !(members.map Prod.fst).Nodup then .error .malformed
  else .ok (.done (.obj members), stack)

def stepDone (v : PyJson) (stack : List Frame) (c : Char) : Except Fault State :=
  if isJsonSpace c then .ok (.done v, stack)
  else
    match stack with
    | [] => .error .malformed
    | .array items :: stack =>
      if c = ',' then .ok (.value false, .array (v :: items) :: stack)
      else if c = ']' then .ok (.done (.arr (v :: items).reverse), stack)
      else .error .malformed
    | .object members (some key) :: stack =>
      if c = ',' then .ok (.key false, .object ((key, v) :: members) none :: stack)
      else if c = '\x7d' then endObject settings ((key, v) :: members).reverse stack
      else .error .malformed
    | .object _ none :: _ => .error .malformed

def stepNumber (n : Number) (stack : List Frame) (c : Char) : Except Fault State :=
  if n.phase = .minus ∧ c = 'I' then
    .ok (.word "nfinity".toList "-Infinity".toList (.constant "-Infinity".toList), stack)
  else
    match n.phase.next c with
    | some phase => .ok (.number (n.add c phase), stack)
    | none => n.value.bind fun v => stepDone settings v stack c

def stepWord (rest name : List Char) (v : PyJson) (stack : List Frame) (c : Char) :
    Except Fault State :=
  match rest with
  | [] => .error .malformed
  | d :: rest =>
    if c = d then
      if rest = [] then endWord settings v stack else .ok (.word rest name v, stack)
    else .error .malformed

/- One code point; outside of strings a surrogate is no JSON. -/
def step (state : State) (c : CodePoint) : Except Fault State :=
  match state.1, c with
  | .quoted isKey q, c => stepQuoted isKey q state.2 c
  | .value first, .char c => stepValue settings first state.2 c
  | .key first, .char c => stepKey first state.2 c
  | .colon, .char c => stepColon state.2 c
  | .word rest name v, .char c => stepWord settings rest name v state.2 c
  | .number n, .char c => stepNumber settings n state.2 c
  | .done v, .char c => stepDone settings v state.2 c
  | .number n, .surrogate _ => n.value.bind fun _ => .error .malformed
  | _, .surrogate _ => .error .malformed

/- The end of the text. -/
def finish (state : State) : Except Fault PyJson :=
  match state.1, state.2 with
  | .done v, [] => .ok v
  | .number n, [] => n.value
  | .number n, _ :: _ => n.value.bind fun _ => .error .malformed
  | _, _ => .error .malformed

def feed (state : State) : PyStr → Except Fault PyJson
  | [] => finish state
  | c :: rest => (step settings state c).bind fun state => feed state rest

/- `json.loads`. -/
def loads (text : PyStr) : Except Fault PyJson := feed settings (.value false, []) text

end Steps

example : (loads ⟨9, true⟩ (ofString "[1,[-20,\"a\\u00e9\"]]")).toOption.map (print false) =
    some (ofString "[1,[-20,\"aé\"]]") := by decide +kernel

end JsonReader
