import FrameNest.Text.CodePoints
import FrameNest.Text.SortedJson

/-! JSON as Python has it: what `json.loads` builds, and the text that `json.dumps` writes with
`separators=(",", ":")`. -/

/-- A JSON value. A float is kept as the text it stands as, and so are `NaN` and the infinities,
which Python reads though JSON has no such numbers. -/
inductive PyJson where
  | null
  | bool (b : Bool)
  | int (n : Int)
  | float (literal : List Char)
  | constant (name : List Char)
  | str (s : PyStr)
  | arr (items : List PyJson)
  | obj (members : List (PyStr × PyJson))

namespace PyJson
open PyStr

/- `sys.int_info.default_max_str_digits`: the digits of the longest integer that is read or
   written. -/
def maxStrDigits : Nat := 4300

section Printing
variable (ascii : Bool)

/- `str(n)`. -/
def decimal : Int → List Char
  | .ofNat n => Nat.toDigits 10 n
  | .negSucc n => '-' :: Nat.toDigits 10 (n + 1)

/- One code point of a string; `ascii` is `ensure_ascii`. -/
def escape : CodePoint → PyStr
  | .char c => ofChars (if ascii then Parsed.escapeAscii c else Json.escape c)
  | .surrogate offset =>
    if ascii then ofChars ('\\' :: 'u' :: Parsed.hex4 (0xd800 + offset.val)) else [.surrogate offset]

def quote (s : PyStr) : PyStr := .char '"' :: s.flatMap (escape ascii) ++ [.char '"']

/- Items with a comma between two. -/
def separated : List PyStr → PyStr
  | [] => []
  | [x] => x
  | x :: y :: rest => x ++ .char ',' :: separated (y :: rest)

mutual
def print : PyJson → PyStr
  | .null => ofChars "null".toList
  | .bool true => ofChars "true".toList
  | .bool false => ofChars "false".toList
  | .int n => ofChars (decimal n)
  | .float literal => ofChars literal
  | .constant name => ofChars name
  | .str s => quote ascii s
  | .arr items => .char '[' :: separated (printItems items) ++ [.char ']']
  | .obj members => .char '\x7b' :: separated (printMembers members) ++ [.char '\x7d']
def printItems : List PyJson → List PyStr
  | [] => []
  | v :: rest => print v :: printItems rest
def printMembers : List (PyStr × PyJson) → List PyStr
  | [] => []
  | (k, v) :: rest => (quote ascii k ++ .char ':' :: print v) :: printMembers rest
end

end Printing

/- A `dict` with its keys in order, as `sort_keys` writes it. -/
def dict (members : List (String × PyJson)) : PyJson :=
  .obj ((members.insertionSort fun a b => a.1 ≤ b.1).map fun m => (ofString m.1, m.2))

section Limits

/- `str(n)` raises for an integer that is too long. -/
def shortInt (n : Int) : Bool := (Nat.toDigits 10 n.natAbs).length ≤ maxStrDigits

mutual
/-- Every integer of the value can be written. -/
def writable : PyJson → Bool
  | .int n => shortInt n
  | .arr items => allWritable items
  | .obj members => membersWritable members
  | _ => true
def allWritable : List PyJson → Bool
  | [] => true
  | v :: rest => writable v && allWritable rest
def membersWritable : List (PyStr × PyJson) → Bool
  | [] => true
  | (_, v) :: rest => writable v && membersWritable rest
end

theorem allWritable_mem {items : List PyJson} (h : allWritable items = true) {v : PyJson}
    (hv : v ∈ items) : writable v = true := by
  induction items with
  | nil => cases hv
  | cons w rest ih =>
    rw [allWritable, Bool.and_eq_true] at h
    rcases List.mem_cons.mp hv with rfl | hv
    · exact h.1
    · exact ih h.2 hv

theorem membersWritable_iff {members : List (PyStr × PyJson)} :
    membersWritable members = true ↔ ∀ m ∈ members, writable m.2 = true := by
  induction members with
  | nil => simp [membersWritable]
  | cons m rest ih =>
    obtain ⟨k, v⟩ := m
    rw [membersWritable, Bool.and_eq_true, ih, List.forall_mem_cons]

end Limits

/- `json.dumps`, which raises `ValueError` for an integer that is too long. -/
def dumps (ascii : Bool) (v : PyJson) : Option PyStr :=
  if writable v then some (print ascii v) else none

section Surrogates

mutual
/-- A lone surrogate stands somewhere in the value. -/
def surrogates : PyJson → Bool
  | .str s => hasSurrogate s
  | .arr items => itemsSurrogates items
  | .obj members => membersSurrogates members
  | _ => false
def itemsSurrogates : List PyJson → Bool
  | [] => false
  | v :: rest => surrogates v || itemsSurrogates rest
def membersSurrogates : List (PyStr × PyJson) → Bool
  | [] => false
  | (k, v) :: rest => hasSurrogate k || surrogates v || membersSurrogates rest
end

theorem membersSurrogates_any (members : List (PyStr × PyJson)) :
    membersSurrogates members = members.any fun m => hasSurrogate m.1 || surrogates m.2 := by
  induction members with
  | nil => rfl
  | cons m rest ih => rw [membersSurrogates, ih, List.any_cons]

theorem surrogate_escape (c : CodePoint) : hasSurrogate (escape false c) = isSurrogate c := by
  cases c with
  | char c => exact hasSurrogate_ofChars _
  | surrogate offset => rfl

@[simp] theorem surrogate_quote (s : PyStr) : hasSurrogate (quote false s) = hasSurrogate s := by
  have hbody : hasSurrogate (s.flatMap (escape false)) = hasSurrogate s := by
    induction s with
    | nil => rfl
    | cons c rest ih =>
      rw [List.flatMap_cons, hasSurrogate_append, surrogate_escape, ih]
      rfl
  have hquote : quote false s = [CodePoint.char '"'] ++ s.flatMap (escape false) ++
      [CodePoint.char '"'] := rfl
  rw [hquote, hasSurrogate_append, hasSurrogate_append, hbody]
  simp [hasSurrogate, isSurrogate]

theorem surrogate_separated (l : List PyStr) :
    hasSurrogate (separated l) = l.any hasSurrogate := by
  induction l with
  | nil => rfl
  | cons x rest ih =>
    cases rest with
    | nil => simp [separated]
    | cons y rest =>
      have hjoin : separated (x :: y :: rest) =
          x ++ ([CodePoint.char ','] ++ separated (y :: rest)) := rfl
      rw [hjoin, hasSurrogate_append, hasSurrogate_append, ih, List.any_cons]
      simp [hasSurrogate, isSurrogate]

/- Brackets of either kind. -/
theorem surrogate_brackets (o c : Char) (s : PyStr) :
    hasSurrogate (.char o :: s ++ [.char c]) = hasSurrogate s := by
  simp [hasSurrogate, isSurrogate]

mutual
/-- The text of a value holds a lone surrogate just when the value does. -/
theorem surrogate_print : ∀ v : PyJson, hasSurrogate (print false v) = surrogates v
  | .null | .bool true | .bool false | .int _ | .float _ | .constant _ =>
    hasSurrogate_ofChars _
  | .str s => surrogate_quote s
  | .arr items => by
    rw [print, surrogate_brackets, surrogate_separated, surrogate_printItems items, surrogates]
  | .obj members => by
    rw [print, surrogate_brackets, surrogate_separated, surrogate_printMembers members, surrogates]
theorem surrogate_printItems : ∀ items : List PyJson,
    (printItems false items).any hasSurrogate = itemsSurrogates items
  | [] => rfl
  | v :: rest => by
    rw [printItems, List.any_cons, surrogate_print v, surrogate_printItems rest, itemsSurrogates]
theorem surrogate_printMembers : ∀ members : List (PyStr × PyJson),
    (printMembers false members).any hasSurrogate = membersSurrogates members
  | [] => rfl
  | (k, v) :: rest => by
    have hmember : hasSurrogate (quote false k ++ .char ':' :: print false v) =
        (hasSurrogate k || surrogates v) := by
      rw [hasSurrogate_append, surrogate_quote, ← surrogate_print v]
      simp [hasSurrogate, isSurrogate]
    rw [printMembers, List.any_cons, hmember, surrogate_printMembers rest, membersSurrogates]
end

end Surrogates

section Sizes

mutual
/-- A bound on the bytes of a value's text. -/
def weight : PyJson → Nat
  | .null => 4
  | .bool _ => 5
  | .int n => (Nat.toDigits 10 n.natAbs).length + 1
  | .float literal => 4 * literal.length
  | .constant name => 4 * name.length
  | .str s => 6 * s.length + 2
  | .arr items => itemsWeight items + 2
  | .obj members => membersWeight members + 2
def itemsWeight : List PyJson → Nat
  | [] => 0
  | v :: rest => weight v + 1 + itemsWeight rest
def membersWeight : List (PyStr × PyJson) → Nat
  | [] => 0
  | (k, v) :: rest => 6 * k.length + 2 + 1 + weight v + 1 + membersWeight rest
end

theorem size_escape (c : CodePoint) : Utf8.size (escape false c) ≤ 6 := by
  cases c with
  | surrogate offset =>
    change 3 + 0 ≤ 6
    omega
  | char c =>
    change Utf8.size (ofChars (Json.escape c)) ≤ 6
    have hchar := Utf8.length_encodeChar c
    have hself : Utf8.size (ofChars [c]) ≤ 6 := by
      change Utf8.size (.char c :: []) ≤ 6
      rw [Utf8.size_cons, Utf8.size_nil]
      omega
    unfold Json.escape
    split
    · decide
    split
    · decide
    split
    · decide
    split
    · decide
    split
    · decide
    split
    · decide
    split
    · decide
    split
    · rename_i hcontrol
      have hdigits : ∀ n < 32, Utf8.size (ofChars
          ['\\', 'u', '0', '0', Json.hexDigit (n / 16), Json.hexDigit (n % 16)]) ≤ 6 := by decide
      exact hdigits c.toNat hcontrol
    · exact hself

theorem size_quote (s : PyStr) : Utf8.size (quote false s) ≤ 6 * s.length + 2 := by
  have hbody : Utf8.size (s.flatMap (escape false)) ≤ 6 * s.length := by
    induction s with
    | nil => simp
    | cons c rest ih =>
      have hone := size_escape c
      rw [List.flatMap_cons, Utf8.size_append, List.length_cons]
      omega
  have hquote : quote false s = [CodePoint.char '"'] ++ s.flatMap (escape false) ++
      [CodePoint.char '"'] := rfl
  have hmark : Utf8.size [CodePoint.char '"'] = 1 := by decide
  rw [hquote, Utf8.size_append, Utf8.size_append, hmark]
  omega

theorem size_brackets {o c : Char} (ho : (Utf8.encodeChar o).length = 1)
    (hc : (Utf8.encodeChar c).length = 1) (s : PyStr) :
    Utf8.size (.char o :: s ++ [.char c]) = Utf8.size s + 2 := by
  rw [List.cons_append, Utf8.size_cons, Utf8.size_append, Utf8.size_cons, Utf8.size_nil, ho, hc]
  omega

theorem size_separated (l : List PyStr) :
    Utf8.size (separated l) ≤ (l.map fun x => Utf8.size x + 1).sum := by
  induction l with
  | nil => exact Nat.le_refl 0
  | cons x rest ih =>
    cases rest with
    | nil =>
      simp [separated]
    | cons y rest =>
      have hjoin : separated (x :: y :: rest) =
          x ++ ([CodePoint.char ','] ++ separated (y :: rest)) := rfl
      have hcomma : Utf8.size [CodePoint.char ','] = 1 := by decide
      rw [hjoin, Utf8.size_append, Utf8.size_append, hcomma, List.map_cons, List.sum_cons]
      omega

theorem size_decimal (n : Int) :
    Utf8.size (ofChars (decimal n)) ≤ (Nat.toDigits 10 n.natAbs).length + 1 := by
  have hdigits (m : Nat) : Utf8.size (ofChars (Nat.toDigits 10 m)) = (Nat.toDigits 10 m).length := by
    apply Utf8.size_ascii
    intro c hc
    have hdigit : c.isDigit = true := Nat.isDigit_of_mem_toDigits (by decide) (by decide) hc
    simp only [Char.isDigit, Bool.and_eq_true, decide_eq_true_eq] at hdigit
    have hhigh : c.toNat ≤ 57 := hdigit.2
    omega
  cases n with
  | ofNat n =>
    have heq := hdigits n
    change Utf8.size (ofChars (Nat.toDigits 10 n)) ≤ (Nat.toDigits 10 n).length + 1
    omega
  | negSucc n =>
    have heq := hdigits (n + 1)
    have hminus : (Utf8.encodeChar '-').length = 1 := by decide
    change Utf8.size (.char '-' :: ofChars (Nat.toDigits 10 (n + 1))) ≤
      (Nat.toDigits 10 (n + 1)).length + 1
    rw [Utf8.size_cons, hminus, heq]
    omega

theorem size_ofChars (l : List Char) : Utf8.size (ofChars l) ≤ 4 * l.length := by
  induction l with
  | nil => simp [ofChars]
  | cons c rest ih =>
    have hone := Utf8.length_encodeChar c
    change Utf8.size (.char c :: ofChars rest) ≤ 4 * (rest.length + 1)
    rw [Utf8.size_cons]
    omega

mutual
theorem size_print : ∀ v : PyJson, Utf8.size (print false v) ≤ weight v
  | .null | .bool true | .bool false => by decide
  | .int n => size_decimal n
  | .float literal => size_ofChars literal
  | .constant name => size_ofChars name
  | .str s => size_quote s
  | .arr items => by
    have hitems := size_printItems items
    have hjoin := size_separated (printItems false items)
    rw [print, size_brackets (by decide) (by decide), weight]
    omega
  | .obj members => by
    have hmembers := size_printMembers members
    have hjoin := size_separated (printMembers false members)
    rw [print, size_brackets (by decide) (by decide), weight]
    omega
theorem size_printItems : ∀ items : List PyJson,
    ((printItems false items).map fun x => Utf8.size x + 1).sum ≤ itemsWeight items
  | [] => Nat.le_refl 0
  | v :: rest => by
    have hv := size_print v
    have hrest := size_printItems rest
    rw [printItems, List.map_cons, List.sum_cons, itemsWeight]
    omega
theorem size_printMembers : ∀ members : List (PyStr × PyJson),
    ((printMembers false members).map fun x => Utf8.size x + 1).sum ≤ membersWeight members
  | [] => Nat.le_refl 0
  | (k, v) :: rest => by
    have hk := size_quote k
    have hv := size_print v
    have hrest := size_printMembers rest
    have hcolon : (Utf8.encodeChar ':').length = 1 := by decide
    rw [printMembers, List.map_cons, List.sum_cons, membersWeight, Utf8.size_append,
      Utf8.size_cons, hcolon]
    omega
end

theorem membersWeight_sum (members : List (PyStr × PyJson)) :
    membersWeight members = (members.map fun m => 6 * m.1.length + weight m.2 + 4).sum := by
  induction members with
  | nil => rfl
  | cons m rest ih =>
    obtain ⟨k, v⟩ := m
    rw [membersWeight, ih, List.map_cons, List.sum_cons]
    change 6 * k.length + 2 + 1 + weight v + 1 + _ = 6 * k.length + weight v + 4 + _
    omega

theorem itemsWeight_le {items : List PyJson} {bound : Nat} (h : ∀ v ∈ items, weight v ≤ bound) :
    itemsWeight items ≤ items.length * (bound + 1) := by
  induction items with
  | nil => simp [itemsWeight]
  | cons v rest ih =>
    have hv := h v (by simp)
    have hrest := ih fun w hw => h w (List.mem_cons_of_mem v hw)
    rw [itemsWeight, List.length_cons, Nat.succ_mul]
    omega

end Sizes

section Reading

/- `isinstance(value, int) and not isinstance(value, bool)`. -/
def asInt : PyJson → Option Int
  | .int n => some n
  | _ => none

def asObj : PyJson → Option (List (PyStr × PyJson))
  | .obj members => some members
  | _ => none

end Reading
end PyJson
