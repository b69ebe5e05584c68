import Mathlib.Algebra.GroupWithZero.Nat
import Mathlib.Data.List.Basic

/-! JSON values and their compact text: `json.dumps` with `separators=(",", ":")`
and `ensure_ascii=False`. Object members stand in the order they are written in. -/

inductive Json where
  | null
  | bool (b : Bool)
  | int (n : Int)
  | str (s : String)
  | arr (items : List Json)
  | obj (members : List (String × Json))

namespace Json

def hexDigit (n : Nat) : Char := if n < 10 then Char.ofNat (48 + n) else Char.ofNat (87 + n)

def escape (c : Char) : List Char :=
  if c = '"' then ['\\', '"']
  else if c = '\\' then ['\\', '\\']
  else if c = '\n' then ['\\', 'n']
  else if c = '\r' then ['\\', 'r']
  else if c = '\t' then ['\\', 't']
  else if c.toNat = 8 then ['\\', 'b']
  else if c.toNat = 12 then ['\\', 'f']
  else if c.toNat < 32 then ['\\', 'u', '0', '0', hexDigit (c.toNat / 16), hexDigit (c.toNat % 16)]
  else [c]

def quote (s : String) : List Char := '"' :: s.toList.flatMap escape ++ ['"']

def separated : List (List Char) → List Char
  | [] => []
  | [x] => x
  | x :: y :: rest => x ++ ',' :: separated (y :: rest)

mutual
def dumps : Json → List Char
  | .null => "null".toList
  | .bool true => "true".toList
  | .bool false => "false".toList
  | .int n => (toString n).toList
  | .str s => quote s
  | .arr items => '[' :: separated (dumpsItems items) ++ [']']
  | .obj members => '\x7b' :: separated (dumpsMembers members) ++ ['\x7d']
def dumpsItems : List Json → List (List Char)
  | [] => []
  | j :: rest => dumps j :: dumpsItems rest
def dumpsMembers : List (String × Json) → List (List Char)
  | [] => []
  | (k, j) :: rest => (quote k ++ ':' :: dumps j) :: dumpsMembers rest
end

section Widths

/- How many characters stand for one. -/
def escapeWidth (c : Char) : Nat :=
  if c = '"' ∨ c = '\\' ∨ c = '\n' ∨ c = '\r' ∨ c = '\t' ∨ c.toNat = 8 ∨ c.toNat = 12 then 2
  else if c.toNat < 32 then 6
  else 1

theorem length_escape (c : Char) : (escape c).length = escapeWidth c := by
  unfold escape escapeWidth
  by_cases hquote : c = '"'
  · simp [hquote]
  by_cases hslash : c = '\\'
  · simp [hslash]
  by_cases hnewline : c = '\n'
  · simp [hnewline]
  by_cases hreturn : c = '\r'
  · simp [hreturn]
  by_cases htab : c = '\t'
  · simp [htab]
  by_cases hback : c.toNat = 8
  · simp [hquote, hslash, hnewline, hreturn, htab, hback]
  by_cases hfeed : c.toNat = 12
  · simp [hquote, hslash, hnewline, hreturn, htab, hfeed]
  by_cases hcontrol : c.toNat < 32
  · simp [hquote, hslash, hnewline, hreturn, htab, hback, hfeed, hcontrol]
  · simp [hquote, hslash, hnewline, hreturn, htab, hback, hfeed, hcontrol]

def quotedWidth (s : String) : Nat := (s.toList.map escapeWidth).sum + 2

theorem length_quote (s : String) : (quote s).length = quotedWidth s := by
  simp only [quote, quotedWidth, List.length_cons, List.length_append, List.length_flatMap,
    length_escape, List.length_nil]

/-- Between two items stands one comma. -/
theorem length_separated (items : List (List Char)) :
    (separated items).length = (items.map List.length).sum + (items.length - 1) := by
  induction items with
  | nil => rfl
  | cons x items ih =>
    cases items with
    | nil => simp [separated]
    | cons y rest =>
      simp only [separated, List.length_append, List.length_cons, ih, List.map_cons, List.sum_cons]
      omega

theorem length_dumps_arr (items : List Json) :
    (dumps (.arr items)).length =
      (items.map fun j => (dumps j).length).sum + (items.length - 1) + 2 := by
  have hitems : ∀ items : List Json, dumpsItems items = items.map dumps := by
    intro items
    induction items with
    | nil => rfl
    | cons j items ih => simp [dumpsItems, ih]
  simp only [dumps, List.length_cons, List.length_append, length_separated, hitems, List.map_map,
    List.length_map, List.length_nil, Function.comp_def]

theorem length_dumps_obj (members : List (String × Json)) :
    (dumps (.obj members)).length =
      (members.map fun m => quotedWidth m.1 + 1 + (dumps m.2).length).sum +
        (members.length - 1) + 2 := by
  have hmembers : ∀ members : List (String × Json),
      dumpsMembers members = members.map fun m => quote m.1 ++ ':' :: dumps m.2 := by
    intro members
    induction members with
    | nil => rfl
    | cons m members ih => simp [dumpsMembers, ih]
  have hlength : ∀ m : String × Json,
      (quote m.1 ++ ':' :: dumps m.2).length = quotedWidth m.1 + 1 + (dumps m.2).length := by
    intro m
    simp only [List.length_append, List.length_cons, length_quote]
    omega
  simp only [dumps, List.length_cons, List.length_append, length_separated, hmembers,
    List.map_map, List.length_map, List.length_nil, Function.comp_def, hlength]

theorem length_dumps_str (s : String) : (dumps (.str s)).length = quotedWidth s := by
  simp only [dumps, length_quote]

end Widths

/- `mapping.get(key)` of an object. -/
def get? : Json → String → Option Json
  | .obj members, k => members.lookup k
  | _, _ => none

/-! The text of a string determines it. -/

def hexValue (c : Char) : Nat := if c.toNat < 87 then c.toNat - 48 else c.toNat - 87

/- One escaped character and what follows it; no character is written as a bare quote. -/
def readChar : List Char → Option (Char × List Char)
  | '\\' :: '"' :: rest => some ('"', rest)
  | '\\' :: '\\' :: rest => some ('\\', rest)
  | '\\' :: 'n' :: rest => some ('\n', rest)
  | '\\' :: 'r' :: rest => some ('\r', rest)
  | '\\' :: 't' :: rest => some ('\t', rest)
  | '\\' :: 'b' :: rest => some (Char.ofNat 8, rest)
  | '\\' :: 'f' :: rest => some (Char.ofNat 12, rest)
  | '\\' :: 'u' :: '0' :: '0' :: a :: b :: rest =>
    some (Char.ofNat (16 * hexValue a + hexValue b), rest)
  | '"' :: _ | '\\' :: _ | [] => none
  | c :: rest => some (c, rest)

theorem hexValue_hexDigit :
    ∀ n < 32, 16 * hexValue (hexDigit (n / 16)) + hexValue (hexDigit (n % 16)) = n := by decide

theorem readChar_escape (c : Char) (rest : List Char) :
    readChar (escape c ++ rest) = some (c, rest) := by
  by_cases hquote : c = '"'
  · subst hquote
    rfl
  by_cases hslash : c = '\\'
  · subst hslash
    rfl
  by_cases hnewline : c = '\n'
  · subst hnewline
    rfl
  by_cases hreturn : c = '\r'
  · subst hreturn
    rfl
  by_cases htab : c = '\t'
  · subst htab
    rfl
  have hnat : ∀ n, c.toNat = n → Char.ofNat n = c := fun n hn => hn ▸ Char.ofNat_toNat c
  by_cases hback : c.toNat = 8
  · simpa [escape, readChar, hquote, hslash, hnewline, hreturn, htab, hback] using hnat 8 hback
  by_cases hfeed : c.toNat = 12
  · simpa [escape, readChar, hquote, hslash, hnewline, hreturn, htab, hfeed] using hnat 12 hfeed
  by_cases hcontrol : c.toNat < 32
  · have hcode := hnat _ (hexValue_hexDigit c.toNat hcontrol).symm
    simp [escape, readChar, hquote, hslash, hnewline, hreturn, htab, hback, hfeed, hcontrol, hcode]
  · simp [escape, readChar, hquote, hslash, hnewline, hreturn, htab, hback, hfeed, hcontrol]

theorem escapes_injective {xs ys r r' : List Char}
    (h : xs.flatMap escape ++ '"' :: r = ys.flatMap escape ++ '"' :: r') : xs = ys ∧ r = r' := by
  induction xs generalizing ys with
  | nil =>
    cases ys with
    | nil => exact ⟨rfl, by simpa using h⟩
    | cons y ys =>
      have hread := congrArg readChar h
      rw [List.flatMap_cons, List.append_assoc, readChar_escape] at hread
      cases hread
  | cons x xs ih =>
    cases ys with
    | nil =>
      have hread := congrArg readChar h
      rw [List.flatMap_cons, List.append_assoc, readChar_escape] at hread
      cases hread
    | cons y ys =>
      have hread := congrArg readChar h
      rw [List.flatMap_cons, List.flatMap_cons, List.append_assoc, List.append_assoc,
        readChar_escape, readChar_escape, Option.some.injEq, Prod.mk.injEq] at hread
      obtain ⟨rfl, hrest⟩ := hread
      obtain ⟨rfl, hr⟩ := ih hrest
      exact ⟨rfl, hr⟩

/-- A quoted string ends where it says: neither it nor what follows can be another. -/
theorem quote_append_injective {a b : String} {r r' : List Char}
    (h : quote a ++ r = quote b ++ r') : a = b ∧ r = r' := by
  simp only [quote, List.cons_append, List.append_assoc, List.nil_append, List.cons.injEq,
    true_and] at h
  obtain ⟨hab, hr⟩ := escapes_injective h
  exact ⟨String.toList_injective hab, hr⟩

theorem dumpsItems_strings (xs : List String) : dumpsItems (xs.map .str) = xs.map quote := by
  induction xs with
  | nil => rfl
  | cons x xs ih => simp [dumpsItems, dumps, ih]

/-- The text between the brackets of a list of strings determines the list. -/
theorem separated_injective {xs ys : List String} {r r' : List Char}
    (h : separated (xs.map quote) ++ ']' :: r = separated (ys.map quote) ++ ']' :: r') :
    xs = ys := by
  induction xs generalizing ys with
  | nil =>
    match ys with
    | [] => rfl
    | [y] => simp [separated, quote] at h
    | y :: y' :: ys => simp [separated, quote] at h
  | cons x xs ih =>
    match xs, ys with
    | [], [] => simp [separated, quote] at h
    | _ :: _, [] => simp [separated, quote] at h
    | [], [y] =>
      obtain ⟨rfl, -⟩ := quote_append_injective (by simpa [separated] using h)
      rfl
    | [], y :: y' :: ys =>
      have hquoted : quote x ++ (']' :: r) =
          quote y ++ (',' :: separated ((y' :: ys).map quote) ++ ']' :: r') := by
        simpa [separated] using h
      have hrest := (quote_append_injective hquoted).2
      simp at hrest
    | x' :: xs, [y] =>
      have hquoted : quote x ++ (',' :: separated ((x' :: xs).map quote) ++ ']' :: r) =
          quote y ++ (']' :: r') := by
        simpa [separated] using h
      have hrest := (quote_append_injective hquoted).2
      simp at hrest
    | x' :: xs, y :: y' :: ys =>
      have hquoted : quote x ++ (',' :: separated ((x' :: xs).map quote) ++ ']' :: r) =
          quote y ++ (',' :: separated ((y' :: ys).map quote) ++ ']' :: r') := by
        simpa [separated] using h
      obtain ⟨rfl, hrest⟩ := quote_append_injective hquoted
      have htail : x' :: xs = y' :: ys := ih (by simpa using hrest)
      rw [htail]

/-- The text of a list of strings determines the list. -/
theorem dumps_strings_injective {xs ys : List String}
    (h : dumps (.arr (xs.map .str)) = dumps (.arr (ys.map .str))) : xs = ys := by
  simp only [dumps, dumpsItems_strings, List.cons_append, List.cons.injEq, true_and] at h
  exact separated_injective h

end Json
