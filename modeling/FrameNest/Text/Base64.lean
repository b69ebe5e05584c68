import FrameNest.Text.JsonFields

/-! Base64 in the alphabet for URLs and without the padding at its end, and JSON text carried in
it. -/
namespace Base64
open PyStr PyJson

/- `A-Za-z0-9-_`. -/
def digit (n : Nat) : Char :=
  if n < 26 then Char.ofNat (65 + n)
  else if n < 52 then Char.ofNat (71 + n)
  else if n < 62 then Char.ofNat (n - 4)
  else if n = 62 then '-'
  else '_'

def value? (c : Char) : Option Nat :=
  if 'A' ≤ c ∧ c ≤ 'Z' then some (c.toNat - 65)
  else if 'a' ≤ c ∧ c ≤ 'z' then some (c.toNat - 71)
  else if '0' ≤ c ∧ c ≤ '9' then some (c.toNat + 4)
  else if c = '-' then some 62
  else if c = '_' then some 63
  else none

/- `urlsafe_b64encode(..).rstrip("=")`. -/
def encode : List Nat → List Char
  | [] => []
  | [a] => [digit (a / 4), digit (a % 4 * 16)]
  | [a, b] => [digit (a / 4), digit (a % 4 * 16 + b / 16), digit (b % 16 * 4)]
  | a :: b :: c :: rest =>
    digit (a / 4) :: digit (a % 4 * 16 + b / 16) :: digit (b % 16 * 4 + c / 64) ::
      digit (c % 64) :: encode rest

/- `urlsafe_b64decode` with the padding put back. The bits that are left over are dropped, and one
character too many is refused. -/
def decode : List Char → Option (List Nat)
  | [] => some []
  | [_] => none
  | [x, y] => do
    let a ← value? x
    let b ← value? y
    return [a * 4 + b / 16]
  | [x, y, z] => do
    let a ← value? x
    let b ← value? y
    let c ← value? z
    return [a * 4 + b / 16, b % 16 * 16 + c / 4]
  | x :: y :: z :: w :: rest => do
    let a ← value? x
    let b ← value? y
    let c ← value? z
    let d ← value? w
    let more ← decode rest
    return (a * 4 + b / 16) :: (b % 16 * 16 + c / 4) :: (c % 4 * 64 + d) :: more

theorem value_digit {n : Nat} (h : n < 64) : value? (digit n) = some n := by
  have hall : ∀ n < 64, value? (digit n) = some n := by decide
  exact hall n h

/-- What was encoded is decoded. -/
theorem decode_encode : ∀ {bytes : List Nat}, (∀ b ∈ bytes, b < 256) →
    decode (encode bytes) = some bytes
  | [], _ => rfl
  | [a], h => by
    have ha : a < 256 := h a (by simp)
    have hback : a / 4 * 4 + a % 4 * 16 / 16 = a := by omega
    simp only [encode, decode, value_digit (show a / 4 < 64 by omega),
      value_digit (show a % 4 * 16 < 64 by omega), Option.bind_eq_bind, Option.bind_some, hback]
    rfl
  | [a, b], h => by
    have ha : a < 256 := h a (by simp)
    have hb : b < 256 := h b (by simp)
    have hfirst : a / 4 * 4 + (a % 4 * 16 + b / 16) / 16 = a := by omega
    have hsecond : (a % 4 * 16 + b / 16) % 16 * 16 + b % 16 * 4 / 4 = b := by omega
    simp only [encode, decode, value_digit (show a / 4 < 64 by omega),
      value_digit (show a % 4 * 16 + b / 16 < 64 by omega),
      value_digit (show b % 16 * 4 < 64 by omega), Option.bind_eq_bind, Option.bind_some, hfirst,
      hsecond]
    rfl
  | a :: b :: c :: rest, h => by
    have ha : a < 256 := h a (by simp)
    have hb : b < 256 := h b (by simp)
    have hc : c < 256 := h c (by simp)
    have hrest : decode (encode rest) = some rest := decode_encode fun d hd => h d (by simp [hd])
    have hfirst : a / 4 * 4 + (a % 4 * 16 + b / 16) / 16 = a := by omega
    have hsecond : (a % 4 * 16 + b / 16) % 16 * 16 + (b % 16 * 4 + c / 64) / 4 = b := by omega
    have hthird : (b % 16 * 4 + c / 64) % 4 * 64 + c % 64 = c := by omega
    simp only [encode, decode, value_digit (show a / 4 < 64 by omega),
      value_digit (show a % 4 * 16 + b / 16 < 64 by omega),
      value_digit (show b % 16 * 4 + c / 64 < 64 by omega),
      value_digit (show c % 64 < 64 by omega), Option.bind_eq_bind, Option.bind_some, hrest, hfirst,
      hsecond, hthird]
    rfl

/-- Every character written is one of the alphabet. -/
theorem encode_alphabet : ∀ {bytes : List Nat}, (∀ b ∈ bytes, b < 256) →
    ∀ c ∈ encode bytes, (value? c).isSome = true := by
  have hdigit : ∀ n, n < 64 → (value? (digit n)).isSome = true := by
    intro n hn
    rw [value_digit hn]
    rfl
  intro bytes
  induction bytes using encode.induct with
  | case1 => simp [encode]
  | case2 a =>
    intro h c hc
    have ha : a < 256 := h a (by simp)
    simp only [encode, List.mem_cons, List.not_mem_nil, or_false] at hc
    obtain rfl | rfl := hc <;> exact hdigit _ (by omega)
  | case3 a b =>
    intro h c hc
    have ha : a < 256 := h a (by simp)
    have hb : b < 256 := h b (by simp)
    simp only [encode, List.mem_cons, List.not_mem_nil, or_false] at hc
    obtain rfl | rfl | rfl := hc <;> exact hdigit _ (by omega)
  | case4 a b d rest ih =>
    intro h c hc
    have ha : a < 256 := h a (by simp)
    have hb : b < 256 := h b (by simp)
    have hd : d < 256 := h d (by simp)
    simp only [encode, List.mem_cons] at hc
    obtain rfl | rfl | rfl | rfl | hc := hc
    · exact hdigit _ (by omega)
    · exact hdigit _ (by omega)
    · exact hdigit _ (by omega)
    · exact hdigit _ (by omega)
    · exact ih (fun e he => h e (by simp [he])) c hc

theorem encode_ne_nil {bytes : List Nat} (h : bytes ≠ []) : encode bytes ≠ [] := by
  match bytes, h with
  | [_], _ => simp [encode]
  | [_, _], _ => simp [encode]
  | _ :: _ :: _ :: _, _ => simp [encode]

section Ascii

/- `s.encode("ascii")`; only ASCII text is encoded here. -/
def asciiBytes (s : PyStr) : List Nat :=
  s.map fun
    | .char c => c.toNat
    | .surrogate offset => 0xd800 + offset.val

/- `raw.decode("ascii")`. -/
def asciiText (bytes : List Nat) : Option PyStr :=
  if bytes.all (· < 128) then some (bytes.map fun n => .char (Char.ofNat n)) else none

/-- Text of ASCII characters. -/
def Ascii (s : PyStr) : Prop := ∀ c ∈ s, ∃ d : Char, c = .char d ∧ d.toNat < 128

theorem ascii_ofChars {l : List Char} : Ascii (ofChars l) ↔ ∀ c ∈ l, c.toNat < 128 := by
  simp [Ascii, ofChars]

theorem ascii_append {s t : PyStr} : Ascii (s ++ t) ↔ Ascii s ∧ Ascii t := by
  simp [Ascii, or_imp, forall_and]

theorem ascii_cons {c : Char} {s : PyStr} : Ascii (.char c :: s) ↔ c.toNat < 128 ∧ Ascii s := by
  simp [Ascii]

theorem ascii_bytes {s : PyStr} (h : Ascii s) : ∀ b ∈ asciiBytes s, b < 128 := by
  intro b hb
  obtain ⟨c, hc, rfl⟩ := List.mem_map.mp hb
  obtain ⟨d, rfl, hd⟩ := h c hc
  exact hd

/-- ASCII text comes back from its bytes. -/
theorem asciiText_bytes {s : PyStr} (h : Ascii s) : asciiText (asciiBytes s) = some s := by
  have hall : (asciiBytes s).all (· < 128) = true := by
    rw [List.all_eq_true]
    intro b hb
    exact decide_eq_true (ascii_bytes h b hb)
  rw [asciiText, if_pos hall, asciiBytes, List.map_map]
  congr 1
  conv_rhs => rw [← List.map_id s]
  apply List.map_congr_left
  intro c hc
  obtain ⟨d, rfl, -⟩ := h c hc
  exact congrArg CodePoint.char (Char.ofNat_toNat d)

theorem hexDigit_ascii (n : Nat) (h : n < 16) : (Json.hexDigit n).toNat < 128 := by
  have hall : ∀ n < 16, (Json.hexDigit n).toNat < 128 := by decide
  exact hall n h

theorem hex4_ascii (n : Nat) : ∀ c ∈ Parsed.hex4 n, c.toNat < 128 := by
  intro c hc
  simp only [Parsed.hex4, List.mem_cons, List.not_mem_nil, or_false] at hc
  obtain rfl | rfl | rfl | rfl := hc <;> exact hexDigit_ascii _ (by omega)

theorem escapeAscii_ascii (c : Char) : ∀ d ∈ Parsed.escapeAscii c, d.toNat < 128 := by
  unfold Parsed.escapeAscii
  simp only
  split
  · rename_i hsmall
    unfold Json.escape
    split
    · simp
    split
    · simp
    split
    · simp
    split
    · simp
    split
    · simp
    split
    · simp
    split
    · simp
    split
    · intro d hd
      simp only [List.mem_cons, List.not_mem_nil, or_false] at hd
      obtain rfl | rfl | rfl | rfl | rfl | rfl := hd
      · decide
      · decide
      · decide
      · decide
      · exact hexDigit_ascii _ (by omega)
      · exact hexDigit_ascii _ (by omega)
    · intro d hd
      obtain rfl := List.mem_singleton.mp hd
      omega
  split
  · intro d hd
    simp only [List.mem_cons] at hd
    obtain rfl | rfl | hd := hd
    · decide
    · decide
    · exact hex4_ascii _ d hd
  · intro d hd
    simp only [List.cons_append, List.mem_cons, List.mem_append] at hd
    obtain rfl | rfl | hd | rfl | rfl | hd := hd
    · decide
    · decide
    · exact hex4_ascii _ d hd
    · decide
    · decide
    · exact hex4_ascii _ d hd

theorem ascii_flatMap (s : PyStr) : Ascii (s.flatMap (escape true)) := by
  intro c hc
  obtain ⟨d, -, hd⟩ := List.mem_flatMap.mp hc
  have hone : Ascii (escape true d) := by
    cases d with
    | char d => exact ascii_ofChars.mpr (escapeAscii_ascii d)
    | surrogate offset =>
      refine ascii_ofChars.mpr fun e he => ?_
      simp only [List.mem_cons] at he
      obtain rfl | rfl | he := he
      · decide
      · decide
      · exact hex4_ascii _ e he
  exact hone c hd

theorem ascii_quote (s : PyStr) : Ascii (quote true s) := by
  rw [quote, List.cons_append, ascii_cons, ascii_append]
  exact ⟨by decide, ascii_flatMap s, ascii_cons.mpr ⟨by decide, by simp [Ascii]⟩⟩

theorem ascii_separated {l : List PyStr} (h : ∀ s ∈ l, Ascii s) : Ascii (separated l) := by
  induction l with
  | nil => simp [separated, Ascii]
  | cons x rest ih =>
    cases rest with
    | nil => exact h x (by simp)
    | cons y rest =>
      rw [separated, ascii_append, ascii_cons]
      exact ⟨h x (by simp), by decide, ih fun s hs => h s (by simp [hs])⟩

theorem ascii_decimal (n : Int) : Ascii (ofChars (decimal n)) := by
  have hdigits : ∀ m, ∀ c ∈ Nat.toDigits 10 m, c.toNat < 128 := by
    intro m c hc
    have hdigit : c.isDigit = true := Nat.isDigit_of_mem_toDigits (by decide) (by decide) hc
    simp only [Char.isDigit, Bool.and_eq_true, decide_eq_true_eq] at hdigit
    have hhigh : c.toNat ≤ 57 := hdigit.2
    omega
  rw [ascii_ofChars]
  cases n with
  | ofNat n => exact hdigits n
  | negSucc n =>
    intro c hc
    obtain rfl | hc := List.mem_cons.mp hc
    · decide
    · exact hdigits _ c hc

mutual
/-- With `ensure_ascii` a value without floats is written in ASCII. -/
theorem ascii_print : ∀ (v : PyJson) {room : Nat}, JsonReader.fits true v room = true →
    Ascii (print true v)
  | .null, _, _ | .bool true, _, _ | .bool false, _, _ => ascii_ofChars.mpr (by simp)
  | .int n, _, _ => ascii_decimal n
  | .str s, _, _ => ascii_quote s
  | .float _, _, h | .constant _, _, h => by simp [JsonReader.fits] at h
  | .arr items, room, h => by
    simp only [JsonReader.fits, Bool.and_eq_true] at h
    rw [print, List.cons_append, ascii_cons, ascii_append]
    exact ⟨by decide, ascii_separated (ascii_printItems items h.2),
      ascii_cons.mpr ⟨by decide, by simp [Ascii]⟩⟩
  | .obj members, room, h => by
    simp only [JsonReader.fits, Bool.and_eq_true] at h
    rw [print, List.cons_append, ascii_cons, ascii_append]
    exact ⟨by decide, ascii_separated (ascii_printMembers members h.2),
      ascii_cons.mpr ⟨by decide, by simp [Ascii]⟩⟩
theorem ascii_printItems : ∀ (items : List PyJson) {room : Nat},
    JsonReader.allFit true items room = true → ∀ s ∈ printItems true items, Ascii s
  | [], _, _ => by simp [printItems]
  | v :: rest, room, h => by
    simp only [JsonReader.allFit, Bool.and_eq_true] at h
    intro s hs
    rw [printItems, List.mem_cons] at hs
    obtain rfl | hs := hs
    · exact ascii_print v h.1
    · exact ascii_printItems rest h.2 s hs
theorem ascii_printMembers : ∀ (members : List (PyStr × PyJson)) {room : Nat},
    JsonReader.membersFit true members room = true → ∀ s ∈ printMembers true members, Ascii s
  | [], _, _ => by simp [printMembers]
  | (k, v) :: rest, room, h => by
    simp only [JsonReader.membersFit, Bool.and_eq_true] at h
    intro s hs
    rw [printMembers, List.mem_cons] at hs
    obtain rfl | hs := hs
    · rw [ascii_append, ascii_cons]
      exact ⟨ascii_quote k, by decide, ascii_print v h.1.2⟩
    · exact ascii_printMembers rest h.2 s hs
end

end Ascii

section Carried

/- `base64url(json.dumps(v))` as text. -/
def carry (v : PyJson) : List Char := encode (asciiBytes (print true v))

/- The value in a text: not empty, of the alphabet, ASCII underneath, and JSON. -/
def carried (nesting : Nat) (text : List Char) : Option PyJson :=
  if text ≠ [] ∧ (text.all fun c => (value? c).isSome) = true then
    ((decode text).bind asciiText).bind fun s => (JsonReader.loads ⟨nesting, false⟩ s).toOption
  else none

/-- A value carried as text comes back. -/
theorem carried_carry {v : PyJson} {nesting : Nat} (h : JsonReader.fits true v nesting = true) :
    carried nesting (carry v) = some v := by
  have hascii := ascii_print v h
  have hbytes : ∀ b ∈ asciiBytes (print true v), b < 256 := by
    intro b hb
    have hb := ascii_bytes hascii b hb
    omega
  have hloads := (JsonReader.loads_print ⟨nesting, false⟩ h).1
  have hne : asciiBytes (print true v) ≠ [] := by
    intro hnil
    have hempty : print true v = [] := List.map_eq_nil_iff.mp hnil
    rw [hempty] at hloads
    cases hloads
  have hall : ((carry v).all fun c => (value? c).isSome) = true := by
    rw [List.all_eq_true]
    exact encode_alphabet hbytes
  rw [carried, if_pos ⟨encode_ne_nil hne, hall⟩, carry, decode_encode hbytes]
  simp only [Option.bind_some, asciiText_bytes hascii, hloads]
  rfl

end Carried
end Base64
