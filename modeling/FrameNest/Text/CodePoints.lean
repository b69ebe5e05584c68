import Mathlib.Data.List.Basic
import Mathlib.Tactic.IntervalCases

/-! Decoding of UTF-8 bytes where every ill-formed sequence becomes one replacement
character: the longest prefix of a sequence that could still have become well formed. -/
namespace Utf8

abbrev Bytes := List UInt8

/- The bytes of an ASCII text. -/
def ascii (s : String) : Bytes := s.toList.map fun c => c.toNat.toUInt8

/- `b.lower()`: ASCII letters only. -/
def lower (b : Bytes) : Bytes := b.map fun x => if 65 ≤ x ∧ x ≤ 90 then x + 32 else x

def replacement : Char := Char.ofNat 0xfffd

/-- How a sequence goes on after its first byte: how many more bytes, the bits of the first
byte, and the range of the second. -/
structure Lead where
  more : Nat
  bits : Nat
  low : UInt8
  high : UInt8

/- Overlong forms, surrogates and code points past the last one are excluded by the range of
   the second byte. -/
def lead (b : UInt8) : Option Lead :=
  if 0xc2 ≤ b ∧ b ≤ 0xdf then some ⟨1, b.toNat % 32, 0x80, 0xbf⟩
  else if b = 0xe0 then some ⟨2, 0, 0xa0, 0xbf⟩
  else if b = 0xed then some ⟨2, 13, 0x80, 0x9f⟩
  else if 0xe1 ≤ b ∧ b ≤ 0xef then some ⟨2, b.toNat % 16, 0x80, 0xbf⟩
  else if b = 0xf0 then some ⟨3, 0, 0x90, 0xbf⟩
  else if 0xf1 ≤ b ∧ b ≤ 0xf3 then some ⟨3, b.toNat % 8, 0x80, 0xbf⟩
  else if b = 0xf4 then some ⟨3, 4, 0x80, 0x8f⟩
  else none

/-- What is still missing of the sequence being read, and the range of its next byte. -/
structure Open where
  missing : Nat
  bits : Nat
  low : UInt8
  high : UInt8

def start (b : UInt8) : List Char × Option Open :=
  if b < 0x80 then ([Char.ofNat b.toNat], none)
  else
    match lead b with
    | some l => ([], some ⟨l.more, l.bits, l.low, l.high⟩)
    | none => ([replacement], none)

/- A byte that cannot continue an open sequence ends it and is read again as a first byte. -/
def feed (state : Option Open) (b : UInt8) : List Char × Option Open :=
  match state with
  | none => start b
  | some o =>
    if o.low ≤ b ∧ b ≤ o.high then
      let bits := o.bits * 64 + b.toNat % 64
      if o.missing ≤ 1 then ([Char.ofNat bits], none)
      else ([], some ⟨o.missing - 1, bits, 0x80, 0xbf⟩)
    else (replacement :: (start b).1, (start b).2)

def decodeFrom : Option Open → Bytes → List Char
  | none, [] => []
  | some _, [] => [replacement]
  | state, b :: rest => (feed state b).1 ++ decodeFrom (feed state b).2 rest

example : decodeFrom none [0x61, 0xc3, 0x9f, 0xe2, 0x82, 0x62, 0xff] =
    ['a', 'ß', replacement, 'b', replacement] := by decide

end Utf8

/-! Python strings: sequences of code points, lone surrogates among them, and UTF-8 as strict
encoding and decoding have it. -/

/-- A code point: a character, or one of the surrogates, which no UTF-8 text holds. -/
inductive CodePoint where
  | char (c : Char)
  | surrogate (offset : Fin 2048)
deriving DecidableEq

/-- A Python `str`. -/
abbrev PyStr := List CodePoint

instance lawfulPyStr : LawfulBEq PyStr := inferInstance

namespace PyStr

def ofChars (l : List Char) : PyStr := l.map .char
def ofString (s : String) : PyStr := ofChars s.toList

def isSurrogate : CodePoint → Bool
  | .char _ => false
  | .surrogate _ => true

def hasSurrogate (s : PyStr) : Bool := s.any isSurrogate

/- The characters of a string without surrogates. -/
def chars? : PyStr → Option (List Char)
  | [] => some []
  | .char c :: rest => (chars? rest).map (c :: ·)
  | .surrogate _ :: _ => none

/- A code point with a property of characters; no surrogate has one. -/
def lift (p : Char → Bool) : CodePoint → Bool
  | .char c => p c
  | .surrogate _ => false

theorem char_injective : Function.Injective CodePoint.char := fun _ _ h => CodePoint.char.inj h

theorem ofChars_injective : Function.Injective ofChars := List.map_injective_iff.mpr char_injective

theorem ofString_injective : Function.Injective ofString := fun _ _ h =>
  String.toList_injective (ofChars_injective h)

@[simp] theorem chars?_ofChars (l : List Char) : chars? (ofChars l) = some l := by
  induction l with
  | nil => rfl
  | cons c rest ih =>
    change (chars? (ofChars rest)).map (c :: ·) = some (c :: rest)
    rw [ih]
    rfl

theorem chars?_some {s : PyStr} {l : List Char} (h : chars? s = some l) : s = ofChars l := by
  induction s generalizing l with
  | nil =>
    cases h
    rfl
  | cons c rest ih =>
    cases c with
    | surrogate offset => cases h
    | char c =>
      obtain ⟨tail, htail, rfl⟩ := Option.map_eq_some_iff.mp h
      rw [ih htail]
      rfl

/-- Only a surrogate stands in the way. -/
theorem chars?_none {s : PyStr} : chars? s = none ↔ hasSurrogate s = true := by
  induction s with
  | nil => simp [chars?, hasSurrogate]
  | cons c rest ih =>
    cases c with
    | surrogate offset => simp [chars?, hasSurrogate, isSurrogate]
    | char c => simpa [chars?, hasSurrogate, isSurrogate] using ih

@[simp] theorem hasSurrogate_ofChars (l : List Char) : hasSurrogate (ofChars l) = false := by
  simp [hasSurrogate, ofChars, isSurrogate]

@[simp] theorem hasSurrogate_append (s t : PyStr) :
    hasSurrogate (s ++ t) = (hasSurrogate s || hasSurrogate t) := by
  simp [hasSurrogate]

end PyStr

namespace Utf8

def byte (n : Nat) : UInt8 := UInt8.ofNat n

theorem toNat_byte {n : Nat} (h : n < 256) : (byte n).toNat = n := by
  simp [byte, Nat.mod_eq_of_lt h]

/- The bytes of one character. -/
def encodeChar (c : Char) : Bytes :=
  let n := c.toNat
  if n < 0x80 then [byte n]
  else if n < 0x800 then [byte (0xc0 + n / 64), byte (0x80 + n % 64)]
  else if n < 0x10000 then
    [byte (0xe0 + n / 4096), byte (0x80 + n / 64 % 64), byte (0x80 + n % 64)]
  else
    [byte (0xf0 + n / 262144), byte (0x80 + n / 4096 % 64), byte (0x80 + n / 64 % 64),
      byte (0x80 + n % 64)]

/- `s.encode("utf-8")`, which raises for a surrogate. -/
def encode (s : PyStr) : Option Bytes := s.chars?.map fun l => l.flatMap encodeChar

/- A decoder that gives up at the first byte that cannot stand where it stands. -/
def decodeStrictFrom : Option Open → Bytes → Option (List Char)
  | none, [] => some []
  | some _, [] => none
  | none, b :: rest =>
    if b < 0x80 then (decodeStrictFrom none rest).map (Char.ofNat b.toNat :: ·)
    else
      match lead b with
      | some l => decodeStrictFrom (some ⟨l.more, l.bits, l.low, l.high⟩) rest
      | none => none
  | some o, b :: rest =>
    if o.low ≤ b ∧ b ≤ o.high then
      let bits := o.bits * 64 + b.toNat % 64
      if o.missing ≤ 1 then (decodeStrictFrom none rest).map (Char.ofNat bits :: ·)
      else decodeStrictFrom (some ⟨o.missing - 1, bits, 0x80, 0xbf⟩) rest
    else none

/- `b.decode("utf-8")`. -/
def decodeStrict (b : Bytes) : Option (List Char) := decodeStrictFrom none b

section RoundTrip
variable {n : Nat} {rest : Bytes}

theorem tail_within {low high : UInt8} (hn : n < 64) (hlow : low.toNat ≤ 0x80 + n)
    (hhigh : 0x80 + n ≤ high.toNat) : low ≤ byte (0x80 + n) ∧ byte (0x80 + n) ≤ high := by
  have hbyte : (byte (0x80 + n)).toNat = 0x80 + n := toNat_byte (by omega)
  rw [UInt8.le_iff_toNat_le, UInt8.le_iff_toNat_le, hbyte]
  exact ⟨hlow, hhigh⟩

theorem decode_last {bits : Nat} (hn : n < 64) {low high : UInt8} (hlow : low.toNat ≤ 0x80 + n)
    (hhigh : 0x80 + n ≤ high.toNat) :
    decodeStrictFrom (some ⟨1, bits, low, high⟩) (byte (0x80 + n) :: rest) =
      (decodeStrictFrom none rest).map (Char.ofNat (bits * 64 + n) :: ·) := by
  have hbyte : (byte (0x80 + n)).toNat = 0x80 + n := toNat_byte (by omega)
  have hbits : bits * 64 + (0x80 + n) % 64 = bits * 64 + n := by omega
  rw [decodeStrictFrom, if_pos (tail_within hn hlow hhigh), hbyte, hbits]
  rfl

theorem decode_more {bits : Nat} (missing : Nat) (hn : n < 64) {low high : UInt8}
    (hlow : low.toNat ≤ 0x80 + n) (hhigh : 0x80 + n ≤ high.toNat) :
    decodeStrictFrom (some ⟨missing + 2, bits, low, high⟩) (byte (0x80 + n) :: rest) =
      decodeStrictFrom (some ⟨missing + 1, bits * 64 + n, 0x80, 0xbf⟩) rest := by
  have hbyte : (byte (0x80 + n)).toNat = 0x80 + n := toNat_byte (by omega)
  have hbits : bits * 64 + (0x80 + n) % 64 = bits * 64 + n := by omega
  have hmany : ¬missing + 2 ≤ 1 := by omega
  rw [decodeStrictFrom, if_pos (tail_within hn hlow hhigh), hbyte, hbits]
  exact if_neg hmany

theorem decode_lead {b : UInt8} {l : Lead} (hb : 0x80 ≤ b.toNat) (hl : lead b = some l) :
    decodeStrictFrom none (b :: rest) =
      decodeStrictFrom (some ⟨l.more, l.bits, l.low, l.high⟩) rest := by
  have hnot : ¬b < 0x80 := by
    rw [UInt8.lt_iff_toNat_lt]
    exact Nat.not_lt.mpr hb
  rw [decodeStrictFrom, if_neg hnot, hl]

/- Which bytes begin a sequence of two, three and four. -/
theorem lead_two (h : 2 ≤ n) (h' : n < 32) : lead (byte (0xc0 + n)) = some ⟨1, n, 0x80, 0xbf⟩ := by
  interval_cases n <;> rfl

theorem lead_three (h : n < 16) : lead (byte (0xe0 + n)) = some ⟨2, n,
    if n = 0 then 0xa0 else 0x80, if n = 13 then 0x9f else 0xbf⟩ := by
  interval_cases n <;> rfl

theorem lead_four (h : n < 5) : lead (byte (0xf0 + n)) = some ⟨3, n,
    if n = 0 then 0x90 else 0x80, if n = 4 then 0x8f else 0xbf⟩ := by
  interval_cases n <;> rfl

theorem decode_two {c : Char} (hlow : 0x80 ≤ c.toNat) (hhigh : c.toNat < 0x800) :
    decodeStrictFrom none
        (byte (0xc0 + c.toNat / 64) :: byte (0x80 + c.toNat % 64) :: rest) =
      (decodeStrictFrom none rest).map (c :: ·) := by
  have hbyte : (byte (0xc0 + c.toNat / 64)).toNat = 0xc0 + c.toNat / 64 := toNat_byte (by omega)
  have hbits : c.toNat / 64 * 64 + c.toNat % 64 = c.toNat := by omega
  have hlast : 0x80 + c.toNat % 64 ≤ (0xbf : UInt8).toNat := by
    change _ ≤ 0xbf
    omega
  refine (decode_lead (by omega) (lead_two (by omega) (by omega))).trans ?_
  refine (decode_last (by omega) (Nat.le_add_right 0x80 _) hlast).trans ?_
  rw [hbits, Char.ofNat_toNat]

theorem decode_three {c : Char} (hlow : 0x800 ≤ c.toNat) (hhigh : c.toNat < 0x10000) :
    decodeStrictFrom none (byte (0xe0 + c.toNat / 4096) ::
        byte (0x80 + c.toNat / 64 % 64) :: byte (0x80 + c.toNat % 64) :: rest) =
      (decodeStrictFrom none rest).map (c :: ·) := by
  have hvalid : c.toNat < 0xd800 ∨ 0xdfff < c.toNat := by
    obtain h | h := c.valid
    · exact Or.inl h
    · exact Or.inr h.1
  have hbyte : (byte (0xe0 + c.toNat / 4096)).toNat = 0xe0 + c.toNat / 4096 :=
    toNat_byte (by omega)
  have hbits : (c.toNat / 4096 * 64 + c.toNat / 64 % 64) * 64 + c.toNat % 64 = c.toNat := by omega
  -- An overlong form and a surrogate are what the range of the second byte excludes.
  have hsecond : (if c.toNat / 4096 = 0 then 0xa0 else 0x80 : UInt8).toNat ≤
      0x80 + c.toNat / 64 % 64 := by
    split
    · change 0xa0 ≤ _
      omega
    · exact Nat.le_add_right 0x80 _
  have hsecond' : 0x80 + c.toNat / 64 % 64 ≤
      (if c.toNat / 4096 = 13 then 0x9f else 0xbf : UInt8).toNat := by
    split
    · change _ ≤ 0x9f
      omega
    · change _ ≤ 0xbf
      omega
  have hlast : 0x80 + c.toNat % 64 ≤ (0xbf : UInt8).toNat := by
    change _ ≤ 0xbf
    omega
  refine (decode_lead (by omega) (lead_three (by omega))).trans ?_
  refine (decode_more 0 (by omega) hsecond hsecond').trans ?_
  refine (decode_last (by omega) (Nat.le_add_right 0x80 _) hlast).trans ?_
  rw [hbits, Char.ofNat_toNat]

theorem decode_four {c : Char} (hlow : 0x10000 ≤ c.toNat) :
    decodeStrictFrom none (byte (0xf0 + c.toNat / 262144) ::
        byte (0x80 + c.toNat / 4096 % 64) :: byte (0x80 + c.toNat / 64 % 64) ::
        byte (0x80 + c.toNat % 64) :: rest) =
      (decodeStrictFrom none rest).map (c :: ·) := by
  have hvalid : c.toNat < 0x110000 := by
    obtain h | h := c.valid
    · change c.toNat < 0xd800 at h
      omega
    · exact h.2
  have hbyte : (byte (0xf0 + c.toNat / 262144)).toNat = 0xf0 + c.toNat / 262144 :=
    toNat_byte (by omega)
  have hbits : ((c.toNat / 262144 * 64 + c.toNat / 4096 % 64) * 64 + c.toNat / 64 % 64) * 64 +
      c.toNat % 64 = c.toNat := by omega
  have hsecond : (if c.toNat / 262144 = 0 then 0x90 else 0x80 : UInt8).toNat ≤
      0x80 + c.toNat / 4096 % 64 := by
    split
    · change 0x90 ≤ _
      omega
    · exact Nat.le_add_right 0x80 _
  have hsecond' : 0x80 + c.toNat / 4096 % 64 ≤
      (if c.toNat / 262144 = 4 then 0x8f else 0xbf : UInt8).toNat := by
    split
    · change _ ≤ 0x8f
      omega
    · change _ ≤ 0xbf
      omega
  have hthird : 0x80 + c.toNat / 64 % 64 ≤ (0xbf : UInt8).toNat := by
    change _ ≤ 0xbf
    omega
  have hlast : 0x80 + c.toNat % 64 ≤ (0xbf : UInt8).toNat := by
    change _ ≤ 0xbf
    omega
  refine (decode_lead (by omega) (lead_four (by omega))).trans ?_
  refine (decode_more 1 (by omega) hsecond hsecond').trans ?_
  refine (decode_more 0 (by omega) (Nat.le_add_right 0x80 _) hthird).trans ?_
  refine (decode_last (by omega) (Nat.le_add_right 0x80 _) hlast).trans ?_
  rw [hbits, Char.ofNat_toNat]

theorem decode_encodeChar (c : Char) :
    decodeStrictFrom none (encodeChar c ++ rest) = (decodeStrictFrom none rest).map (c :: ·) := by
  unfold encodeChar
  by_cases hone : c.toNat < 0x80
  · have hbyte : (byte c.toNat).toNat = c.toNat := toNat_byte (by omega)
    have hascii : byte c.toNat < 0x80 := by
      rw [UInt8.lt_iff_toNat_lt, hbyte]
      exact hone
    simp only [hone, if_true, List.cons_append, List.nil_append]
    rw [decodeStrictFrom, if_pos hascii, hbyte, Char.ofNat_toNat]
  by_cases htwo : c.toNat < 0x800
  · simp only [hone, htwo, if_true, if_false]
    exact decode_two (by omega) htwo
  by_cases hthree : c.toNat < 0x10000
  · simp only [hone, htwo, hthree, if_true, if_false]
    exact decode_three (by omega) hthree
  · simp only [hone, htwo, hthree, if_false]
    exact decode_four (by omega)

end RoundTrip

/-- What was encoded is decoded to itself. -/
theorem decodeStrict_encode (l : List Char) : decodeStrict (l.flatMap encodeChar) = some l := by
  unfold decodeStrict
  induction l with
  | nil => rfl
  | cons c rest ih =>
    rw [List.flatMap_cons, decode_encodeChar, ih]
    rfl

theorem encode_none {s : PyStr} : encode s = none ↔ s.hasSurrogate = true := by
  simp [encode, PyStr.chars?_none]

/-- No character takes more than four bytes. -/
theorem length_encodeChar (c : Char) : (encodeChar c).length ≤ 4 := by
  simp only [encodeChar]
  split
  · simp
  split
  · simp
  split <;> simp

/- The bytes a string takes. -/
def size (s : PyStr) : Nat :=
  (s.map fun c => match c with
    | .char c => (encodeChar c).length
    | .surrogate _ => 3).sum

@[simp] theorem size_nil : size [] = 0 := rfl

@[simp] theorem size_append (s t : PyStr) : size (s ++ t) = size s + size t := by
  simp [size]

theorem size_cons (c : Char) (s : PyStr) : size (.char c :: s) = (encodeChar c).length + size s := rfl

theorem size_encode {s : PyStr} {b : Bytes} (h : encode s = some b) : b.length = size s := by
  obtain ⟨l, hl, rfl⟩ := Option.map_eq_some_iff.mp h
  rw [PyStr.chars?_some hl, List.length_flatMap, size, PyStr.ofChars, List.map_map]
  rfl

theorem size_ascii {l : List Char} (h : ∀ c ∈ l, c.toNat < 128) :
    size (PyStr.ofChars l) = l.length := by
  induction l with
  | nil => rfl
  | cons c rest ih =>
    have hone : (encodeChar c).length = 1 := by
      have hc := h c (by simp)
      simp [encodeChar, hc]
    have hrest := ih fun d hd => h d (List.mem_cons_of_mem c hd)
    change size (.char c :: PyStr.ofChars rest) = rest.length + 1
    rw [size_cons, hone, hrest]
    omega

end Utf8
