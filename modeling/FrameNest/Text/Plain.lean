import Mathlib.Data.List.Basic
import Mathlib.Data.List.TakeWhile

/-! Text as the two sides of the storage boundary measure it: Python's `str`
(code points, `isspace`, `strip`) and SQLite's TEXT functions. -/
namespace Plain

instance lawfulChars : LawfulBEq (List Char) := inferInstance

/- Code points for which Python's `str.isspace` answers true. -/
def isSpace (c : Char) : Bool :=
  let n := c.toNat
  (9 ≤ n && n ≤ 13) || (28 ≤ n && n ≤ 32) || n = 133 || n = 160 || n = 5760 ||
    (8192 ≤ n && n ≤ 8202) || n = 8232 || n = 8233 || n = 8239 || n = 8287 || n = 12288

/- `not s.strip()`. -/
def isBlank (s : String) : Bool := s.toList.all isSpace

/- Unicode category Cc. -/
def isControl (c : Char) : Bool := c.toNat ≤ 31 || (127 ≤ c.toNat && c.toNat ≤ 159)

/- SQLite `length(X)` counts the characters before the first NUL, `trim(X)` drops
   spaces and nothing else, and a BLOB cast counts every byte of the UTF-8 form. -/
def sqlLength (s : List Char) : Nat := (s.takeWhile fun c => c ≠ '\x00').length

def sqlTrim (s : List Char) : List Char :=
  ((s.dropWhile fun c => c = ' ').reverse.dropWhile fun c => c = ' ').reverse

def blobLength (s : String) : Nat := s.utf8ByteSize

def bytesWithin (s : String) (low high : Nat) : Bool :=
  low ≤ blobLength s && blobLength s ≤ high

def isLowerHex (c : Char) : Bool := ('0' ≤ c && c ≤ '9') || ('a' ≤ c && c ≤ 'f')

/- GLOB of eight, four, four, four and twelve lower hexadecimal digits. -/
def isUuidText (s : String) : Bool :=
  let l := s.toList
  l.length = 36 && (List.range 36).all fun i =>
    if i = 8 ∨ i = 13 ∨ i = 18 ∨ i = 23 then l[i]? = some '-'
    else l[i]?.any isLowerHex

/- `s.strip()`. -/
def strip (s : String) : String :=
  String.ofList ((s.toList.dropWhile isSpace).reverse.dropWhile isSpace).reverse

/- CHECK of a login key column; `lower` folds the ASCII letters only. -/
def isLoginKeyColumn (s : String) : Bool :=
  let l := s.toList
  1 ≤ sqlLength l && sqlLength l ≤ 254 &&
    l.all fun c => !('A' ≤ c && c ≤ 'Z') && c ≠ ' ' && c ≠ '\t' && c ≠ '\n' && c ≠ '\r'

def isLowerHex64 (s : String) : Bool := s.toList.length = 64 && s.toList.all isLowerHex

end Plain

/-! `str.strip` over the characters of a text. -/
namespace Plain

/- `strip`, and `rstrip` of one character. -/
def trim (l : List Char) : List Char := ((l.dropWhile isSpace).reverse.dropWhile isSpace).reverse
def trimRight (c : Char) (l : List Char) : List Char := (l.reverse.dropWhile (· = c)).reverse

/-- No white space stands at either end. -/
def Snug (l : List Char) : Prop :=
  (∀ c, l.head? = some c → isSpace c = false) ∧ ∀ c, l.getLast? = some c → isSpace c = false

theorem dropWhile_head {p : Char → Bool} {l : List Char} (h : ∀ c, l.head? = some c → p c = false) :
    l.dropWhile p = l := by
  cases l with
  | nil => rfl
  | cons c rest => exact List.dropWhile_cons_of_neg (by simp [h c rfl])

theorem head_dropWhile {p : Char → Bool} (l : List Char) (c : Char)
    (h : (l.dropWhile p).head? = some c) : p c = false := by
  have hnot := List.head?_dropWhile_not p l
  rw [h] at hnot
  simpa using hnot

/-- A text without white space at its ends is what stripping leaves. -/
theorem Snug.trim {l : List Char} (h : Snug l) : trim l = l := by
  have hfront : l.dropWhile isSpace = l := dropWhile_head h.1
  have hback : l.reverse.dropWhile isSpace = l.reverse :=
    dropWhile_head fun c hc => h.2 c (by simpa using hc)
  rw [Plain.trim, hfront, hback, List.reverse_reverse]

theorem trim_start (l : List Char) : trim l <+: l.dropWhile isSpace := by
  have hsuffix : (l.dropWhile isSpace).reverse.dropWhile isSpace <:+ (l.dropWhile isSpace).reverse :=
    List.dropWhile_suffix isSpace
  simpa [trim] using List.reverse_prefix.mpr hsuffix

theorem snug_trim (l : List Char) : Snug (trim l) := by
  have hlast : ∀ c, (trim l).getLast? = some c → isSpace c = false := by
    intro c hc
    rw [trim, List.getLast?_reverse] at hc
    exact head_dropWhile _ c hc
  refine ⟨fun c hc => ?_, hlast⟩
  -- What was cut off at the end does not touch the first character.
  obtain ⟨rest, hrest⟩ := trim_start l
  have hhead : (l.dropWhile isSpace).head? = some c := by
    rw [← hrest, List.head?_append, hc]
    rfl
  exact head_dropWhile _ c hhead

theorem trim_iff {l : List Char} : trim l = l ↔ Snug l :=
  ⟨fun h => h ▸ snug_trim l, Snug.trim⟩

theorem trim_trim (l : List Char) : trim (trim l) = trim l := (snug_trim l).trim

theorem trim_inside (l : List Char) : trim l <:+: l :=
  (trim_start l).isInfix.trans (List.dropWhile_suffix isSpace).isInfix

/-! `rstrip` of one character. -/

theorem trimRight_nil {c : Char} {l : List Char} :
    trimRight c l = [] ↔ l.all (· = c) = true := by
  rw [trimRight, List.reverse_eq_nil_iff, List.dropWhile_eq_nil_iff, List.all_eq_true]
  exact ⟨fun h x hx => h x (List.mem_reverse.mpr hx), fun h x hx => h x (List.mem_reverse.mp hx)⟩

theorem trimRight_start (c : Char) (l : List Char) : trimRight c l <+: l := by
  have hsuffix : l.reverse.dropWhile (· = c) <:+ l.reverse := List.dropWhile_suffix _
  simpa [trimRight] using List.reverse_prefix.mpr hsuffix

theorem trimRight_eq {c : Char} {l : List Char} : trimRight c l = l ↔ l.getLast? ≠ some c := by
  constructor
  · intro h hlast
    rw [← h, trimRight, List.getLast?_reverse] at hlast
    have hnot := head_dropWhile _ c hlast
    simp at hnot
  · intro h
    rw [trimRight, dropWhile_head, List.reverse_reverse]
    intro d hd
    rw [List.head?_reverse] at hd
    simpa using fun heq : d = c => h (heq ▸ hd)

theorem head_trimRight {c : Char} {l : List Char} (h : trimRight c l ≠ []) :
    (trimRight c l).head? = l.head? := by
  obtain ⟨rest, hrest⟩ := trimRight_start c l
  cases hcons : trimRight c l with
  | nil => exact absurd hcons h
  | cons d tail =>
    rw [hcons] at hrest
    rw [← hrest]
    rfl

/-- What a list is split at stands in none of its parts. -/
theorem not_mem_splitOn {α : Type} [BEq α] [LawfulBEq α] {l part : List α} {c : α}
    (h : part ∈ l.splitOn c) : c ∉ part := by
  induction l generalizing part with
  | nil =>
    obtain rfl : part = [] := by simpa using h
    exact List.not_mem_nil
  | cons d rest ih =>
    rw [List.splitOn_cons_eq_if_modifyHead] at h
    split at h
    · obtain rfl | h := List.mem_cons.mp h
      · exact List.not_mem_nil
      · exact ih h
    · rename_i hne
      cases hparts : rest.splitOn c with
      | nil => exact absurd hparts (List.splitOn_ne_nil c rest)
      | cons first others =>
        rw [hparts, List.modifyHead_cons, List.mem_cons] at h
        obtain rfl | h := h
        · have hfirst : c ∉ first := ih (by rw [hparts]; exact List.mem_cons_self)
          have hd : c ≠ d := fun heq => hne (by simp [heq])
          simp [hd, hfirst]
        · exact ih (by rw [hparts]; exact List.mem_cons_of_mem _ h)

end Plain
