import FrameNest.Text.JsonReader

/-! Reading back what was written: the reader, fed with the text of a value, ends with that
value. -/
namespace JsonReader
open PyStr PyJson
variable {settings : Settings} {ascii : Bool} {stack : List Frame} {rest : PyStr}

theorem feed_char {state state' : State} {c : CodePoint} (h : step settings state c = .ok state') :
    feed settings state (c :: rest) = feed settings state' rest := by
  rw [feed, h]
  rfl

section Strings

theorem hexValue?_hexDigit : ∀ n < 16, hexValue? (Json.hexDigit n) = some n := by decide

/- Four digits of an escape, read into a string. -/
theorem feed_hex {isKey : Bool} {read : PyStr} {joinable : Bool} {n : Nat} (h : n < 65536) :
    feed settings (.quoted isKey ⟨read, joinable, .hex 0 4⟩, stack)
        (ofChars (Parsed.hex4 n) ++ rest) =
      feed settings (.quoted isKey ((⟨read, joinable, .plain⟩ : Quoted).addUnit n), stack) rest := by
  have hfirst := hexValue?_hexDigit (n / 4096 % 16) (by omega)
  have hsecond := hexValue?_hexDigit (n / 256 % 16) (by omega)
  have hthird := hexValue?_hexDigit (n / 16 % 16) (by omega)
  have hfourth := hexValue?_hexDigit (n % 16) (by omega)
  have hvalue : (((n / 4096 % 16) * 16 + n / 256 % 16) * 16 + n / 16 % 16) * 16 + n % 16 = n := by
    omega
  simp only [Parsed.hex4, ofChars, List.map_cons, List.map_nil, List.cons_append, List.nil_append]
  rw [feed_char (by simp only [step, stepQuoted, hfirst]; rfl),
    feed_char (by simp only [step, stepQuoted, hsecond]; rfl),
    feed_char (by simp only [step, stepQuoted, hthird]; rfl),
    feed_char (by simp only [step, stepQuoted, hfourth]; rfl)]
  simp only [Nat.zero_mul, Nat.zero_add, hvalue]
  rfl

theorem feed_unicode {isKey : Bool} {q : Quoted} (hplain : q.escape = .plain) {n : Nat}
    (h : n < 65536) :
    feed settings (.quoted isKey q, stack) (ofChars ('\\' :: 'u' :: Parsed.hex4 n) ++ rest) =
      feed settings (.quoted isKey (q.addUnit n), stack) rest := by
  obtain ⟨read, joinable, escape⟩ := q
  have hescape : escape = .plain := hplain
  subst hescape
  refine (feed_char (by rfl)).trans ?_
  refine (feed_char (by rfl)).trans ?_
  exact feed_hex h

theorem addUnit_char {q : Quoted} {c : Char} (h : c.toNat < 65536) :
    (q.addUnit c.toNat).read = .char c :: q.read ∧ (q.addUnit c.toNat).escape = .plain := by
  have hvalid : c.toNat < 0xd800 ∨ 0xdfff < c.toNat := by
    obtain h | h := c.valid
    · exact Or.inl h
    · exact Or.inr h.1
  have hlow : (q.joinable && 0xdc00 ≤ c.toNat && c.toNat ≤ 0xdfff) = false := by
    simp only [Bool.and_eq_false_imp, Bool.and_eq_true, decide_eq_true_eq, decide_eq_false_iff_not]
    intro hboth
    omega
  have hunit : unit c.toNat = .char c := by
    unfold unit
    rw [if_neg (by omega), Char.ofNat_toNat]
  unfold Quoted.addUnit
  rw [hlow]
  simp [hunit]

/- An escaped high surrogate waits for a low one. -/
theorem addUnit_high (q : Quoted) {k : Nat} (h : k < 1024) :
    q.addUnit (0xd800 + k) = ⟨.surrogate (Fin.ofNat 2048 k) :: q.read, true, .plain⟩ := by
  have hnot : (q.joinable && 0xdc00 ≤ 0xd800 + k && 0xd800 + k ≤ 0xdfff) = false := by
    have hlow : ¬0xdc00 ≤ 0xd800 + k := by omega
    simp [hlow]
  have hrange : 0xd800 ≤ 0xd800 + k ∧ 0xd800 + k ≤ 0xdfff := ⟨by omega, by omega⟩
  have hunit : unit (0xd800 + k) = .surrogate (Fin.ofNat 2048 k) := by
    unfold unit
    rw [if_pos hrange, Nat.add_sub_cancel_left]
  have hjoinable : (decide (0xd800 ≤ 0xd800 + k) && decide (0xd800 + k ≤ 0xdbff)) = true := by
    have hhigh : 0xd800 + k ≤ 0xdbff := by omega
    simp [hhigh]
  unfold Quoted.addUnit
  rw [hnot]
  simp only [hunit, hjoinable]

theorem addUnit_low (high : Fin 2048) (read : PyStr) {k : Nat} (h : k < 1024) :
    (⟨.surrogate high :: read, true, .plain⟩ : Quoted).addUnit (0xdc00 + k) =
      ⟨.char (Char.ofNat (0x10000 + high.val * 0x400 + k)) :: read, false, .plain⟩ := by
  have hlow : (true && decide (0xdc00 ≤ 0xdc00 + k) && decide (0xdc00 + k ≤ 0xdfff)) = true := by
    have hrange : 0xdc00 + k ≤ 0xdfff := by omega
    simp [hrange]
  unfold Quoted.addUnit
  rw [hlow]
  simp only [Nat.add_sub_cancel_left]

theorem addUnit_pair {q : Quoted} {c : Char} (h : 65536 ≤ c.toNat) :
    ((q.addUnit (55296 + (c.toNat - 65536) / 1024)).addUnit (56320 + (c.toNat - 65536) % 1024)) =
      ⟨.char c :: q.read, false, .plain⟩ := by
  have hvalid : c.toNat < 0x110000 := by
    obtain h' | h' := c.valid
    · change c.toNat < 0xd800 at h'
      omega
    · exact h'.2
  have hhigh : (c.toNat - 65536) / 1024 < 1024 := by omega
  have hlow : (c.toNat - 65536) % 1024 < 1024 := by omega
  have hoffset : (Fin.ofNat 2048 ((c.toNat - 65536) / 1024)).val = (c.toNat - 65536) / 1024 := by
    simp only [Fin.ofNat]
    exact Nat.mod_eq_of_lt (by omega)
  have hcode : 0x10000 + (c.toNat - 65536) / 1024 * 0x400 + (c.toNat - 65536) % 1024 = c.toNat := by
    omega
  rw [addUnit_high q hhigh, addUnit_low _ _ hlow, hoffset, hcode, Char.ofNat_toNat]

theorem hex4_control : ∀ n < 32,
    Parsed.hex4 n = ['0', '0', Json.hexDigit (n / 16), Json.hexDigit (n % 16)] := by decide

/-- The reader took one code point of a string. -/
def Takes (settings : Settings) (isKey : Bool) (stack : List Frame) (c : CodePoint)
    (text : PyStr) : Prop :=
  ∀ q : Quoted, q.escape = .plain → ∀ rest, ∃ q' : Quoted, q'.read = c :: q.read ∧
    q'.escape = .plain ∧
    feed settings (.quoted isKey q, stack) (text ++ rest) =
      feed settings (.quoted isKey q', stack) rest

/- A character that stands for itself. -/
theorem takes_itself {isKey : Bool} {c : CodePoint}
    (h : c ≠ .char '"' ∧ c ≠ .char '\\' ∧ ∀ d, c = .char d → ¬d.toNat < 32) :
    Takes settings isKey stack c [c] := by
  intro q hplain rest
  refine ⟨q.add c, rfl, rfl, feed_char ?_⟩
  obtain ⟨hquote, hslash, hcontrol⟩ := h
  unfold step stepQuoted
  simp only [hplain]
  cases c with
  | surrogate offset => rfl
  | char d =>
    have hquote' : d ≠ '"' := fun h => hquote (congrArg CodePoint.char h)
    have hslash' : d ≠ '\\' := fun h => hslash (congrArg CodePoint.char h)
    simp only [hquote', hslash', if_false]
    rw [if_neg (hcontrol d rfl)]

/- A character written as a backslash and one more. -/
theorem takes_backslash {isKey : Bool} {c d : Char} (hd : d ≠ 'u') (h : unescape? d = some c) :
    Takes settings isKey stack (.char c) (ofChars ['\\', d]) := by
  intro q hplain rest
  refine ⟨({ q with escape := .backslash } : Quoted).add (.char c), rfl, rfl, ?_⟩
  have hopen : step settings (.quoted isKey q, stack) (.char '\\') =
      .ok (.quoted isKey { q with escape := .backslash }, stack) := by
    unfold step stepQuoted
    simp only [hplain]
    rfl
  have hclose : step settings (.quoted isKey { q with escape := .backslash }, stack) (.char d) =
      .ok (.quoted isKey (({ q with escape := .backslash } : Quoted).add (.char c)), stack) := by
    unfold step stepQuoted
    simp only [hd, h, if_false]
  exact (feed_char hopen).trans (feed_char hclose)

theorem takes_unicode {isKey : Bool} {c : Char} (h : c.toNat < 65536) :
    Takes settings isKey stack (.char c) (ofChars ('\\' :: 'u' :: Parsed.hex4 c.toNat)) := by
  intro q hplain rest
  obtain ⟨hread, hescape⟩ := addUnit_char (q := q) h
  exact ⟨q.addUnit c.toNat, hread, hescape, feed_unicode hplain h⟩

theorem addUnit_plain (q : Quoted) (n : Nat) : (q.addUnit n).escape = .plain := by
  unfold Quoted.addUnit
  split <;> rfl

theorem takes_pair {isKey : Bool} {c : Char} (h : 65536 ≤ c.toNat) :
    Takes settings isKey stack (.char c)
      (ofChars ('\\' :: 'u' :: Parsed.hex4 (55296 + (c.toNat - 65536) / 1024) ++
        '\\' :: 'u' :: Parsed.hex4 (56320 + (c.toNat - 65536) % 1024))) := by
  have hvalid : c.toNat < 0x110000 := by
    obtain h' | h' := c.valid
    · change c.toNat < 0xd800 at h'
      omega
    · exact h'.2
  intro q hplain rest
  have happend (a b : List Char) : ofChars (a ++ b) = ofChars a ++ ofChars b := List.map_append
  refine ⟨⟨.char c :: q.read, false, .plain⟩, rfl, rfl, ?_⟩
  rw [happend, List.append_assoc, feed_unicode hplain (by omega),
    feed_unicode (addUnit_plain q _) (by omega), addUnit_pair h]

theorem takes_jsonEscape {isKey : Bool} (c : Char) :
    Takes settings isKey stack (.char c) (ofChars (Json.escape c)) := by
  by_cases hquote : c = '"'
  · subst hquote
    exact takes_backslash (by decide) (by decide)
  by_cases hslash : c = '\\'
  · subst hslash
    exact takes_backslash (by decide) (by decide)
  by_cases hnewline : c = '\n'
  · subst hnewline
    exact takes_backslash (by decide) (by decide)
  by_cases hreturn : c = '\r'
  · subst hreturn
    exact takes_backslash (by decide) (by decide)
  by_cases htab : c = '\t'
  · subst htab
    exact takes_backslash (by decide) (by decide)
  have hnat : ∀ n, c.toNat = n → c = Char.ofNat n := fun n hn => hn ▸ (Char.ofNat_toNat c).symm
  by_cases hback : c.toNat = 8
  · rw [hnat 8 hback]
    exact takes_backslash (by decide) (by decide)
  by_cases hfeed : c.toNat = 12
  · rw [hnat 12 hfeed]
    exact takes_backslash (by decide) (by decide)
  by_cases hcontrol : c.toNat < 32
  · have hescape : Json.escape c = '\\' :: 'u' :: Parsed.hex4 c.toNat := by
      simp [Json.escape, hquote, hslash, hnewline, hreturn, htab, hback, hfeed, hcontrol,
        hex4_control c.toNat hcontrol]
    rw [hescape]
    exact takes_unicode (by omega)
  · have hescape : Json.escape c = [c] := by
      simp [Json.escape, hquote, hslash, hnewline, hreturn, htab, hback, hfeed, hcontrol]
    rw [hescape]
    refine takes_itself ⟨?_, ?_, ?_⟩
    · simpa using hquote
    · simpa using hslash
    · intro d hd
      rw [← PyStr.char_injective hd]
      exact hcontrol

variable (settings stack) in
/-- One code point, as either kind of text writes it; an ASCII text holds no lone surrogate that
could be told from a half of a pair. -/
theorem takes_escape {isKey : Bool} {c : CodePoint}
    (h : ascii = true → isSurrogate c = false) :
    Takes settings isKey stack c (escape ascii c) := by
  cases c with
  | surrogate offset =>
    cases ascii with
    | true => exact absurd (h rfl) (by simp [isSurrogate])
    | false => exact takes_itself ⟨by simp, by simp, by simp⟩
  | char c =>
    cases ascii with
    | false => exact takes_jsonEscape c
    | true =>
      have hascii : escape true (.char c) = ofChars (Parsed.escapeAscii c) := rfl
      rw [hascii]
      by_cases hlow : c.toNat < 127
      · have hescape : Parsed.escapeAscii c = Json.escape c := by simp [Parsed.escapeAscii, hlow]
        rw [hescape]
        exact takes_jsonEscape c
      by_cases hplane : c.toNat < 65536
      · have hescape : Parsed.escapeAscii c = '\\' :: 'u' :: Parsed.hex4 c.toNat := by
          simp [Parsed.escapeAscii, hlow, hplane]
        rw [hescape]
        exact takes_unicode hplane
      · have hescape : Parsed.escapeAscii c =
            '\\' :: 'u' :: Parsed.hex4 (55296 + (c.toNat - 65536) / 1024) ++
              '\\' :: 'u' :: Parsed.hex4 (56320 + (c.toNat - 65536) % 1024) := by
          simp [Parsed.escapeAscii, hlow, hplane]
        rw [hescape]
        exact takes_pair (by omega)

/-- A whole string, up to its closing quote. -/
theorem feed_string {isKey : Bool} {s : PyStr} (h : ascii = true → hasSurrogate s = false)
    {q : Quoted} (hplain : q.escape = .plain) :
    feed settings (.quoted isKey q, stack) (s.flatMap (escape ascii) ++ .char '"' :: rest) =
      (endString isKey (q.read.reverse ++ s) stack).bind fun state => feed settings state rest := by
  induction s generalizing q with
  | nil =>
    rw [List.flatMap_nil, List.nil_append, List.append_nil, feed]
    congr 1
    unfold step stepQuoted
    simp only [hplain, if_true]
  | cons c s ih =>
    have hhead : ascii = true → isSurrogate c = false := by
      intro hascii
      have hnone := h hascii
      simp only [hasSurrogate, List.any_cons, Bool.or_eq_false_iff] at hnone
      exact hnone.1
    have htail : ascii = true → hasSurrogate s = false := by
      intro hascii
      have hnone := h hascii
      simp only [hasSurrogate, List.any_cons, Bool.or_eq_false_iff] at hnone
      exact hnone.2
    obtain ⟨q', hread, hplain', hfeed⟩ := takes_escape settings stack hhead q hplain
      (s.flatMap (escape ascii) ++ .char '"' :: rest)
    rw [List.flatMap_cons, List.append_assoc, hfeed, ih htail hplain', hread]
    simp

end Strings

section Numbers

theorem isDigit_iff (c : Char) : isDigit c = c.isDigit := by
  unfold isDigit Char.isDigit
  rfl

/-- What may stand after a value: a comma, a closing bracket or white space. -/
def isDelimiter (c : Char) : Bool := c = ',' || c = ']' || c = '\x7d' || isJsonSpace c

def Delimited (rest : PyStr) : Prop := ∀ c, rest.head? = some c → lift isDelimiter c = true

theorem delimiter_cases {c : Char} (h : isDelimiter c = true) :
    c = ',' ∨ c = ']' ∨ c = '\x7d' ∨ c = ' ' ∨ c = '\t' ∨ c = '\n' ∨ c = '\r' := by
  simpa [isDelimiter, isJsonSpace, or_assoc] using h

theorem next_delimiter {c : Char} (h : isDelimiter c = true) {phase : Phase}
    (hphase : phase = .zero ∨ phase = .digits) : phase.next c = none := by
  rcases delimiter_cases h with rfl | rfl | rfl | rfl | rfl | rfl | rfl <;>
    rcases hphase with rfl | rfl <;> decide

/-- A number ends at a delimiter or at the end of the text. -/
theorem feed_number_end {n : Number} {v : PyJson} (hphase : n.phase = .zero ∨ n.phase = .digits)
    (hvalue : n.value = .ok v) (hrest : Delimited rest) :
    feed settings (.number n, stack) rest = feed settings (.done v, stack) rest := by
  cases rest with
  | nil =>
    cases stack with
    | nil => exact hvalue
    | cons frame stack =>
      change n.value.bind _ = _
      rw [hvalue]
      rfl
  | cons c rest =>
    have hc := hrest c rfl
    cases c with
    | surrogate offset => cases hc
    | char c =>
      have hminus : ¬(n.phase = .minus ∧ c = 'I') := by
        rintro ⟨hminus, -⟩
        rw [hminus] at hphase
        simp at hphase
      have hstep : step settings (.number n, stack) (.char c) =
          step settings (.done v, stack) (.char c) := by
        change stepNumber settings n stack c = stepDone settings v stack c
        unfold stepNumber
        rw [if_neg hminus, next_delimiter hc hphase, hvalue]
        rfl
      rw [feed, feed, hstep]

variable (settings stack rest) in
theorem feed_digits {ds : List Char} (h : ∀ c ∈ ds, isDigit c = true) (n : Number)
    (hphase : n.phase = .digits) :
    ∃ literal, feed settings (.number n, stack) (ofChars ds ++ rest) =
      feed settings (.number ⟨n.negative, ds.reverse ++ n.digits, literal, .digits⟩, stack) rest := by
  induction ds generalizing n with
  | nil =>
    obtain ⟨negative, digits, literal, phase⟩ := n
    have hphase' : phase = .digits := hphase
    subst hphase'
    exact ⟨literal, rfl⟩
  | cons d ds ih =>
    have hd : isDigit d = true := h d (by simp)
    have hstep : step settings (.number n, stack) (.char d) =
        .ok (.number (n.add d .digits), stack) := by
      change stepNumber settings n stack d = _
      unfold stepNumber
      rw [if_neg (by simp [hphase]), hphase]
      simp [Phase.next, hd]
    obtain ⟨literal, hfeed⟩ := ih (fun c hc => h c (List.mem_cons_of_mem d hc)) (n.add d .digits) rfl
    refine ⟨literal, ?_⟩
    change feed settings (.number n, stack) (.char d :: (ofChars ds ++ rest)) = _
    rw [feed_char hstep, hfeed]
    simp [Number.add]

/-- The decimal text of a positive number begins with a digit that is not nought. -/
theorem toDigits_head {n : Nat} (h : 0 < n) :
    ∃ d ds, Nat.toDigits 10 n = d :: ds ∧ d ≠ '0' := by
  induction n using Nat.strong_induction_on with
  | _ n ih =>
    rw [Nat.toDigits_eq_if (by decide)]
    split
    · rename_i hsmall
      refine ⟨Nat.digitChar n, [], rfl, ?_⟩
      interval_cases n <;> decide
    · obtain ⟨d, ds, hdigits, hne⟩ := ih (n / 10) (by omega) (by omega)
      exact ⟨d, ds ++ [Nat.digitChar (n % 10)], by rw [hdigits]; rfl, hne⟩

theorem toDigits_digits {n : Nat} : ∀ c ∈ Nat.toDigits 10 n, isDigit c = true := by
  intro c hc
  rw [isDigit_iff]
  exact Nat.isDigit_of_mem_toDigits (by decide) (by decide) hc

/-- The digits of a natural number, read from a state that takes the first of them. -/
theorem feed_natural (negative : Bool) {n : Nat}
    (hshort : (Nat.toDigits 10 n).length ≤ maxStrDigits) {state : State} (sign : List Char)
    (hzero : step settings state (.char '0') =
      .ok (.number ⟨negative, ['0'], '0' :: sign, .zero⟩, stack))
    (hdigit : ∀ c, isDigit c = true → c ≠ '0' → step settings state (.char c) =
      .ok (.number ⟨negative, [c], c :: sign, .digits⟩, stack))
    (hrest : Delimited rest) :
    feed settings state (ofChars (Nat.toDigits 10 n) ++ rest) =
      feed settings (.done (.int (if negative then -(n : Int) else n)), stack) rest := by
  have hvalue (literal : List Char) (phase : Phase) (hphase : phase = .zero ∨ phase = .digits) :
      (⟨negative, (Nat.toDigits 10 n).reverse, literal, phase⟩ : Number).value =
        .ok (.int (if negative then -(n : Int) else n)) := by
    have hint : (⟨negative, (Nat.toDigits 10 n).reverse, literal, phase⟩ : Number).toInt =
        .ok (.int (if negative then -(n : Int) else n)) := by
      unfold Number.toInt
      rw [if_pos (by simpa using hshort)]
      simp only [List.reverse_reverse, Nat.ofDigitChars_ten_toDigits]
    rcases hphase with rfl | rfl
    · exact hint
    · exact hint
  obtain rfl | hpos := Nat.eq_zero_or_pos n
  · rw [Nat.toDigits_zero]
    change feed settings state (.char '0' :: rest) = _
    rw [feed_char hzero]
    exact feed_number_end (.inl rfl) (hvalue _ .zero (.inl rfl)) hrest
  · obtain ⟨d, ds, hdigits, hne⟩ := toDigits_head hpos
    have hall := toDigits_digits (n := n)
    rw [hdigits] at hall
    have hd : isDigit d = true := hall d (by simp)
    obtain ⟨literal, hfeed⟩ := feed_digits settings stack rest
      (fun c hc => hall c (List.mem_cons_of_mem d hc)) ⟨negative, [d], d :: sign, .digits⟩ rfl
    rw [hdigits]
    change feed settings state (.char d :: (ofChars ds ++ rest)) = _
    rw [feed_char (hdigit d hd hne), hfeed]
    refine feed_number_end (.inr rfl) ?_ hrest
    have hreverse : ds.reverse ++ [d] = (Nat.toDigits 10 n).reverse := by simp [hdigits]
    change (⟨negative, ds.reverse ++ [d], literal, .digits⟩ : Number).value = _
    rw [hreverse]
    exact hvalue _ .digits (.inr rfl)

theorem digit_cases {c : Char} (h : isDigit c = true) :
    c = '0' ∨ c = '1' ∨ c = '2' ∨ c = '3' ∨ c = '4' ∨ c = '5' ∨ c = '6' ∨ c = '7' ∨ c = '8' ∨
      c = '9' := by
  simp only [isDigit, Bool.and_eq_true, decide_eq_true_eq] at h
  obtain ⟨hlow, hhigh⟩ := h
  have hlow' : 48 ≤ c.toNat := hlow
  have hhigh' : c.toNat ≤ 57 := hhigh
  have hc : c = Char.ofNat c.toNat := (Char.ofNat_toNat c).symm
  generalize c.toNat = n at hlow' hhigh' hc
  subst hc
  interval_cases n <;> decide

theorem feed_int {first : Bool} {n : Int} (hshort : shortInt n = true) (hrest : Delimited rest) :
    feed settings (.value first, stack) (ofChars (decimal n) ++ rest) =
      feed settings (.done (.int n), stack) rest := by
  have hlength : (Nat.toDigits 10 n.natAbs).length ≤ maxStrDigits := by
    simpa [shortInt] using hshort
  cases n with
  | ofNat n =>
    refine feed_natural false hlength [] ?_ ?_ hrest
    · cases first <;> rfl
    · intro c hc hne
      rcases digit_cases hc with rfl | rfl | rfl | rfl | rfl | rfl | rfl | rfl | rfl | rfl
      · exact absurd rfl hne
      all_goals cases first <;> rfl
  | negSucc n =>
    have hminus : step settings (.value first, stack) (.char '-') =
        .ok (.number ⟨true, [], ['-'], .minus⟩, stack) := by cases first <;> rfl
    change feed settings _ (.char '-' :: (ofChars (Nat.toDigits 10 (n + 1)) ++ rest)) = _
    rw [feed_char hminus]
    refine feed_natural true hlength ['-'] ?_ ?_ hrest
    · rfl
    · intro c hc hne
      rcases digit_cases hc with rfl | rfl | rfl | rfl | rfl | rfl | rfl | rfl | rfl | rfl
      · exact absurd rfl hne
      all_goals rfl

end Numbers

section Values

mutual
/-- A value whose text is read back: within the room for nesting, with integers that are not too
long, keys that differ and, in an ASCII text, no lone surrogate. -/
def fits (ascii : Bool) : PyJson → Nat → Bool
  | .null, _ | .bool _, _ => true
  | .int n, _ => shortInt n
  | .float _, _ | .constant _, _ => false
  | .str s, _ => !(ascii && hasSurrogate s)
  | .arr items, room => 0 < room && allFit ascii items (room - 1)
  | .obj members, room =>
    0 < room && (members.map Prod.fst).Nodup && membersFit ascii members (room - 1)
def allFit (ascii : Bool) : List PyJson → Nat → Bool
  | [], _ => true
  | v :: rest, room => fits ascii v room && allFit ascii rest room
def membersFit (ascii : Bool) : List (PyStr × PyJson) → Nat → Bool
  | [], _ => true
  | (k, v) :: rest, room =>
    !(ascii && hasSurrogate k) && fits ascii v room && membersFit ascii rest room
end

theorem delimited_close {c : Char} (h : isDelimiter c = true) (rest : PyStr) :
    Delimited (.char c :: rest) := by
  intro d hd
  cases hd
  exact h

/- A string as a value. -/
theorem feed_text {first : Bool} {s : PyStr} (h : ascii = true → hasSurrogate s = false) :
    feed settings (.value first, stack) (quote ascii s ++ rest) =
      feed settings (.done (.str s), stack) rest := by
  have hopen : step settings (.value first, stack) (.char '"') =
      .ok (.quoted false ⟨[], false, .plain⟩, stack) := by cases first <;> rfl
  have htext : quote ascii s ++ rest =
      .char '"' :: (s.flatMap (escape ascii) ++ .char '"' :: rest) := by simp [quote]
  rw [htext, feed_char hopen, feed_string h rfl]
  rfl

/- A string as a key, with its colon. -/
theorem feed_key {first : Bool} {s : PyStr} {members : List (PyStr × PyJson)}
    (h : ascii = true → hasSurrogate s = false) :
    feed settings (.key first, .object members none :: stack)
        (quote ascii s ++ .char ':' :: rest) =
      feed settings (.value false, .object members (some s) :: stack) rest := by
  have hopen : step settings (.key first, .object members none :: stack) (.char '"') =
      .ok (.quoted true ⟨[], false, .plain⟩, .object members none :: stack) := by
    cases first <;> rfl
  have htext : quote ascii s ++ .char ':' :: rest =
      .char '"' :: (s.flatMap (escape ascii) ++ .char '"' :: .char ':' :: rest) := by simp [quote]
  rw [htext, feed_char hopen, feed_string h rfl]
  change feed settings (.colon, .object members (some s) :: stack) (.char ':' :: rest) = _
  exact feed_char (by rfl)

/- The three words are read the same with and without the hooks. -/
theorem feed_words {first : Bool} :
    feed settings (.value first, stack) (ofChars "null".toList ++ rest) =
        feed settings (.done .null, stack) rest ∧
      feed settings (.value first, stack) (ofChars "true".toList ++ rest) =
        feed settings (.done (.bool true), stack) rest ∧
      feed settings (.value first, stack) (ofChars "false".toList ++ rest) =
        feed settings (.done (.bool false), stack) rest := by
  obtain ⟨nesting, strict⟩ := settings
  cases strict <;> cases first <;> exact ⟨rfl, rfl, rfl⟩

theorem no_surrogate {s : PyStr} (h : (!(ascii && hasSurrogate s)) = true) :
    ascii = true → hasSurrogate s = false := by
  intro hascii
  simpa [hascii] using h

theorem feed_open {mode : Mode} {frame : Frame} (h : stack.length < settings.nesting) :
    openFrame settings mode frame stack = .ok (mode, frame :: stack) := by
  unfold openFrame
  rw [if_neg (by omega)]

mutual
/-- Fed with the text of a value, the reader has read that value. -/
theorem feed_print : ∀ (v : PyJson) {room : Nat} {first : Bool} {stack : List Frame} {rest : PyStr},
    fits ascii v room = true → stack.length + room ≤ settings.nesting → Delimited rest →
    feed settings (.value first, stack) (print ascii v ++ rest) =
      feed settings (.done v, stack) rest
  | .null, _, _, _, _, _, _, _ => feed_words.1
  | .bool true, _, _, _, _, _, _, _ => feed_words.2.1
  | .bool false, _, _, _, _, _, _, _ => feed_words.2.2
  | .int n, _, _, _, _, hfits, _, hrest => feed_int (by simpa [fits] using hfits) hrest
  | .float _, _, _, _, _, hfits, _, _ => by simp [fits] at hfits
  | .constant _, _, _, _, _, hfits, _, _ => by simp [fits] at hfits
  | .str s, _, _, _, _, hfits, _, _ => feed_text (no_surrogate (by simpa only [fits] using hfits))
  | .arr items, room, first, stack, rest, hfits, hroom, hrest => by
    simp only [fits, Bool.and_eq_true, decide_eq_true_eq] at hfits
    have hopen : step settings (.value first, stack) (.char '[') =
        .ok (.value true, .array [] :: stack) := by
      have hstep : step settings (.value first, stack) (.char '[') =
          openFrame settings (.value true) (.array []) stack := by cases first <;> rfl
      rw [hstep, feed_open (by omega)]
    have htext : print ascii (.arr items) ++ rest =
        .char '[' :: (separated (printItems ascii items) ++ .char ']' :: rest) := by simp [print]
    rw [htext, feed_char hopen]
    by_cases hempty : items = []
    · subst hempty
      exact feed_char (by rfl)
    · exact feed_items items [] hempty hfits.2 (by omega)
  | .obj members, room, first, stack, rest, hfits, hroom, hrest => by
    simp only [fits, Bool.and_eq_true, decide_eq_true_eq] at hfits
    obtain ⟨⟨hpos, hnodup⟩, hmembers⟩ := hfits
    have hopen : step settings (.value first, stack) (.char '\x7b') =
        .ok (.key true, .object [] none :: stack) := by
      have hstep : step settings (.value first, stack) (.char '\x7b') =
          openFrame settings (.key true) (.object [] none) stack := by cases first <;> rfl
      rw [hstep, feed_open (by omega)]
    have htext : print ascii (.obj members) ++ rest =
        .char '\x7b' :: (separated (printMembers ascii members) ++ .char '\x7d' :: rest) := by
      simp [print]
    rw [htext, feed_char hopen]
    by_cases hempty : members = []
    · subst hempty
      exact feed_char (by rfl)
    · exact feed_members members [] hempty hmembers (by simpa using hnodup) (by omega)
theorem feed_items : ∀ (items done : List PyJson) {room : Nat} {first : Bool}
    {stack : List Frame} {rest : PyStr}, items ≠ [] → allFit ascii items room = true →
    stack.length + 1 + room ≤ settings.nesting →
    feed settings (.value first, .array done :: stack)
        (separated (printItems ascii items) ++ .char ']' :: rest) =
      feed settings (.done (.arr (done.reverse ++ items)), stack) rest
  | [], _, _, _, _, _, hne, _, _ => absurd rfl hne
  | [v], done, room, first, stack, rest, _, hfits, hroom => by
    simp only [allFit, Bool.and_true] at hfits
    have htext : separated (printItems ascii [v]) ++ .char ']' :: rest =
        print ascii v ++ .char ']' :: rest := by simp [printItems, separated]
    rw [htext, feed_print v hfits (by simpa using hroom) (delimited_close (by decide) rest)]
    have hclose : step settings (.done v, .array done :: stack) (.char ']') =
        .ok (.done (.arr (v :: done).reverse), stack) := rfl
    rw [feed_char hclose, List.reverse_cons]
  | v :: w :: items, done, room, first, stack, rest, _, hfits, hroom => by
    have hfirst : fits ascii v room = true := by
      simp only [allFit, Bool.and_eq_true] at hfits
      exact hfits.1
    have hothers : allFit ascii (w :: items) room = true := by
      rw [allFit, Bool.and_eq_true] at hfits
      exact hfits.2
    have htext : separated (printItems ascii (v :: w :: items)) ++ .char ']' :: rest =
        print ascii v ++ .char ',' ::
          (separated (printItems ascii (w :: items)) ++ .char ']' :: rest) := by
      simp [printItems, separated]
    rw [htext, feed_print v hfirst (by simpa using hroom) (delimited_close (by decide) _)]
    have hnext : step settings (.done v, .array done :: stack) (.char ',') =
        .ok (.value false, .array (v :: done) :: stack) := rfl
    rw [feed_char hnext, feed_items (w :: items) (v :: done) (by simp) hothers hroom]
    simp
theorem feed_members : ∀ (members done : List (PyStr × PyJson)) {room : Nat} {first : Bool}
    {stack : List Frame} {rest : PyStr}, members ≠ [] → membersFit ascii members room = true →
    ((done.reverse ++ members).map Prod.fst).Nodup → stack.length + 1 + room ≤ settings.nesting →
    feed settings (.key first, .object done none :: stack)
        (separated (printMembers ascii members) ++ .char '\x7d' :: rest) =
      feed settings (.done (.obj (done.reverse ++ members)), stack) rest
  | [], _, _, _, _, _, hne, _, _, _ => absurd rfl hne
  | [(k, v)], done, room, first, stack, rest, _, hfits, hnodup, hroom => by
    simp only [membersFit, Bool.and_true, Bool.and_eq_true] at hfits
    have htext : separated (printMembers ascii [(k, v)]) ++ .char '\x7d' :: rest =
        quote ascii k ++ .char ':' :: (print ascii v ++ .char '\x7d' :: rest) := by
      simp [printMembers, separated]
    rw [htext, feed_key (no_surrogate hfits.1), feed_print v hfits.2 (by simpa using hroom)
      (delimited_close (by decide) rest)]
    have hclose : step settings (.done v, .object done (some k) :: stack) (.char '\x7d') =
        .ok (.done (.obj ((k, v) :: done).reverse), stack) := by
      change endObject settings ((k, v) :: done).reverse stack = _
      unfold endObject
      rw [if_neg]
      simpa using fun _ => hnodup
    rw [feed_char hclose, List.reverse_cons]
  | (k, v) :: (l, w) :: members, done, room, first, stack, rest, _, hfits, hnodup, hroom => by
    rw [membersFit, Bool.and_eq_true, Bool.and_eq_true] at hfits
    obtain ⟨⟨hkey, hvalue⟩, hothers⟩ := hfits
    have htext : separated (printMembers ascii ((k, v) :: (l, w) :: members)) ++
          .char '\x7d' :: rest =
        quote ascii k ++ .char ':' :: (print ascii v ++ .char ',' ::
          (separated (printMembers ascii ((l, w) :: members)) ++ .char '\x7d' :: rest)) := by
      simp [printMembers, separated]
    rw [htext, feed_key (no_surrogate hkey), feed_print v hvalue (by simpa using hroom)
      (delimited_close (by decide) _)]
    have hnext : step settings (.done v, .object done (some k) :: stack) (.char ',') =
        .ok (.key false, .object ((k, v) :: done) none :: stack) := rfl
    rw [feed_char hnext, feed_members ((l, w) :: members) ((k, v) :: done) (by simp) hothers
      (by simpa using hnodup) hroom]
    simp
end

/-- What was written is read back, also with white space after it. -/
theorem loads_print (settings : Settings) {v : PyJson} (h : fits ascii v settings.nesting = true) :
    loads settings (print ascii v) = .ok v ∧
      loads settings (print ascii v ++ [.char '\n']) = .ok v := by
  constructor
  · have hfeed : feed settings (.value false, []) (print ascii v ++ []) =
        feed settings (.done v, []) [] :=
      feed_print v h (by simp) (by intro c hc; cases hc)
    rw [List.append_nil] at hfeed
    exact hfeed
  · exact feed_print v h (by simp)
      (delimited_close (by decide) [])

/-- The text determines the value. -/
theorem print_injective {v w : PyJson} {room : Nat} (hv : fits ascii v room = true)
    (hw : fits ascii w room = true) (h : print ascii v = print ascii w) : v = w := by
  have hreadV := (loads_print ⟨room, false⟩ hv).1
  have hreadW := (loads_print ⟨room, false⟩ hw).1
  rw [h, hreadW] at hreadV
  exact (Except.ok.inj hreadV).symm

end Values
end JsonReader
