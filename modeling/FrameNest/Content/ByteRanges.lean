import FrameNest.Text.Plain
import FrameNest.Text.JsonTree

/-! `get_media_content`: the `Range` header of a request, the response it gets, and the stream that
reads the opened file and closes its descriptor. -/
namespace FrameNest.Content
open Plain

def chunkSize : Nat := 65536

section Parsing

/- The digits of an `int` literal, which single underscores may group. -/
def digitsOf : List Char → Option (List Char)
  | [] => none
  | [c] => if c.isDigit then some [c] else none
  | c :: '_' :: rest => if c.isDigit then (digitsOf rest).map (c :: ·) else none
  | c :: d :: rest => if c.isDigit then (digitsOf (d :: rest)).map (c :: ·) else none

def signOf : List Char → Bool × List Char
  | '-' :: rest => (true, rest)
  | '+' :: rest => (false, rest)
  | rest => (false, rest)

/- `int(value)`, `none` when it raises `ValueError`: also for more digits than Python converts. A
header has Latin-1 characters only, so that its decimal digits are the ten of ASCII. -/
def intOf (value : List Char) : Option Int :=
  let (negative, digits) := signOf (trim value)
  match digitsOf digits with
  | none => none
  | some ds =>
    if ds.length ≤ PyJson.maxStrDigits then
      let n := Nat.ofDigitChars 10 ds 0
      some (if negative then -(n : Int) else n)
    else none

/- `_parse_non_negative_int`. -/
def parseNonNegativeInt (value : List Char) : Option Nat :=
  if value = [] then none
  else
    match intOf value with
    | none => none
    | some parsed =>
      if parsed < 0 ∨ Nat.toDigits 10 parsed.toNat ≠ value then none else some parsed.toNat

/- The end of `_parse_byte_range`; with `size = 0` it is `size ≤ start` that answers. -/
def withinSize (start stop size : Nat) : Option (Nat × Nat) :=
  if size ≤ start then none else some (start, min stop (size - 1))

/- `_parse_byte_range`; `lower` changes no other character into one of `bytes=`. -/
def parseByteRange (header : List Char) (size : Nat) : Option (Nat × Nat) :=
  if (header.take 6).map Char.toLower ≠ "bytes=".toList then none
  else
    let spec := trim (header.drop 6)
    if spec = [] ∨ ',' ∈ spec then none
    else if '-' ∉ spec then none
    else
      let startStr := spec.takeWhile (· ≠ '-')
      let endStr := (spec.dropWhile (· ≠ '-')).drop 1
      if startStr = [] ∧ endStr = [] then none
      else if startStr = [] then
        match parseNonNegativeInt endStr with
        | none => none
        | some suffix =>
          if suffix = 0 then none
          else if size = 0 then none
          else withinSize (size - min suffix size) (size - 1) size
      else if endStr = [] then
        match parseNonNegativeInt startStr with
        | none => none
        | some start => withinSize start (size - 1) size
      else
        match parseNonNegativeInt startStr, parseNonNegativeInt endStr with
        | some start, some stop => if stop < start then none else withinSize start stop size
        | _, _ => none

end Parsing

section Responding

/-- What the endpoint answers; `stream` is what its body reads, from where and how many bytes. A
response without a stream is given after the descriptor was closed. -/
structure Response where
  status : Nat
  headers : List (String × String)
  error : Option (String × String)
  stream : Option (Nat × Option Nat)
deriving DecidableEq

def fullContentResponse (mediaType : String) (byteSize : Nat) : Response where
  status := 200
  headers := [("X-Content-Type-Options", "nosniff"), ("Cache-Control", "private, no-store"),
    ("Accept-Ranges", "bytes"), ("Content-Type", mediaType), ("Content-Length", toString byteSize)]
  error := none
  stream := some (0, none)

/- `f"bytes {start}-{end}/{resolved.byte_size}"`. -/
def contentRange (start stop byteSize : Nat) : String :=
  "bytes " ++ toString start ++ "-" ++ toString stop ++ "/" ++ toString byteSize

def partialContentResponse (mediaType : String) (byteSize start stop : Nat) : Response where
  status := 206
  headers := [("X-Content-Type-Options", "nosniff"), ("Cache-Control", "private, no-store"),
    ("Accept-Ranges", "bytes"), ("Content-Type", mediaType),
    ("Content-Length", toString (stop - start + 1)),
    ("Content-Range", contentRange start stop byteSize)]
  error := none
  stream := some (start, some (stop - start + 1))

def rangeNotSatisfiableResponse (byteSize : Nat) : Response where
  status := 416
  headers := [("Cache-Control", "no-store"), ("Content-Range", "bytes */" ++ toString byteSize)]
  error := some ("RANGE_NOT_SATISFIABLE", "Requested range is not satisfiable.")
  stream := none

/- `get_media_content` once the content is resolved. -/
def getMediaContent (mediaType : String) (byteSize : Nat) (rangeHeader : Option (List Char)) :
    Response :=
  match rangeHeader with
  | none => fullContentResponse mediaType byteSize
  | some header =>
    match parseByteRange header byteSize with
    | none => rangeNotSatisfiableResponse byteSize
    | some (start, stop) => partialContentResponse mediaType byteSize start stop

end Responding

section Streaming
variable {β : Type}

inductive Phase where
  | unstarted
  | running
  | finished
deriving DecidableEq

/-- A `_stream_with_finalization` around a `stream`: where the descriptor stands, the locals of the
generator, whether `_close` ran, how often the descriptor was closed, and what was sent. -/
structure Stream (β : Type) where
  phase : Phase
  position : Nat
  remaining : Option Nat
  chunk : List β
  closed : Bool
  closes : Nat
  sent : List β
deriving DecidableEq

/-- How the operating system answers while one chunk is asked for: whether `lseek` works, and how
many bytes `read` gives at most beyond one, `none` when it raises. -/
structure Answers where
  seek : Bool
  read : Option Nat

def Answers.Fine (a : Answers) : Prop := a.seek = true ∧ a.read.isSome = true

def Stream.opened (length : Option Nat) : Stream β where
  phase := .unstarted
  position := 0
  remaining := length
  chunk := []
  closed := false
  closes := 0
  sent := []

/- `_close`. -/
def Stream.close (s : Stream β) : Stream β :=
  if s.closed then s else { s with closed := true, closes := s.closes + 1 }

/- A generator that ends, in whatever way, runs the `finally` of `stream` and the one around it. -/
def Stream.finish (s : Stream β) : Stream β := ({ s with phase := .finished } : Stream β).close.close

def limited (remaining : Option Nat) (bytes : List β) : List β :=
  match remaining with
  | none => bytes
  | some n => bytes.take n

/- The body of the `while` up to its `yield`. -/
def Stream.readOn (content : List β) (read : Option Nat) (s : Stream β) : Stream β :=
  if s.remaining = some 0 then s.finish
  else
    match read with
    | none => s.finish
    | some more =>
      let chunk := (content.drop s.position).take (min (more + 1) chunkSize)
      if chunk.isEmpty then s.finish
      else
        let cut := limited s.remaining chunk
        { s with
          phase := .running
          position := s.position + chunk.length
          chunk := cut
          sent := s.sent ++ cut }

/- The next chunk is asked for. -/
def Stream.pull (content : List β) (start : Nat) (s : Stream β) (answers : Answers) : Stream β :=
  match s.phase with
  | .unstarted =>
    if 0 < start then
      if answers.seek then ({ s with position := start } : Stream β).readOn content answers.read
      else s.finish
    else s.readOn content answers.read
  | .running =>
    ({ s with remaining := s.remaining.map (· - s.chunk.length) } : Stream β).readOn content
      answers.read
  | .finished => s

/- The client stops: a generator that waits at its `yield` is closed there, one that was never
started has entered no `try`. -/
def Stream.abandon (s : Stream β) : Stream β :=
  match s.phase with
  | .running => s.finish
  | .unstarted | .finished => s

/-- The client takes as many chunks as there are answers, and stops. -/
def Stream.pulled (content : List β) (start : Nat) (length : Option Nat) (calls : List Answers) :
    Stream β :=
  calls.foldl (Stream.pull content start) (Stream.opened length)

/-- How often the descriptor of a response is closed. -/
def Response.closes (r : Response) (content : List β) (calls : List Answers) : Nat :=
  match r.stream with
  | none => 1
  | some (start, length) => (Stream.pulled content start length calls).abandon.closes

/-- What a client has received of the body. -/
def Response.received (r : Response) (content : List β) (calls : List Answers) : List β :=
  match r.stream with
  | none => []
  | some (start, length) => (Stream.pulled content start length calls).sent

/-- The body of the response is `bytes`: no client receives anything else, and one that asks until
there is no more, with a system that answers, receives it all. -/
def Response.Sends (r : Response) (content bytes : List β) : Prop :=
  (∀ calls, r.received content calls <+: bytes) ∧
    ∀ calls : List Answers, (∀ a ∈ calls, a.Fine) → bytes.length < calls.length →
      r.received content calls = bytes

section Steps
variable {content : List β} {start : Nat} {s : Stream β} {target : List β} {answers : Answers}
  {read : Option Nat}

/-- The stream is open, and what it has sent and what it has yet to send make up the target. -/
structure Underway (content target : List β) (s : Stream β) : Prop where
  unclosed : s.closed = false
  uncounted : s.closes = 0
  whole : s.sent ++ limited s.remaining (content.drop s.position) = target

/-- What holds of a stream between two chunks. -/
structure Sound (content target : List β) (start : Nat) (s : Stream β) : Prop where
  part : s.sent <+: target
  fresh : s.phase = .unstarted → Underway content target { s with position := start } ∧
    s.position = 0 ∧ s.sent = []
  going : s.phase = .running →
    Underway content target { s with remaining := s.remaining.map (· - s.chunk.length) }
  done : s.phase = .finished → s.closes = 1

@[simp] theorem close_sent : s.close.sent = s.sent := by unfold Stream.close; split <;> rfl
@[simp] theorem close_phase : s.close.phase = s.phase := by unfold Stream.close; split <;> rfl
@[simp] theorem finish_sent : s.finish.sent = s.sent := by simp [Stream.finish]
@[simp] theorem finish_phase : s.finish.phase = .finished := by simp [Stream.finish]

theorem sound_finish (hopen : s.closed = false) (hnone : s.closes = 0) (hpart : s.sent <+: target) :
    Sound content target start s.finish where
  part := by simpa using hpart
  fresh := by simp
  going := by simp
  done := by simp [Stream.finish, Stream.close, hopen, hnone]

theorem Underway.part (h : Underway content target s) : s.sent <+: target := by
  rw [← h.whole]
  exact List.prefix_append _ _

theorem Underway.finish (start : Nat) (h : Underway content target s) :
    Sound content target start s.finish :=
  sound_finish h.unclosed h.uncounted h.part

theorem limited_append {remaining : Option Nat} {front back : List β} :
    limited remaining (front ++ back) = limited remaining front ++
      limited (remaining.map (· - (limited remaining front).length)) back := by
  cases remaining with
  | none => rfl
  | some n =>
    have hcut : n - (front.take n).length = n - front.length := by
      rw [List.length_take]
      omega
    simp only [limited, Option.map_some, hcut, List.take_append]

/-- Asking an open stream for a chunk keeps it sound. A chunk that the system gives is one byte at
least; without one everything has been sent. -/
theorem Underway.readOn (start : Nat) (h : Underway content target s) :
    Sound content target start (s.readOn content read) ∧
      (read.isSome = true → (s.readOn content read).phase = .finished ∧
        (s.readOn content read).sent = target ∨ (s.readOn content read).phase = .running ∧
          s.sent.length < (s.readOn content read).sent.length) := by
  have hwhole := h.whole
  unfold Stream.readOn
  split
  · rename_i hzero
    rw [hzero] at hwhole
    refine ⟨h.finish start, fun _ => .inl ⟨finish_phase, ?_⟩⟩
    simpa [limited] using hwhole
  · rename_i hsome
    cases read with
    | none => exact ⟨h.finish start, by simp⟩
    | some more =>
      simp only
      split
      · rename_i hempty
        have hend : content.drop s.position = [] := by
          have hchunk : 0 < min (more + 1) chunkSize := by simp [chunkSize]
          rw [List.isEmpty_iff, List.take_eq_nil_iff] at hempty
          exact hempty.resolve_left (by omega)
        refine ⟨h.finish start, fun _ => .inl ⟨finish_phase, ?_⟩⟩
        rw [hend] at hwhole
        cases hr : s.remaining <;> simpa [limited, hr] using hwhole
      · rename_i hchunk
        set chunk := (content.drop s.position).take (min (more + 1) chunkSize) with hc
        have hsplit : content.drop s.position =
            chunk ++ content.drop (s.position + chunk.length) := by
          rw [← List.drop_drop]
          exact (List.prefix_iff_eq_append.mp (List.take_prefix _ _)).symm
        have hall : s.sent ++ limited s.remaining chunk ++
            limited (s.remaining.map (· - (limited s.remaining chunk).length))
              (content.drop (s.position + chunk.length)) = target := by
          rw [List.append_assoc, ← limited_append, ← hsplit]
          exact hwhole
        refine ⟨⟨?_, by simp, fun _ => ⟨h.unclosed, h.uncounted, hall⟩, by simp⟩, fun _ => .inr ?_⟩
        · rw [← hall]
          exact List.prefix_append _ _
        · have hne : limited s.remaining chunk ≠ [] := by
            cases hr : s.remaining with
            | none => simpa [limited] using hchunk
            | some n =>
              have hn : n ≠ 0 := by
                rintro rfl
                exact hsome hr
              simpa [limited, List.take_eq_nil_iff, hn] using hchunk
          exact ⟨rfl, by simpa using List.length_pos_of_ne_nil hne⟩

theorem sound_opened (content : List β) (start : Nat) (length : Option Nat) :
    Sound content (limited length (content.drop start)) start (Stream.opened length) where
  part := List.nil_prefix
  fresh _ := ⟨⟨rfl, rfl, rfl⟩, rfl, rfl⟩
  going := by simp [Stream.opened]
  done := by simp [Stream.opened]

/-- What asking for a chunk can come to. -/
theorem Sound.pull_cases (h : Sound content target start s) (answers : Answers) :
    (s.phase = .finished ∧ s.pull content start answers = s) ∨
    (∃ from_, Underway content target from_ ∧ from_.sent = s.sent ∧
      s.pull content start answers = from_.readOn content answers.read) ∨
    (answers.seek = false ∧ s.closed = false ∧ s.closes = 0 ∧
      s.pull content start answers = s.finish) := by
  unfold Stream.pull
  cases hphase : s.phase with
  | finished => exact .inl ⟨rfl, rfl⟩
  | running => exact .inr (.inl ⟨_, h.going hphase, rfl, rfl⟩)
  | unstarted =>
    obtain ⟨hopen, hstart, hsent⟩ := h.fresh hphase
    simp only [← hphase]
    by_cases hpos : 0 < start
    · cases hseek : answers.seek with
      | true => exact .inr (.inl ⟨_, hopen, rfl, by simp [hpos]⟩)
      | false => exact .inr (.inr ⟨rfl, hopen.unclosed, hopen.uncounted, by simp [hpos]⟩)
    · have hthere : ({ s with position := start } : Stream β) = s := by
        rw [show start = s.position by omega]
      rw [hthere] at hopen
      exact .inr (.inl ⟨s, hopen, rfl, by simp [hpos]⟩)

theorem Sound.pull (h : Sound content target start s) :
    Sound content target start (s.pull content start answers) := by
  obtain ⟨-, hsame⟩ | ⟨from_, hopen, -, hread⟩ | ⟨-, hopen, hnone, hend⟩ :=
    h.pull_cases answers
  · rw [hsame]
    exact h
  · rw [hread]
    exact (hopen.readOn start).1
  · rw [hend]
    exact sound_finish hopen hnone h.part

/-- A chunk that the system gives makes the stream longer unless everything was sent. -/
theorem Sound.gain (h : Sound content target start s) (hfine : answers.Fine)
    (hdone : s.phase = .finished → s.sent = target) :
    (s.pull content start answers).phase = .finished ∧
        (s.pull content start answers).sent = target ∨
      (s.pull content start answers).phase = .running ∧
        s.sent.length < (s.pull content start answers).sent.length := by
  obtain ⟨hphase, hsame⟩ | ⟨from_, hopen, hsent, hread⟩ | ⟨hseek, -⟩ :=
    h.pull_cases answers
  · rw [hsame]
    exact .inl ⟨hphase, hdone hphase⟩
  · rw [hread, ← hsent]
    exact (hopen.readOn start).2 hfine.2
  · simp [hfine.1] at hseek

theorem Sound.pulls (h : Sound content target start s) (calls : List Answers) :
    Sound content target start (calls.foldl (Stream.pull content start) s) := by
  induction calls generalizing s with
  | nil => exact h
  | cons a rest ih => exact ih h.pull

theorem pulls_finished (h : s.phase = .finished) (calls : List Answers) :
    calls.foldl (Stream.pull content start) s = s := by
  induction calls with
  | nil => rfl
  | cons a rest ih =>
    have hpull : s.pull content start a = s := by simp [Stream.pull, h]
    rw [List.foldl_cons, hpull, ih]

/-- With a system that answers, every chunk brings a byte until everything was sent. -/
theorem Sound.progress (h : Sound content target start s) {calls : List Answers}
    (hfine : ∀ a ∈ calls, a.Fine) (hdone : s.phase = .finished → s.sent = target) :
    (calls.foldl (Stream.pull content start) s).sent = target ∨
      s.sent.length + calls.length ≤ (calls.foldl (Stream.pull content start) s).sent.length := by
  induction calls generalizing s with
  | nil => simp
  | cons a rest ih =>
    rw [List.foldl_cons]
    obtain ⟨hphase, hsent⟩ | ⟨hphase, hmore⟩ := h.gain (hfine a List.mem_cons_self) hdone
    · rw [pulls_finished hphase]
      exact .inl hsent
    · have hrest := ih h.pull (fun b hb => hfine b (List.mem_cons_of_mem a hb))
        (fun hend => by rw [hphase] at hend; cases hend)
      refine hrest.imp_right fun hlong => ?_
      rw [List.length_cons]
      omega

end Steps

section Served
variable {content : List β} {start : Nat} {length : Option Nat} {calls : List Answers}

theorem pulled_sound (content : List β) (start : Nat) (length : Option Nat)
    (calls : List Answers) : Sound content (limited length (content.drop start)) start
      (Stream.pulled content start length calls) :=
  (sound_opened content start length).pulls calls

theorem pulled_fine (hfine : ∀ a ∈ calls, a.Fine)
    (hlong : (limited length (content.drop start)).length < calls.length) :
    (Stream.pulled content start length calls).sent = limited length (content.drop start) := by
  have hopened := (sound_opened content start length).progress hfine (by simp [Stream.opened])
  refine hopened.resolve_right fun hmore => ?_
  have hpart := (pulled_sound content start length calls).part.length_le
  unfold Stream.pulled at hpart
  omega

/-- A stream is started by the first chunk that is asked for. -/
theorem pull_started {s : Stream β} {a : Answers} : (s.pull content start a).phase ≠ .unstarted := by
  have hread : ∀ s : Stream β, (s.readOn content a.read).phase ≠ .unstarted := by
    intro s
    unfold Stream.readOn
    split
    · simp
    · cases a.read with
      | none => simp
      | some more =>
        simp only
        split <;> simp
  unfold Stream.pull
  cases hphase : s.phase with
  | finished => simp [hphase]
  | running => exact hread _
  | unstarted =>
    simp only
    split
    · split
      · exact hread _
      · simp
    · exact hread _

theorem pulled_started (h : calls ≠ []) :
    (Stream.pulled content start length calls).phase ≠ .unstarted := by
  obtain ⟨front, a, rfl⟩ := List.eq_nil_or_concat calls |>.resolve_left h
  rw [Stream.pulled, List.concat_eq_append, List.foldl_append]
  exact pull_started

/-- The descriptor behind a stream is closed once if the client asked for a chunk, and never
otherwise. -/
theorem abandoned_closes : (Stream.pulled content start length calls).abandon.closes =
    if calls = [] then 0 else 1 := by
  split
  · rename_i hnone
    subst hnone
    rfl
  · rename_i hsome
    have hsound := pulled_sound content start length calls
    unfold Stream.abandon
    cases hphase : (Stream.pulled content start length calls).phase with
    | unstarted => exact absurd hphase (pulled_started hsome)
    | finished => exact hsound.done hphase
    | running =>
      have hopen := hsound.going hphase
      have hend : Sound content (limited length (content.drop start)) start
          (Stream.pulled content start length calls).finish :=
        sound_finish hopen.unclosed hopen.uncounted hsound.part
      simpa using hend.done finish_phase

end Served
end Streaming

section Numbers

/-- A number that `int` converts and `str` writes. -/
def Short (n : Nat) : Prop := (Nat.toDigits 10 n).length ≤ PyJson.maxStrDigits

instance (n : Nat) : Decidable (Short n) := inferInstanceAs (Decidable (_ ≤ _))

theorem digits_isDigit {n : Nat} {c : Char} (h : c ∈ Nat.toDigits 10 n) : c.isDigit = true :=
  Nat.isDigit_of_mem_toDigits (by decide) (by decide) h

theorem isDigit_range {c : Char} (h : c.isDigit = true) : 48 ≤ c.toNat ∧ c.toNat ≤ 57 := by
  simpa [Char.isDigit, UInt32.le_iff_toNat_le] using h

/-- A character outside `0` to `9` stands in no decimal number. -/
theorem not_mem_digits {n : Nat} {c : Char} (h : c.isDigit = false) : c ∉ Nat.toDigits 10 n := by
  intro hc
  rw [digits_isDigit hc] at h
  cases h

theorem isSpace_digit {c : Char} (h : c.isDigit = true) : isSpace c = false := by
  have hrange := isDigit_range h
  simp only [isSpace]
  grind

theorem digitsOf_digits : ∀ {l : List Char}, l ≠ [] → (∀ c ∈ l, c.isDigit = true) →
    digitsOf l = some l
  | [], h, _ => absurd rfl h
  | [c], _, hall => by simp [digitsOf, hall c]
  | c :: d :: rest, _, hall => by
    have hd : d ≠ '_' := by
      rintro rfl
      exact absurd (hall '_' (by simp)) (by decide)
    have hrest := digitsOf_digits (l := d :: rest) (by simp) fun e he => hall e (by simp_all)
    rw [digitsOf]
    · simp [hall c, hrest]
    · exact hd

theorem intOf_digits (n : Nat) :
    intOf (Nat.toDigits 10 n) = if Short n then some (n : Int) else none := by
  have hne : Nat.toDigits 10 n ≠ [] := Nat.toDigits_ne_nil
  have hsnug : Snug (Nat.toDigits 10 n) :=
    ⟨fun c hc => isSpace_digit (digits_isDigit (List.mem_of_head? hc)),
      fun c hc => isSpace_digit (digits_isDigit (List.mem_of_getLast? hc))⟩
  have hsign : signOf (Nat.toDigits 10 n) = (false, Nat.toDigits 10 n) := by
    cases hdigits : Nat.toDigits 10 n with
    | nil => rfl
    | cons c rest =>
      have hc : c.isDigit = true := digits_isDigit (n := n) (by simp [hdigits])
      unfold signOf
      split
      · simp_all
      · simp_all
      · rfl
  have hread : digitsOf (Nat.toDigits 10 n) = some (Nat.toDigits 10 n) :=
    digitsOf_digits hne fun c hc => digits_isDigit hc
  simp only [intOf, hsnug.trim, hsign, hread, Nat.ofDigitChars_ten_toDigits]
  by_cases hshort : Short n
  · rw [if_pos hshort, if_pos (show _ ≤ PyJson.maxStrDigits from hshort)]
    rfl
  · rw [if_neg hshort, if_neg (show ¬_ ≤ PyJson.maxStrDigits from hshort)]

/-- A number is read from its own decimal digits, and only up to the length that `int` takes. -/
theorem parseNonNegativeInt_digits (n : Nat) :
    parseNonNegativeInt (Nat.toDigits 10 n) = if Short n then some n else none := by
  rw [parseNonNegativeInt, intOf_digits, if_neg Nat.toDigits_ne_nil]
  by_cases hshort : Short n <;> simp [hshort]

end Numbers

section Ranges
variable {β : Type}

/-- A single range with canonical numbers: `a-b`, `a-` and `-n`. -/
inductive ByteRange where
  | closed (first last : Nat)
  | openEnded (first : Nat)
  | suffix (count : Nat)
deriving DecidableEq

namespace ByteRange

def spelling : ByteRange → List Char
  | closed first last => Nat.toDigits 10 first ++ '-' :: Nat.toDigits 10 last
  | openEnded first => Nat.toDigits 10 first ++ ['-']
  | suffix count => '-' :: Nat.toDigits 10 count

def header (r : ByteRange) : List Char := "bytes=".toList ++ r.spelling

/-- Every number of the range is one that `int` converts. -/
def AllShort : ByteRange → Prop
  | closed first last => Short first ∧ Short last
  | openEnded first => Short first
  | suffix count => Short count

instance (r : ByteRange) : Decidable r.AllShort := by
  cases r <;> unfold AllShort <;> infer_instance

/-- Where the range begins in a file of a size, and where it ends, clamped to the file. -/
def start : ByteRange → Nat → Nat
  | closed first _, _ => first
  | openEnded first, _ => first
  | suffix count, size => size - count

def pastEnd : ByteRange → Nat → Nat
  | closed _ last, size => min (last + 1) size
  | openEnded _, size => size
  | suffix _, size => size

def slice (r : ByteRange) (content : List β) : List β :=
  (content.take (r.pastEnd content.length)).drop (r.start content.length)

end ByteRange

variable {r : ByteRange} {size : Nat} {content : List β}

theorem pastEnd_le : r.pastEnd size ≤ size := by
  cases r <;> simp [ByteRange.pastEnd]

theorem slice_length : (r.slice content).length =
    r.pastEnd content.length - r.start content.length := by
  have hclamped : r.pastEnd content.length ≤ content.length := pastEnd_le
  rw [ByteRange.slice, List.length_drop, List.length_take]
  omega

theorem slice_nonempty : r.slice content ≠ [] ↔
    r.start content.length < r.pastEnd content.length := by
  rw [← List.length_pos_iff, slice_length]
  omega

theorem spelling_chars {c : Char} (h : c ∈ r.spelling) : c = '-' ∨ c.isDigit = true := by
  cases r <;> simp only [ByteRange.spelling, List.mem_append, List.mem_cons] at h
  case closed =>
    obtain h | rfl | h := h
    · exact .inr (digits_isDigit h)
    · exact .inl rfl
    · exact .inr (digits_isDigit h)
  case openEnded => grind [digits_isDigit]
  case suffix => grind [digits_isDigit]

theorem spelling_snug : Snug r.spelling := by
  have hchar : ∀ c ∈ r.spelling, isSpace c = false := by
    intro c hc
    obtain rfl | hdigit := spelling_chars hc
    · decide
    · exact isSpace_digit hdigit
  exact ⟨fun c hc => hchar c (List.mem_of_head? hc), fun c hc => hchar c (List.mem_of_getLast? hc)⟩

/-- What stands before the first `-` and what stands after it. -/
theorem split_spelling {front : List Char} (h : '-' ∉ front) (back : List Char) :
    (front ++ '-' :: back).takeWhile (· ≠ '-') = front ∧
      ((front ++ '-' :: back).dropWhile (· ≠ '-')).drop 1 = back := by
  have hfront : ∀ c ∈ front, (decide (c ≠ '-')) = true := by
    intro c hc
    simp only [decide_eq_true_eq]
    rintro rfl
    exact h hc
  rw [List.takeWhile_append_of_pos hfront, List.dropWhile_append_of_pos hfront]
  simp

theorem parse_header (r : ByteRange) (size : Nat) : parseByteRange r.header size =
    if r.AllShort ∧ r.start size < r.pastEnd size then some (r.start size, r.pastEnd size - 1)
    else none := by
  have hinitial : (r.header.take 6).map Char.toLower = "bytes=".toList := by
    simp [ByteRange.header]
  have hspec : trim (r.header.drop 6) = r.spelling := by
    rw [← spelling_snug.trim]
    simp [ByteRange.header]
  have hsingle : ¬(r.spelling = [] ∨ ',' ∈ r.spelling) := by
    rintro (hnil | hcomma)
    · cases r <;> simp [ByteRange.spelling] at hnil
    · have := spelling_chars hcomma
      simp at this
  have hdash : ¬('-' ∉ r.spelling) := by
    cases r <;> simp [ByteRange.spelling]
  have hdigits : ∀ n, Nat.toDigits 10 n ≠ [] := fun n => Nat.toDigits_ne_nil
  have hno : ∀ n, '-' ∉ Nat.toDigits 10 n := fun n => not_mem_digits (by decide)
  rw [parseByteRange, if_neg (by rw [hinitial]; simp)]
  simp only [hspec, if_neg hsingle, if_neg hdash]
  cases r with
  | closed first last =>
    obtain ⟨hfront, hback⟩ := split_spelling (hno first) (Nat.toDigits 10 last)
    simp only [ByteRange.spelling, hfront, hback, hdigits, parseNonNegativeInt_digits,
      ByteRange.AllShort, ByteRange.start, ByteRange.pastEnd, withinSize, false_and, if_false]
    by_cases hf : Short first <;> by_cases hl : Short last <;> simp [hf, hl]
    split_ifs <;> grind
  | openEnded first =>
    obtain ⟨hfront, hback⟩ := split_spelling (hno first) []
    simp only [ByteRange.spelling, hfront, hback, hdigits, parseNonNegativeInt_digits,
      ByteRange.AllShort, ByteRange.start, ByteRange.pastEnd, withinSize, false_and, if_false]
    by_cases hf : Short first <;> simp [hf]
    split_ifs <;> grind
  | suffix count =>
    obtain ⟨hfront, hback⟩ := split_spelling List.not_mem_nil (Nat.toDigits 10 count)
    simp only [List.nil_append] at hfront hback
    simp only [ByteRange.spelling, hfront, hback, hdigits, parseNonNegativeInt_digits,
      ByteRange.AllShort, ByteRange.start, ByteRange.pastEnd, withinSize, and_false, if_false, if_true]
    by_cases hc : Short count <;> simp [hc]
    split_ifs <;> grind

/-- The ranges follow on one another from `position` to the end of a file of `size` bytes. -/
def Consecutive (size : Nat) : Nat → List ByteRange → Prop
  | position, [] => position = size
  | position, r :: rest =>
    r.start size = position ∧ position ≤ r.pastEnd size ∧ Consecutive size (r.pastEnd size) rest

/-- Consecutive slices make up the rest of the file. -/
theorem consecutive_slices {ranges : List ByteRange} {position : Nat}
    (h : Consecutive content.length position ranges) :
    ranges.flatMap (fun r => r.slice content) = content.drop position := by
  induction ranges generalizing position with
  | nil =>
    rw [show position = content.length from h, List.drop_length]
    rfl
  | cons r rest ih =>
    obtain ⟨hstart, hle, hrest⟩ := h
    rw [List.flatMap_cons, ih hrest, ByteRange.slice, hstart]
    have hsplit : content.drop position = ((content.take (r.pastEnd content.length)) ++
        content.drop (r.pastEnd content.length)).drop position := by
      rw [List.take_append_drop]
    have hfront : position ≤ (content.take (r.pastEnd content.length)).length := by
      have hclamped : r.pastEnd content.length ≤ content.length := pastEnd_le
      rw [List.length_take]
      omega
    rw [hsplit, List.drop_append_of_le_length hfront]

end Ranges

section Answering
variable {β : Type} {mediaType : String} {content : List β} {r : ByteRange}

theorem response_short (hshort : r.AllShort) (hsome : r.slice content ≠ []) :
    getMediaContent mediaType content.length (some r.header) =
      partialContentResponse mediaType content.length (r.start content.length)
        (r.pastEnd content.length - 1) := by
  simp [getMediaContent, parse_header, hshort, slice_nonempty.mp hsome]

theorem response_refused (h : ¬r.AllShort ∨ r.slice content = []) :
    getMediaContent mediaType content.length (some r.header) =
      rangeNotSatisfiableResponse content.length := by
  have hnot : ¬(r.AllShort ∧ r.start content.length < r.pastEnd content.length) := by
    rintro ⟨hshort, hsome⟩
    exact h.elim (· hshort) (slice_nonempty.mpr hsome)
  simp [getMediaContent, parse_header, hnot]

/-- A stream sends what is between its start and its end. -/
theorem sends_limited (response : Response) {start : Nat} {length : Option Nat}
    (h : response.stream = some (start, length)) :
    response.Sends content (limited length (content.drop start)) := by
  constructor
  · intro calls
    simp only [Response.received, h]
    exact (pulled_sound content start length calls).part
  · intro calls hfine hlong
    simp only [Response.received, h]
    exact pulled_fine hfine hlong

theorem partial_sends (mediaType : String) (hsome : r.slice content ≠ []) :
    (partialContentResponse mediaType content.length (r.start content.length)
      (r.pastEnd content.length - 1)).Sends content (r.slice content) := by
  have hbounds := slice_nonempty.mp hsome
  have hslice : r.slice content = limited
      (some (r.pastEnd content.length - 1 - r.start content.length + 1))
        (content.drop (r.start content.length)) := by
    rw [ByteRange.slice, List.drop_take, limited]
    congr 1
    omega
  rw [hslice]
  exact sends_limited _ rfl

/-- The range is answered 206 exactly if it selects a byte, and then the body is its slice of the
file and the headers tell its length and where it stands. -/
def AnsweredWell (mediaType : String) (content : List β) (r : ByteRange) : Prop :=
  let response := getMediaContent mediaType content.length (some r.header)
  (response.status = 206 ↔ r.slice content ≠ []) ∧
    (response.status = 206 → response.Sends content (r.slice content) ∧
      response.headers.lookup "Content-Length" = some (toString (r.slice content).length) ∧
      response.headers.lookup "Content-Range" = some (contentRange (r.start content.length)
        (r.start content.length + (r.slice content).length - 1) content.length))

/-- Without a header the answer is 200 and the whole file. -/
def AnsweredWhole (mediaType : String) (content : List β) : Prop :=
  let response := getMediaContent mediaType content.length none
  response.status = 200 ∧ response.Sends content content ∧
    response.headers.lookup "Content-Length" = some (toString content.length)

theorem answered_iff : AnsweredWell mediaType content r ↔ r.AllShort ∨ r.slice content = [] := by
  by_cases hempty : r.slice content = []
  · simp [AnsweredWell, response_refused (.inr hempty), rangeNotSatisfiableResponse, hempty]
  · by_cases hshort : r.AllShort
    · have hbounds := slice_nonempty.mp hempty
      have hlength : (r.slice content).length =
          r.pastEnd content.length - 1 - r.start content.length + 1 := by
        rw [slice_length]
        omega
      have hlast : r.start content.length + (r.slice content).length - 1 =
          r.pastEnd content.length - 1 := by
        rw [slice_length]
        omega
      have hsends := partial_sends mediaType hempty
      simp only [AnsweredWell, response_short hshort hempty, hlast]
      refine iff_of_true ⟨?_, fun _ => ⟨hsends, ?_, ?_⟩⟩ (.inl hshort)
      · simp [hempty, partialContentResponse]
      · simp [hlength, partialContentResponse, List.lookup_cons]
      · simp [partialContentResponse, List.lookup_cons]
    · simp [AnsweredWell, response_refused (.inl hshort), rangeNotSatisfiableResponse, hempty,
        hshort]

/-- The client asks until there is no more, and the system answers. -/
def Complete (content : List β) (calls : List Answers) : Prop :=
  (∀ a ∈ calls, a.Fine) ∧ content.length < calls.length

theorem received_complete {calls : List Answers} (h : Complete content calls) :
    (getMediaContent mediaType content.length (some r.header)).received content calls =
      if r.AllShort then r.slice content else [] := by
  by_cases hserved : r.AllShort ∧ r.slice content ≠ []
  · have hslice : (r.slice content).length ≤ content.length := by
      have hclamped : r.pastEnd content.length ≤ content.length := pastEnd_le
      rw [slice_length]
      omega
    rw [response_short hserved.1 hserved.2, if_pos hserved.1]
    exact (partial_sends mediaType hserved.2).2 calls h.1 (by have := h.2; omega)
  · have hrefused : ¬r.AllShort ∨ r.slice content = [] := by
      by_cases hshort : r.AllShort
      · exact .inr (not_not.mp fun hsome => hserved ⟨hshort, hsome⟩)
      · exact .inl hshort
    rw [response_refused hrefused]
    simp only [Response.received, rangeNotSatisfiableResponse]
    split
    · exact (hrefused.resolve_left (not_not.mpr ‹_›)).symm
    · rfl

/-- Parts that are missing from a whole are missed. -/
theorem flatMap_parts {α : Type} {l : List α} {f g : α → List β}
    (h : ∀ a ∈ l, f a = g a ∨ f a = []) :
    (l.flatMap f).length ≤ (l.flatMap g).length ∧
      ((l.flatMap f).length = (l.flatMap g).length → ∀ a ∈ l, f a = g a) := by
  induction l with
  | nil => simp
  | cons a rest ih =>
    obtain ⟨hle, hall⟩ := ih fun b hb => h b (List.mem_cons_of_mem a hb)
    simp only [List.flatMap_cons, List.length_append, List.forall_mem_cons]
    obtain hsame | hnone := h a List.mem_cons_self
    · rw [hsame]
      exact ⟨by omega, fun heq => ⟨rfl, hall (by omega)⟩⟩
    · rw [hnone, List.length_nil]
      refine ⟨by omega, fun heq => ?_⟩
      have hg : (g a).length = 0 := by omega
      exact ⟨(List.eq_nil_of_length_eq_zero hg).symm, hall (by omega)⟩

/-- Complete reads of consecutive ranges give the file again if, and only if, no range that selects
something has a number `int` does not convert. -/
theorem reassembles_iff {requests : List (ByteRange × List Answers)}
    (hcover : Consecutive content.length 0 (requests.map Prod.fst))
    (hcomplete : ∀ q ∈ requests, Complete content q.2) :
    requests.flatMap (fun q => (getMediaContent mediaType content.length
      (some q.1.header)).received content q.2) = content ↔
        ∀ q ∈ requests, q.1.AllShort ∨ q.1.slice content = [] := by
  have hwhole : requests.flatMap (fun q => q.1.slice content) = content := by
    have hslices := consecutive_slices hcover
    rwa [List.flatMap_map, List.drop_zero] at hslices
  have hreceived : ∀ q ∈ requests, (getMediaContent mediaType content.length
      (some q.1.header)).received content q.2 = if q.1.AllShort then q.1.slice content else [] :=
    fun q hq => received_complete (hcomplete q hq)
  constructor
  · intro hall q hq
    have hparts := (flatMap_parts (l := requests) (g := fun q => q.1.slice content)
      (f := fun q => (getMediaContent mediaType content.length
        (some q.1.header)).received content q.2) fun a ha => by
          rw [hreceived a ha]
          split <;> simp).2 (by rw [hall, hwhole]) q hq
    by_cases hshort : q.1.AllShort
    · exact .inl hshort
    · rw [hreceived q hq, if_neg hshort] at hparts
      exact .inr hparts.symm
  · intro hall
    calc requests.flatMap (fun q => (getMediaContent mediaType content.length
          (some q.1.header)).received content q.2)
        = requests.flatMap (fun q => q.1.slice content) := by
          refine List.flatMap_congr fun q hq => ?_
          rw [hreceived q hq]
          split
          · rfl
          · exact ((hall q hq).resolve_left ‹_›).symm
      _ = content := hwhole

theorem response_cases (mediaType : String) (header : List Char) (size : Nat) :
    getMediaContent mediaType size (some header) = rangeNotSatisfiableResponse size ∨
      ∃ start stop, getMediaContent mediaType size (some header) =
        partialContentResponse mediaType size start stop := by
  unfold getMediaContent
  cases hparse : parseByteRange header size with
  | none => exact .inl (by simp [hparse])
  | some found => exact .inr ⟨found.1, found.2, by simp [hparse]⟩

/-- The descriptor behind a response with a stream is closed if a chunk is asked for. -/
theorem streaming_closes {response : Response} {start : Nat} {length : Option Nat}
    {calls : List Answers} (h : response.stream = some (start, length)) :
    response.closes content calls = 1 ↔ calls ≠ [] := by
  simp only [Response.closes, h, abandoned_closes]
  by_cases hcalls : calls = [] <;> simp [hcalls]

theorem closes_iff (rangeHeader : Option (List Char)) (calls : List Answers) :
    (getMediaContent mediaType content.length rangeHeader).closes content calls = 1 ↔
      calls ≠ [] ∨ (getMediaContent mediaType content.length rangeHeader).status = 416 := by
  cases rangeHeader with
  | none =>
    have hfull : (fullContentResponse mediaType content.length).status ≠ 416 := by
      simp [fullContentResponse]
    exact (streaming_closes rfl).trans (or_iff_left hfull).symm
  | some header =>
    obtain hrefused | ⟨start, stop, hpiece⟩ := response_cases mediaType header content.length
    · rw [hrefused]
      simp [Response.closes, rangeNotSatisfiableResponse]
    · have hserved : (partialContentResponse mediaType content.length start stop).status ≠ 416 := by
        simp [partialContentResponse]
      rw [hpiece]
      exact (streaming_closes rfl).trans (or_iff_left hserved).symm

theorem status_range (header : List Char) :
    (getMediaContent mediaType content.length (some header)).status = 206 ∨
      (getMediaContent mediaType content.length (some header)).status = 416 := by
  obtain hrefused | ⟨start, stop, hpiece⟩ := response_cases mediaType header content.length
  · exact .inr (by rw [hrefused]; rfl)
  · exact .inl (by rw [hpiece]; rfl)

/-- Without a header the whole file is sent, with one the answer is 206 or 416; a range is answered
as it should be unless a number of it is too long for `int`, and a descriptor that a stream was
made for is closed if the client asks for a chunk. -/
theorem byte_ranges_iff (mediaType : String) (content : List β) :
    AnsweredWhole mediaType content ∧
    (∀ header, (getMediaContent mediaType content.length (some header)).status = 206 ∨
      (getMediaContent mediaType content.length (some header)).status = 416) ∧
    (∀ r, AnsweredWell mediaType content r ↔ r.AllShort ∨ r.slice content = []) ∧
    (∀ requests : List (ByteRange × List Answers),
      Consecutive content.length 0 (requests.map Prod.fst) →
      (∀ q ∈ requests, Complete content q.2) →
      (requests.flatMap (fun q => (getMediaContent mediaType content.length
        (some q.1.header)).received content q.2) = content ↔
          ∀ q ∈ requests, q.1.AllShort ∨ q.1.slice content = [])) ∧
    ∀ rangeHeader calls,
      (getMediaContent mediaType content.length rangeHeader).closes content calls = 1 ↔
        calls ≠ [] ∨ (getMediaContent mediaType content.length rangeHeader).status = 416 := by
  refine ⟨⟨rfl, ?_, ?_⟩, status_range, fun _ => answered_iff, ?_, closes_iff⟩
  · have hsends : (fullContentResponse mediaType content.length).Sends content
        (limited none (content.drop 0)) := sends_limited _ rfl
    simpa [limited, getMediaContent] using hsends
  · simp [getMediaContent, fullContentResponse, List.lookup_cons]
  · intro requests hcover hcomplete
    exact reassembles_iff hcover hcomplete

/-- A range with a number that is not short is refused although it selects a byte. -/
theorem long_refused {last : Nat} (h : ¬Short last) :
    ¬AnsweredWell "video/mp4" [7, 8] (.closed 0 last) := by
  have hsome : (ByteRange.closed 0 last).slice [7, 8] ≠ [] := by
    rw [slice_nonempty, ByteRange.start, ByteRange.pastEnd]
    exact lt_min last.succ_pos (by decide)
  exact fun hwell => (answered_iff.mp hwell).elim (fun hshort => h hshort.2) hsome

/-- The first bytes of a file are refused when the range ends at a number of 4301 digits, and a
client that stops before the first chunk leaves the descriptor open. -/
theorem long_number_is_refused :
    ¬AnsweredWell "video/mp4" [7, 8] (.closed 0 (10 ^ PyJson.maxStrDigits)) ∧
      (getMediaContent "video/mp4" 2 none).closes [7, 8] [] = 0 := by
  refine ⟨long_refused fun hshort => ?_, rfl⟩
  rw [Short, Nat.length_toDigits_le_iff (by decide) (by decide)] at hshort
  exact lt_irrefl _ hshort

end Answering
end FrameNest.Content
