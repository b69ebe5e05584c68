import Mathlib.Data.List.Basic

/-! A byte stream as a reader meets it: what arrives is cut somehow, a read may be interrupted, and
the stream may stop working. Reading exactly so many bytes depends on none of the cuts. -/
namespace Transport
variable {β ε : Type}

/-- What the next reads of a stream run into. Something arrives whole, and at least one item of it;
a stream without further events is at its end. -/
inductive Event (β ε : Type) where
  | arrives (first : β) (rest : List β)
  | interrupted
  | stopped (e : ε)

/-- How one read ends; no items are the end of the stream. -/
inductive Answer (β ε : Type) where
  | items (l : List β)
  | interrupted
  | stopped (e : ε)

/-- What is left of an arrival when its first items were taken. -/
def leave (l : List β) (rest : List (Event β ε)) : List (Event β ε) :=
  match l with
  | [] => rest
  | b :: l => .arrives b l :: rest

/-- One read of at most so many items. -/
def read (most : Nat) : List (Event β ε) → Answer β ε × List (Event β ε)
  | [] => (.items [], [])
  | .arrives b l :: rest => (.items ((b :: l).take most), leave ((b :: l).drop most) rest)
  | .interrupted :: rest => (.interrupted, rest)
  | .stopped e :: rest => (.stopped e, rest)

/-- What arrives before the stream stops working. -/
def flow : List (Event β ε) → List β
  | [] => []
  | .arrives b l :: rest => b :: l ++ flow rest
  | .interrupted :: rest => flow rest
  | .stopped _ :: _ => []

/-- The stream never stops working. -/
def Steady (events : List (Event β ε)) : Prop := ∀ e, Event.stopped e ∉ events

/-- The events after so many items; interruptions just after the last of them are still there. -/
def skip : Nat → List (Event β ε) → List (Event β ε)
  | 0, events => events
  | _ + 1, [] => []
  | n + 1, .arrives b l :: rest =>
    if (b :: l).length ≤ n + 1 then skip (n + 1 - (b :: l).length) rest
    else leave ((b :: l).drop (n + 1)) rest
  | n + 1, .interrupted :: rest => skip (n + 1) rest
  | _ + 1, .stopped e :: rest => .stopped e :: rest

theorem flow_leave (l : List β) (rest : List (Event β ε)) : flow (leave l rest) = l ++ flow rest := by
  cases l <;> rfl

theorem skip_leave (n : Nat) (l : List β) (rest : List (Event β ε)) : skip n (leave l rest) =
    if l.length ≤ n then skip (n - l.length) rest else leave (l.drop n) rest := by
  cases l with
  | nil => simp [leave]
  | cons b l =>
    cases n with
    | zero => simp [leave, skip]
    | succ n => rw [leave, skip]

theorem flow_skip {n : Nat} {events : List (Event β ε)} (h : n ≤ (flow events).length) :
    flow (skip n events) = (flow events).drop n := by
  induction events generalizing n with
  | nil =>
    obtain rfl : n = 0 := by simpa [flow] using h
    rfl
  | cons event rest ih =>
    cases n with
    | zero => rw [skip, List.drop_zero]
    | succ n =>
      cases event with
      | arrives b l =>
        simp only [flow, List.length_append] at h
        rw [skip]
        split
        · rename_i hlong
          rw [ih (by omega), flow, List.drop_append, List.drop_of_length_le hlong, List.nil_append]
        · rename_i hshort
          rw [flow_leave, flow, List.drop_append_of_le_length (by omega)]
      | interrupted => exact ih h
      | stopped e => simp [flow] at h

theorem skip_skip (m n : Nat) (events : List (Event β ε)) :
    skip n (skip m events) = skip (m + n) events := by
  induction events generalizing m with
  | nil => cases m <;> cases n <;> simp [skip]
  | cons event rest ih =>
    cases m with
    | zero => rw [Nat.zero_add, skip]
    | succ m =>
      have hsum : m + 1 + n = (m + n) + 1 := by omega
      cases event with
      | arrives b l =>
        rw [hsum, skip, skip]
        by_cases hlong : (b :: l).length ≤ m + 1
        · rw [if_pos hlong, if_pos (by omega), ih]
          congr 1
          omega
        · rw [if_neg hlong, skip_leave, List.length_drop, List.drop_drop, hsum]
          by_cases hmore : (b :: l).length ≤ m + n + 1
          · rw [if_pos (by omega), if_pos hmore]
            congr 1
            omega
          · rw [if_neg (by omega), if_neg hmore]
      | interrupted => rw [hsum, skip, skip, ih, hsum]
      | stopped e =>
        rw [hsum, skip, skip]
        cases n <;> rfl

theorem steady_leave {l : List β} {rest : List (Event β ε)} (h : Steady rest) :
    Steady (leave l rest) := by
  cases l with
  | nil => exact h
  | cons b l =>
    intro e he
    rcases List.mem_cons.mp he with heq | he
    · cases heq
    · exact h e he

theorem Steady.tail {event : Event β ε} {rest : List (Event β ε)} (h : Steady (event :: rest)) :
    Steady rest :=
  fun e he => h e (List.mem_cons_of_mem _ he)

theorem Steady.skip {events : List (Event β ε)} (h : Steady events) (n : Nat) :
    Steady (skip n events) := by
  induction events generalizing n with
  | nil => cases n <;> exact h
  | cons event rest ih =>
    cases n with
    | zero => exact h
    | succ n =>
      cases event with
      | arrives b l =>
        rw [Transport.skip]
        split
        · exact ih h.tail _
        · exact steady_leave h.tail
      | interrupted => exact ih h.tail _
      | stopped e => exact h

section Reading
variable (atEnd : ε) (chunk : Nat)

/-- One `read` after the other until so many items have come, each asking for `chunk + 1` at most;
an interrupted read is made again, and the end of the stream is an error. -/
def readExact (remaining : Nat) (events : List (Event β ε)) :
    Except ε (List β × List (Event β ε)) :=
  if _ : remaining = 0 then .ok ([], events)
  else
    match events with
    | [] => .error atEnd
    | .arrives b l :: rest =>
      let taken := (b :: l).take (min remaining (chunk + 1))
      match readExact (remaining - taken.length) (leave ((b :: l).drop taken.length) rest) with
      | .ok (more, rest) => .ok (taken ++ more, rest)
      | .error e => .error e
    | .interrupted :: rest => readExact remaining rest
    | .stopped e :: _ => .error e
termination_by (remaining, events.length)
decreasing_by
  · refine Prod.Lex.left _ _ ?_
    have htaken : 0 < ((b :: l).take (min remaining (chunk + 1))).length := by
      rw [List.length_take, List.length_cons]
      omega
    omega
  · exact Prod.Lex.right _ (Nat.lt_succ_self _)

variable {atEnd chunk} {n : Nat} {rest : List (Event β ε)}

theorem readExact_zero {events : List (Event β ε)} :
    readExact atEnd chunk 0 events = .ok ([], events) := by
  rw [readExact.eq_def, dif_pos rfl]

theorem readExact_nil (h : n ≠ 0) : readExact atEnd chunk n ([] : List (Event β ε)) =
    .error atEnd := by
  rw [readExact.eq_def, dif_neg h]

theorem readExact_interrupted (h : n ≠ 0) :
    readExact atEnd chunk n (.interrupted :: rest) = readExact atEnd chunk n rest := by
  rw [readExact, dif_neg h]

theorem readExact_stopped (h : n ≠ 0) (e : ε) :
    readExact atEnd chunk n (.stopped e :: rest) = .error e := by
  rw [readExact, dif_neg h]

/-- A part of what arrives is taken, and the rest of it is read next. -/
theorem readExact_arrives (atEnd : ε) (chunk : Nat) (h : n ≠ 0) (b : β) (l : List β)
    (rest : List (Event β ε)) :
    ∃ k, 0 < k ∧ k ≤ n ∧ k ≤ (b :: l).length ∧
      readExact atEnd chunk n (.arrives b l :: rest) =
        match readExact atEnd chunk (n - k) (leave ((b :: l).drop k) rest) with
        | .ok (more, rest) => .ok ((b :: l).take k ++ more, rest)
        | .error e => .error e := by
  have hlength : ((b :: l).take (min n (chunk + 1))).length = min (min n (chunk + 1)) (b :: l).length :=
    List.length_take
  have hcut : (b :: l).take (min n (chunk + 1)) =
      (b :: l).take ((b :: l).take (min n (chunk + 1))).length := by
    rw [hlength, List.take_eq_take_iff]
    omega
  refine ⟨((b :: l).take (min n (chunk + 1))).length, ?_, ?_, ?_, ?_⟩
  · rw [hlength, List.length_cons]
    omega
  · omega
  · omega
  · rw [readExact, dif_neg h, ← hcut]

/-- What is read is what arrives, however it is cut, and what is left is what comes after it; a
stream that ends or stops working too early is an error. -/
theorem readExact_flow (atEnd : ε) (chunk n : Nat) (events : List (Event β ε)) :
    (n ≤ (flow events).length →
      readExact atEnd chunk n events = .ok ((flow events).take n, skip n events)) ∧
    ((flow events).length < n → ∃ e, readExact atEnd chunk n events = .error e) := by
  induction n using Nat.strongRecOn generalizing events with
  | ind n hn =>
    by_cases hzero : n = 0
    · subst hzero
      exact ⟨fun _ => by rw [readExact_zero, skip, List.take_zero], fun h => absurd h (by omega)⟩
    obtain ⟨m, rfl⟩ := Nat.exists_eq_succ_of_ne_zero hzero
    induction events with
    | nil => exact ⟨fun h => absurd h (by simp [flow]), fun _ => ⟨atEnd, readExact_nil hzero⟩⟩
    | cons event rest ih =>
      cases event with
      | interrupted =>
        rw [readExact_interrupted hzero, flow, skip]
        exact ih
      | stopped e =>
        exact ⟨fun h => absurd h (by simp [flow]), fun _ => ⟨e, readExact_stopped hzero e⟩⟩
      | arrives b l =>
        obtain ⟨k, hpos, hk, hlong, hread⟩ := readExact_arrives atEnd chunk hzero b l rest
        obtain ⟨hgood, hbad⟩ := hn (m + 1 - k) (by omega) (leave ((b :: l).drop k) rest)
        have hflow : flow (leave ((b :: l).drop k) rest) =
            (flow (.arrives b l :: rest)).drop k := by
          rw [flow_leave, flow, List.drop_append_of_le_length hlong]
        have hskip : leave ((b :: l).drop k) rest = skip k (.arrives b l :: rest) := by
          have hcut := skip_leave k (b :: l) rest
          by_cases hwhole : (b :: l).length ≤ k
          · rw [if_pos hwhole, show k - (b :: l).length = 0 by omega, skip] at hcut
            rw [List.drop_of_length_le hwhole]
            exact hcut.symm
          · rw [if_neg hwhole] at hcut
            exact hcut.symm
        have hfirst : (flow (.arrives b l :: rest)).take k = (b :: l).take k := by
          rw [flow, List.take_append_of_le_length hlong]
        have hinside : (b :: l).length ≤ (flow (.arrives b l :: rest)).length := by
          rw [flow, List.length_append]
          omega
        have hsum : k + (m + 1 - k) = m + 1 := by omega
        rw [hflow, hskip, List.length_drop] at hgood hbad
        rw [hread]
        constructor
        · intro h
          rw [hskip, hgood (by omega), ← hfirst]
          dsimp only
          rw [← List.take_add, hsum, skip_skip, hsum]
        · intro h
          obtain ⟨e, he⟩ := hbad (by omega)
          exact ⟨e, by rw [hskip, he]⟩

end Reading
end Transport
