import FrameNest.Relational.Transaction
import FrameNest.Text.JsonReader
import Mathlib.Data.Nat.Digits.Defs

/-! What the hooks of the reader guarantee of the value they let pass, and that without them the
same text is read as the same value. -/
namespace PyJson

mutual
/-- No object has a key twice, no number lies beyond those of JSON, and every integer is short
enough to be written. -/
def orderly : PyJson → Bool
  | .null | .bool _ | .float _ | .str _ => true
  | .constant _ => false
  | .int n => shortInt n
  | .arr items => allOrderly items
  | .obj members => (members.map Prod.fst).Nodup && membersOrderly members
def allOrderly : List PyJson → Bool
  | [] => true
  | v :: rest => orderly v && allOrderly rest
def membersOrderly : List (PyStr × PyJson) → Bool
  | [] => true
  | (_, v) :: rest => orderly v && membersOrderly rest
end

theorem allOrderly_iff {items : List PyJson} :
    allOrderly items = true ↔ ∀ v ∈ items, orderly v = true := by
  induction items with
  | nil => simp [allOrderly]
  | cons v rest ih => simp [allOrderly, ih]

theorem membersOrderly_iff {members : List (PyStr × PyJson)} :
    membersOrderly members = true ↔ ∀ m ∈ members, orderly m.2 = true := by
  induction members with
  | nil => simp [membersOrderly]
  | cons m rest ih =>
    obtain ⟨k, v⟩ := m
    rw [membersOrderly, Bool.and_eq_true, ih, List.forall_mem_cons]

end PyJson

namespace JsonReader
open PyJson

section Sound

theorem ofDigitChars_lt {ds : List Char} (h : ∀ c ∈ ds, isDigit c = true) (init : Nat) :
    Nat.ofDigitChars 10 ds init < (init + 1) * 10 ^ ds.length := by
  induction ds generalizing init with
  | nil => simp [Nat.ofDigitChars_nil]
  | cons d ds ih =>
    have hd : isDigit d = true := h d (by simp)
    simp only [isDigit, Bool.and_eq_true, decide_eq_true_eq] at hd
    have hhigh : d.toNat ≤ 57 := hd.2
    have hrest := ih (fun c hc => h c (List.mem_cons_of_mem d hc)) (10 * init + (d.toNat - '0'.toNat))
    have hzero : '0'.toNat = 48 := rfl
    have hfirst : 10 * init + (d.toNat - '0'.toNat) + 1 ≤ (init + 1) * 10 := by omega
    rw [Nat.ofDigitChars_cons, List.length_cons, Nat.pow_succ]
    calc Nat.ofDigitChars 10 ds (10 * init + (d.toNat - '0'.toNat))
        < (10 * init + (d.toNat - '0'.toNat) + 1) * 10 ^ ds.length := hrest
      _ ≤ (init + 1) * 10 * 10 ^ ds.length := Nat.mul_le_mul_right _ hfirst
      _ = (init + 1) * (10 ^ ds.length * 10) := by ring

/-- An integer that was read is short. -/
theorem toInt_orderly {n : Number} (h : ∀ c ∈ n.digits, isDigit c = true) {v : PyJson}
    (hv : n.toInt = .ok v) : orderly v = true := by
  unfold Number.toInt at hv
  split at hv
  · rename_i hshort
    cases hv
    have hdigits : ∀ c ∈ n.digits.reverse, isDigit c = true :=
      fun c hc => h c (List.mem_reverse.mp hc)
    have hlt := ofDigitChars_lt hdigits 0
    have hpow : 10 ^ n.digits.reverse.length ≤ 10 ^ maxStrDigits := by
      apply Nat.pow_le_pow_right (by decide)
      simpa using hshort
    have hbound : Nat.ofDigitChars 10 n.digits.reverse 0 < 10 ^ maxStrDigits := by omega
    have hlength := Nat.toDigits_length 10 _ maxStrDigits (by decide) hbound
    simp only [orderly, shortInt]
    split <;> simpa using hlength
  · cases hv

theorem value_orderly {n : Number} (h : ∀ c ∈ n.digits, isDigit c = true) {v : PyJson}
    (hv : n.value = .ok v) : orderly v = true := by
  unfold Number.value at hv
  cases hphase : n.phase with
  | minus =>
    rw [hphase] at hv
    cases hv
  | zero | digits =>
    rw [hphase] at hv
    exact toInt_orderly h hv
  | fraction | power =>
    rw [hphase] at hv
    cases hv
    rfl
  | point =>
    rw [hphase] at hv
    obtain ⟨w, hw, hv⟩ := Relational.bind_eq_ok.mp hv
    cases hv
  | exponent | sign =>
    rw [hphase] at hv
    simp only at hv
    split at hv
    · cases hv
    · obtain ⟨w, hw, hv⟩ := Relational.bind_eq_ok.mp hv
      cases hv

def Frame.Orderly : Frame → Prop
  | .array items => ∀ v ∈ items, orderly v = true
  | .object members _ => ∀ m ∈ members, orderly m.2 = true

def Mode.Orderly : Mode → Prop
  | .done v => orderly v = true
  | .number n => ∀ c ∈ n.digits, isDigit c = true
  | .word _ _ v => orderly v = true ∨ ∃ name, v = .constant name
  | _ => True

/-- Whatever has been read of the text so far is orderly. -/
def Sound (state : State) : Prop := state.1.Orderly ∧ ∀ frame ∈ state.2, frame.Orderly

variable {nesting : Nat} {stack : List Frame}

def Stacked (stack : List Frame) : Prop := ∀ frame ∈ stack, frame.Orderly

theorem Stacked.tail {frame : Frame} (h : Stacked (frame :: stack)) : Stacked stack :=
  fun f hf => h f (List.mem_cons_of_mem frame hf)

theorem Stacked.cons {frame : Frame} (hframe : frame.Orderly) (h : Stacked stack) :
    Stacked (frame :: stack) := by
  intro f hf
  rcases List.mem_cons.mp hf with rfl | hf
  · exact hframe
  · exact h f hf

/-- A step that leads on leads to a sound state. -/
def Keeps (r : Except Fault State) : Prop := ∀ state', r = .ok state' → Sound state'

theorem keeps_ok {state : State} (h : Sound state) : Keeps (.ok state) := by
  intro state' heq
  cases heq
  exact h

theorem keeps_error (f : Fault) : Keeps (.error f) := by
  intro state' heq
  cases heq

theorem keeps_ite {p : Prop} [Decidable p] {r r' : Except Fault State} (h : p → Keeps r)
    (h' : ¬p → Keeps r') : Keeps (if p then r else r') := by
  by_cases hp : p
  · rw [if_pos hp]
    exact h hp
  · rw [if_neg hp]
    exact h' hp

theorem endString_keeps {isKey : Bool} {s : PyStr} (h : Stacked stack) :
    Keeps (endString isKey s stack) := by
  unfold endString
  cases isKey with
  | false => exact keeps_ok ⟨rfl, h⟩
  | true =>
    cases stack with
    | nil => exact keeps_error _
    | cons frame rest =>
      cases frame with
      | array items => exact keeps_error _
      | object members key =>
        cases key with
        | some key => exact keeps_error _
        | none =>
          have hmembers : Frame.Orderly (.object members none) := h _ (by simp)
          have hkeyed : Frame.Orderly (.object members (some s)) := hmembers
          exact keeps_ok ⟨trivial, h.tail.cons hkeyed⟩

theorem quoted_keeps {isKey : Bool} {q : Quoted} (h : Stacked stack) :
    Keeps (.ok (.quoted isKey q, stack)) := keeps_ok ⟨trivial, h⟩

theorem stepQuoted_keeps {isKey : Bool} {q : Quoted} {c : CodePoint} (h : Stacked stack) :
    Keeps (stepQuoted isKey q stack c) := by
  unfold stepQuoted
  cases q.escape with
  | plain =>
    cases c with
    | surrogate offset => exact quoted_keeps h
    | char c =>
      simp only
      split
      · exact endString_keeps h
      split
      · exact quoted_keeps h
      split
      · exact keeps_error _
      · exact quoted_keeps h
  | backslash =>
    cases c with
    | surrogate offset => exact keeps_error _
    | char c =>
      simp only
      split
      · exact quoted_keeps h
      · cases unescape? c with
        | some d => exact quoted_keeps h
        | none => exact keeps_error _
  | hex value missing =>
    cases c with
    | surrogate offset => exact keeps_error _
    | char c =>
      simp only
      cases hexValue? c with
      | none => exact keeps_error _
      | some d =>
        simp only
        split
        · exact quoted_keeps h
        · exact quoted_keeps h

/-- Under the hooks a step fails or is the step without them, and keeps what was read orderly. -/
def Checked (strict plain : Except Fault State) : Prop :=
  Keeps strict ∧ ∀ state', strict = .ok state' → plain = .ok state'

theorem checked_same {r : Except Fault State} (h : Keeps r) : Checked r r := ⟨h, fun _ hr => hr⟩

theorem startValue_keeps {c : Char} (strict : Bool) (h : Stacked stack) :
    Keeps (startValue ⟨nesting, strict⟩ stack c) := by
  have hopen {mode : Mode} {frame : Frame} (hmode : mode.Orderly) (hframe : frame.Orderly) :
      Keeps (openFrame ⟨nesting, strict⟩ mode frame stack) := by
    unfold openFrame
    split
    · exact keeps_error _
    · exact keeps_ok ⟨hmode, h.cons hframe⟩
  have hminus : Mode.Orderly (.number ⟨true, [], ['-'], .minus⟩) := by
    intro d hd
    cases hd
  have hdigits (phase : Phase) (hdigit : isDigit c = true) :
      Mode.Orderly (.number ⟨false, [c], [c], phase⟩) := by
    intro d hd
    rw [List.mem_singleton.mp hd]
    exact hdigit
  have hzero (h0 : c = '0') : Mode.Orderly (.number ⟨false, ['0'], ['0'], .zero⟩) := by
    subst h0
    exact hdigits .zero (by decide)
  unfold startValue
  refine keeps_ite (fun _ => ?_) fun _ => ?_
  · exact quoted_keeps h
  refine keeps_ite (fun _ => ?_) fun _ => ?_
  · exact hopen trivial (by intro v hv; cases hv)
  refine keeps_ite (fun _ => ?_) fun _ => ?_
  · exact hopen trivial (by intro v hv; cases hv)
  refine keeps_ite (fun _ => ?_) fun _ => ?_
  · exact keeps_ok ⟨.inl rfl, h⟩
  refine keeps_ite (fun _ => ?_) fun _ => ?_
  · exact keeps_ok ⟨.inl rfl, h⟩
  refine keeps_ite (fun _ => ?_) fun _ => ?_
  · exact keeps_ok ⟨.inl rfl, h⟩
  refine keeps_ite (fun _ => ?_) fun _ => ?_
  · exact keeps_ok ⟨.inr ⟨_, rfl⟩, h⟩
  refine keeps_ite (fun _ => ?_) fun _ => ?_
  · exact keeps_ok ⟨.inr ⟨_, rfl⟩, h⟩
  refine keeps_ite (fun _ => ?_) fun _ => ?_
  · exact keeps_ok ⟨hminus, h⟩
  refine keeps_ite (fun h0 => ?_) fun _ => ?_
  · exact keeps_ok ⟨hzero h0, h⟩
  refine keeps_ite (fun hdigit => ?_) fun _ => keeps_error _
  exact keeps_ok ⟨hdigits .digits hdigit, h⟩

theorem stepValue_checked {first : Bool} {c : Char} (h : Stacked stack) :
    Checked (stepValue ⟨nesting, true⟩ first stack c) (stepValue ⟨nesting, false⟩ first stack c) := by
  apply checked_same
  unfold stepValue
  split
  · exact keeps_ok ⟨trivial, h⟩
  split
  · cases stack with
    | nil => exact keeps_error _
    | cons frame rest =>
      cases frame with
      | object members key => exact keeps_error _
      | array items =>
        cases items with
        | cons v items => exact keeps_error _
        | nil => exact keeps_ok ⟨rfl, h.tail⟩
  · exact startValue_keeps true h

theorem stepKey_keeps {first : Bool} {c : Char} (h : Stacked stack) :
    Keeps (stepKey first stack c) := by
  unfold stepKey
  split
  · exact keeps_ok ⟨trivial, h⟩
  split
  · exact quoted_keeps h
  split
  · cases stack with
    | nil => exact keeps_error _
    | cons frame rest =>
      cases frame with
      | array items => exact keeps_error _
      | object members key =>
        cases members with
        | cons m members => exact keeps_error _
        | nil =>
          cases key with
          | some key => exact keeps_error _
          | none => exact keeps_ok ⟨by simp [Mode.Orderly, orderly, membersOrderly], h.tail⟩
  · exact keeps_error _

theorem stepColon_keeps {c : Char} (h : Stacked stack) : Keeps (stepColon stack c) := by
  unfold stepColon
  split
  · exact keeps_ok ⟨trivial, h⟩
  split
  · exact keeps_ok ⟨trivial, h⟩
  · exact keeps_error _

theorem endObject_checked {members : List (PyStr × PyJson)}
    (hmembers : ∀ m ∈ members, orderly m.2 = true) (h : Stacked stack) :
    Checked (endObject ⟨nesting, true⟩ members stack) (endObject ⟨nesting, false⟩ members stack) := by
  have hplain : endObject ⟨nesting, false⟩ members stack = .ok (.done (.obj members), stack) := rfl
  rw [hplain]
  unfold endObject
  split
  · exact ⟨keeps_error _, fun state' hr => by cases hr⟩
  · rename_i hnodup
    refine checked_same (keeps_ok ⟨?_, h⟩)
    have hkeys : (members.map Prod.fst).Nodup := by simpa using hnodup
    simp [Mode.Orderly, orderly, hkeys, membersOrderly_iff.mpr hmembers]

theorem stepDone_checked {v : PyJson} {c : Char} (hv : orderly v = true) (h : Stacked stack) :
    Checked (stepDone ⟨nesting, true⟩ v stack c) (stepDone ⟨nesting, false⟩ v stack c) := by
  unfold stepDone
  split
  · exact checked_same (keeps_ok ⟨hv, h⟩)
  cases stack with
  | nil => exact checked_same (keeps_error _)
  | cons frame rest =>
    cases frame with
    | array items =>
      have hitems : Frame.Orderly (.array (v :: items)) := by
        intro w hw
        rcases List.mem_cons.mp hw with rfl | hw
        · exact hv
        · exact h (.array items) (by simp) w hw
      apply checked_same
      simp only
      split
      · exact keeps_ok ⟨trivial, h.tail.cons hitems⟩
      split
      · refine keeps_ok ⟨?_, h.tail⟩
        exact allOrderly_iff.mpr fun w hw => hitems w (List.mem_reverse.mp hw)
      · exact keeps_error _
    | object members key =>
      cases key with
      | none => exact checked_same (keeps_error _)
      | some key =>
        have hmembers : Frame.Orderly (.object ((key, v) :: members) none) := by
          intro m hm
          rcases List.mem_cons.mp hm with rfl | hm
          · exact hv
          · exact h (.object members (some key)) (by simp) m hm
        simp only
        split
        · exact checked_same (keeps_ok ⟨trivial, h.tail.cons hmembers⟩)
        split
        · exact endObject_checked (fun m hm => hmembers m (List.mem_reverse.mp hm)) h.tail
        · exact checked_same (keeps_error _)

theorem next_digits {phase next : Phase} {c : Char} (h : phase.next c = some next)
    (hnext : next = .zero ∨ next = .digits) : isDigit c = true := by
  have hzero : isDigit '0' = true := by decide
  unfold Phase.next at h
  cases phase <;> grind

theorem stepNumber_checked {n : Number} {c : Char} (hn : ∀ d ∈ n.digits, isDigit d = true)
    (h : Stacked stack) :
    Checked (stepNumber ⟨nesting, true⟩ n stack c) (stepNumber ⟨nesting, false⟩ n stack c) := by
  unfold stepNumber
  split
  · exact checked_same (keeps_ok ⟨.inr ⟨_, rfl⟩, h⟩)
  cases hnext : n.phase.next c with
  | some phase =>
    refine checked_same (keeps_ok ⟨?_, h⟩)
    intro d hd
    simp only [Number.add] at hd
    split at hd
    · rename_i hphase
      rcases List.mem_cons.mp hd with rfl | hd
      · exact next_digits hnext hphase
      · exact hn d hd
    · exact hn d hd
  | none =>
    cases hvalue : n.value with
    | error f => exact checked_same (keeps_error f)
    | ok v => exact stepDone_checked (value_orderly hn hvalue) h

theorem stepWord_checked {rest name : List Char} {v : PyJson} {c : Char}
    (hv : orderly v = true ∨ ∃ name, v = .constant name) (h : Stacked stack) :
    Checked (stepWord ⟨nesting, true⟩ rest name v stack c)
      (stepWord ⟨nesting, false⟩ rest name v stack c) := by
  unfold stepWord
  cases rest with
  | nil => exact checked_same (keeps_error _)
  | cons d rest =>
    simp only
    split
    · split
      · rcases hv with hv | ⟨name, rfl⟩
        · have hword : endWord ⟨nesting, true⟩ v stack = .ok (.done v, stack) := by
            cases v <;> first | rfl | cases hv
          rw [hword]
          exact checked_same (keeps_ok ⟨hv, h⟩)
        · exact ⟨keeps_error _, fun state' hr => by cases hr⟩
      · exact checked_same (keeps_ok ⟨hv, h⟩)
    · exact checked_same (keeps_error _)

variable (nesting) in
theorem step_checked {state : State} (c : CodePoint) (h : Sound state) :
    Checked (step ⟨nesting, true⟩ state c) (step ⟨nesting, false⟩ state c) := by
  obtain ⟨mode, stack⟩ := state
  obtain ⟨hmode, hstack⟩ := h
  have hstack : Stacked stack := hstack
  cases mode with
  | quoted isKey q => exact checked_same (stepQuoted_keeps hstack)
  | value first =>
    cases c with
    | char c => exact stepValue_checked hstack
    | surrogate offset => exact checked_same (keeps_error _)
  | key first =>
    cases c with
    | char c => exact checked_same (stepKey_keeps hstack)
    | surrogate offset => exact checked_same (keeps_error _)
  | colon =>
    cases c with
    | char c => exact checked_same (stepColon_keeps hstack)
    | surrogate offset => exact checked_same (keeps_error _)
  | word rest name v =>
    cases c with
    | char c => exact stepWord_checked hmode hstack
    | surrogate offset => exact checked_same (keeps_error _)
  | number n =>
    cases c with
    | char c => exact stepNumber_checked hmode hstack
    | surrogate offset =>
      apply checked_same
      change Keeps (n.value.bind fun _ => .error .malformed)
      cases n.value <;> exact keeps_error _
  | done v =>
    cases c with
    | char c => exact stepDone_checked hmode hstack
    | surrogate offset => exact checked_same (keeps_error _)

theorem finish_sound {state : State} (h : Sound state) {v : PyJson} (hv : finish state = .ok v) :
    orderly v = true := by
  obtain ⟨mode, stack⟩ := state
  obtain ⟨hmode, -⟩ := h
  cases mode with
  | done w =>
    cases stack with
    | nil =>
      cases hv
      exact hmode
    | cons frame stack => cases hv
  | number n =>
    cases stack with
    | nil => exact value_orderly hmode hv
    | cons frame stack =>
      obtain ⟨w, -, hv⟩ := Relational.bind_eq_ok.mp hv
      cases hv
  | value | key | colon | word | quoted => cases stack <;> cases hv

theorem feed_checked {text : PyStr} {state : State} (h : Sound state) {v : PyJson}
    (hv : feed ⟨nesting, true⟩ state text = .ok v) :
    feed ⟨nesting, false⟩ state text = .ok v ∧ orderly v = true := by
  induction text generalizing state with
  | nil => exact ⟨hv, finish_sound h hv⟩
  | cons c rest ih =>
    obtain ⟨state', hstep, hv⟩ := Relational.bind_eq_ok.mp hv
    obtain ⟨hkeeps, hplain⟩ := step_checked nesting c h
    obtain ⟨hfeed, horderly⟩ := ih (hkeeps state' hstep) hv
    refine ⟨?_, horderly⟩
    rw [feed, hplain state' hstep]
    exact hfeed

end Sound

/-- What the hooks let pass is orderly, and is what the same text is read as without them. -/
theorem loads_checked {nesting : Nat} {text : PyStr} {v : PyJson}
    (h : loads ⟨nesting, true⟩ text = .ok v) :
    loads ⟨nesting, false⟩ text = .ok v ∧ orderly v = true :=
  have hstart : Sound (.value false, []) := ⟨trivial, fun frame hf => by cases hf⟩
  feed_checked hstart h

end JsonReader
