import Mathlib.Logic.Function.Basic
import FrameNest.Backups.Surroundings

/-! Restore readiness and off-device readiness: the attempts that move the operator status, any of
which can fail or be killed at any point, and what is derived from the status. -/
namespace FrameNest.Backups

section Records

/-- The operations that number their attempts. -/
inductive AttemptKind where
  | runScheduled | runOffdevice
deriving DecidableEq

/-- The values of `current_operation`. -/
inductive CurrentOperation where
  | attempt (kind : AttemptKind)
  | verifyRestore
deriving DecidableEq

/- Times are whole seconds; their texts have one length and are ordered as they are. -/
structure AttemptRecord where
  startedAtUtc : Option Int
  completedAtUtc : Option Int
  state : AttemptState
  attemptSeq : Option Nat
deriving DecidableEq

structure SuccessRecord where
  completedAtUtc : Int
  attemptSeq : Option Nat
deriving DecidableEq

/-- What the status holds of one kind of attempts. -/
structure Track where
  attemptSeq : Nat
  last : Option AttemptRecord
  success : Option SuccessRecord

structure OperatorStatus where
  currentOperation : Option CurrentOperation
  track : AttemptKind → Track

/- `_allocate_scheduled_attempt_seq` and `_allocate_offdevice_attempt_seq`. -/
def Track.allocate (t : Track) : Nat :=
  max t.attemptSeq (max ((t.last.bind (·.attemptSeq)).getD 0)
    ((t.success.bind (·.attemptSeq)).getD 0)) + 1

/- The texts of `completed_at_utc` or `started_at_utc`. -/
def AttemptRecord.at? (attempt : AttemptRecord) : Option Int :=
  attempt.completedAtUtc <|> attempt.startedAtUtc

def attemptAfterSuccess (attempt : AttemptRecord) (success : SuccessRecord) : Bool :=
  match attempt.attemptSeq, success.attemptSeq with
  | some a, some b => b < a
  | some _, none => true
  | none, some _ => false
  | none, none => attempt.at?.all (success.completedAtUtc < ·)

end Records

section Readings

/-- Both kinds of readiness; only the off-device one can be disabled or unavailable. -/
inductive Readiness where
  | busy | disabled | unavailable | neverVerified | failed | stale | ready
deriving DecidableEq

/- `timedelta(hours=48)`, in microseconds as `now` is. -/
def staleAfter : Int := 48 * 3600 * 1000000

def failedLast (t : Track) (counts : AttemptRecord → Bool) : Bool :=
  t.last.any fun attempt => attempt.state = .failed && counts attempt

/-- What both functions end with; they differ in which failures come after a success. -/
def judged (t : Track) (after : AttemptRecord → SuccessRecord → Bool) (now : Int) : Readiness :=
  match t.success with
  | none => if failedLast t fun _ => true then .failed else .neverVerified
  | some success =>
    if failedLast t (after · success) then .failed
    else if now - success.completedAtUtc * 1000000 > staleAfter then .stale else .ready

def deriveRestoreReadiness (status : OperatorStatus) (now : Int) (lockHeldElsewhere : Bool) :
    Readiness :=
  if lockHeldElsewhere || status.currentOperation.isSome then .busy
  else judged (status.track .runScheduled) attemptAfterSuccess now

/- By the times first and then by the numbers. -/
def offdeviceAfterSuccess (attempt : AttemptRecord) (success : SuccessRecord) : Bool :=
  attempt.at?.any (success.completedAtUtc < ·) ||
    attempt.attemptSeq.any fun a => success.attemptSeq.any (· < a)

def deriveOffdeviceReadiness (configured : Bool) (status : OperatorStatus) (healthy : Bool)
    (now : Int) (lockHeldElsewhere : Bool) : Readiness :=
  if !configured then .disabled
  else if lockHeldElsewhere || status.currentOperation.isSome then .busy
  else if !healthy then .unavailable
  else judged (status.track .runOffdevice) offdeviceAfterSuccess now

/- The two readings of `read_operator_status`, which probes the lock after it loaded the status. -/
def readRestoreReadiness (status : OperatorStatus) (now : Int) (lockBusy : Bool) : Readiness :=
  if status.currentOperation.isSome then .busy
  else deriveRestoreReadiness status now (lockBusy && status.currentOperation.isNone)

def readOffdeviceReadiness (configured : Bool) (status : OperatorStatus) (healthy : Bool)
    (now : Int) (lockBusy : Bool) : Readiness :=
  deriveOffdeviceReadiness configured status healthy now
    (lockBusy && status.currentOperation.isNone)

end Readings

section Writes

namespace OperatorStatus
variable (status : OperatorStatus) (kind : AttemptKind) (seq : Nat) (clock : Int)

def marked (mark : Option CurrentOperation) : OperatorStatus :=
  { status with currentOperation := mark }

def set (t : Track) : OperatorStatus :=
  { status with track := Function.update status.track kind t }

/- The first status of an attempt. Only a scheduled one writes its counter here. -/
def begin : OperatorStatus :=
  let t := status.track kind
  (status.marked (some (.attempt kind))).set kind
    { t with
      attemptSeq := if kind = .runScheduled then seq else t.attemptSeq
      last := some ⟨some clock, none, .running, some seq⟩ }

/- The status of a success. Only an off-device one clears `current_operation` with it. -/
def recordSuccess : OperatorStatus :=
  let t := status.track kind
  (status.marked (if kind = .runOffdevice then none else status.currentOperation)).set kind
    { attemptSeq := seq
      last := some ⟨t.last.bind (·.startedAtUtc), some clock, .succeeded, some seq⟩
      success := some ⟨clock, some seq⟩ }

/- `_record_scheduled_failure` and `_record_offdevice_failure`. -/
def recordFailure : OperatorStatus :=
  let t := status.track kind
  (status.marked none).set kind
    { t with
      attemptSeq := if 0 < seq then max t.attemptSeq seq else t.attemptSeq
      last := some ⟨t.last.bind (·.startedAtUtc), some clock, .failed, some seq⟩ }

/- `finally`, whose write may fail. -/
def clear (mark : CurrentOperation) (written : Bool) : OperatorStatus :=
  if status.currentOperation = some mark && written then status.marked none else status

end OperatorStatus
end Writes

section Moves

/-- Where an attempt stands. -/
inductive Phase where
  /- its first status is written, the event after it is not -/
  | starting
  | working
  /- its success is written, the rest of the body is not done -/
  | recorded
  /- an exception is to be recorded, after the success was written or not -/
  | failing (recorded : Bool)
  /- before `finally` -/
  | closing
deriving DecidableEq

/-- The process that holds the operation lock. -/
inductive Holder where
  | attempt (kind : AttemptKind) (seq : Nat) (clock : Int) (phase : Phase)
  | verifying
deriving DecidableEq

/-- The numbers of the attempts of one kind, the newest first. -/
structure History where
  started : List Nat
  failed : List Nat
  succeeded : List Nat

/-- The operator state, with the attempts so far. -/
structure Operations where
  status : OperatorStatus
  holder : Option Holder
  history : AttemptKind → History

namespace Operations

/- `_empty_status`. -/
def initial : Operations :=
  ⟨⟨none, fun _ => ⟨0, none, none⟩⟩, none, fun _ => ⟨[], [], []⟩⟩

variable (s : Operations) (kind : AttemptKind) (seq : Nat) (clock : Int)

def stands (phase : Phase) : Operations := { s with holder := some (.attempt kind seq clock phase) }

def released : Operations := { s with holder := none }

def wrote (status : OperatorStatus) : Operations := { s with status }

def notes (h : History) : Operations := { s with history := Function.update s.history kind h }

def starts : Operations :=
  s.notes kind { s.history kind with started := seq :: (s.history kind).started }

def fails : Operations :=
  s.notes kind { s.history kind with failed := seq :: (s.history kind).failed }

def succeeds : Operations :=
  s.notes kind { s.history kind with succeeded := seq :: (s.history kind).succeeded }

end Operations

inductive Move where
  | start (kind : AttemptKind) (clock : Int) (written : Bool)
  | verify
  | raiseEarly
  | proceed
  | succeed
  | finish
  | leave
  | raise
  | note (written : Bool)
  | close (written : Bool)
  | kill
deriving DecidableEq

/-- One move of the process that holds the lock, or of one that takes it. A write that raises
after it replaced the file is a write and an exception. -/
inductive Step : Operations → Move → Operations → Prop
  | start (s) {kind seq} (clock) (free : s.holder = none)
      (fresh : (s.status.track kind).allocate = seq) : Step s (.start kind clock true)
        (((s.wrote (s.status.begin kind seq clock)).starts kind seq).stands kind seq clock .starting)
  | startUnwritten (s) {kind seq} (clock) (free : s.holder = none)
      (fresh : (s.status.track kind).allocate = seq) : Step s (.start kind clock false)
        ((s.starts kind seq).fails kind seq)
  | verify (s) (free : s.holder = none) : Step s .verify
      { s.wrote (s.status.marked (some .verifyRestore)) with holder := some .verifying }
  /- The event after the first status is not written: that is outside of `try`. -/
  | raiseEarly (s) {kind seq clock} (h : s.holder = some (.attempt kind seq clock .starting)) :
      Step s .raiseEarly (s.fails kind seq).released
  | proceed (s) {kind seq clock} (h : s.holder = some (.attempt kind seq clock .starting)) :
      Step s .proceed (s.stands kind seq clock .working)
  | succeed (s) {kind seq clock} (h : s.holder = some (.attempt kind seq clock .working)) :
      Step s .succeed (((s.wrote (s.status.recordSuccess kind seq clock)).succeeds kind seq).stands
        kind seq clock .recorded)
  /- The last status of the body of a scheduled run. -/
  | finish (s) {seq clock} (h : s.holder = some (.attempt .runScheduled seq clock .recorded)) :
      Step s .finish (s.wrote (s.status.marked none))
  | leave (s) {kind seq clock} (h : s.holder = some (.attempt kind seq clock .recorded))
      (done : s.status.currentOperation = none) : Step s .leave (s.stands kind seq clock .closing)
  | raise (s) {kind seq clock phase} (h : s.holder = some (.attempt kind seq clock phase))
      (body : phase = .working ∨ phase = .recorded) : Step s .raise
        ((s.fails kind seq).stands kind seq clock (.failing (phase = .recorded)))
  | note (s) {kind seq clock recorded}
      (h : s.holder = some (.attempt kind seq clock (.failing recorded))) : Step s (.note true)
        ((s.wrote (s.status.recordFailure kind seq clock)).stands kind seq clock .closing)
  | noteUnwritten (s) {kind seq clock recorded}
      (h : s.holder = some (.attempt kind seq clock (.failing recorded))) :
      Step s (.note false) (s.stands kind seq clock .closing)
  | close (s) {kind seq clock} (written)
      (h : s.holder = some (.attempt kind seq clock .closing)) : Step s (.close written)
        (s.wrote (s.status.clear (.attempt kind) written)).released
  | closeVerify (s) (written) (h : s.holder = some .verifying) : Step s (.close written)
      (s.wrote (s.status.clear .verifyRestore written)).released
  | kill (s) {holder} (h : s.holder = some holder) : Step s .kill s.released

/-- The states that moves within `allowed` lead to. -/
inductive Reached (allowed : Operations → Move → Prop) : Operations → Prop
  | initial : Reached allowed .initial
  | step {s t : Operations} {m : Move} (h : Reached allowed s) (hm : allowed s m)
      (hstep : Step s m t) : Reached allowed t

end Moves

section Truth

def Operations.recordedSeq (s : Operations) (kind : AttemptKind) : Option Nat :=
  (s.status.track kind).success.bind (·.attemptSeq)

/-- What a reading says of the attempts of one kind is so. -/
structure Told (s : Operations) (kind : AttemptKind) (lockBusy : Bool) (r : Readiness) :
    Prop where
  ready : r = .ready ∨ r = .stale →
    ∃ m, s.recordedSeq kind = some m ∧ ∀ n ∈ (s.history kind).failed, n ≤ m
  failed : r = .failed → (s.history kind).succeeded = [] ∨
    ∃ m, s.recordedSeq kind = some m ∧ ∃ n ∈ (s.history kind).failed, m < n
  busy : r = .busy → s.holder.isSome = true ∨ lockBusy = true

/-- The numbers of the attempts increase and both readings tell the truth, at any time and with
any answer of the probe. -/
def Truthful (s : Operations) : Prop :=
  (∀ kind, (s.history kind).started.Pairwise (· > ·)) ∧ ∀ now lockBusy,
    Told s .runScheduled lockBusy (readRestoreReadiness s.status now lockBusy) ∧
      ∀ configured healthy, Told s .runOffdevice lockBusy
        (readOffdeviceReadiness configured s.status healthy now lockBusy)

/-- The process goes on, and what it has to write is written. -/
def Orderly (s : Operations) : Move → Prop
  | .start _ _ written => written = true
  | .raiseEarly => False
  | .note written =>
    written = true ∨ ∃ kind seq clock, s.holder = some (.attempt kind seq clock (.failing true))
  | .close written => written = true ∨ s.status.currentOperation = none
  | .kill => s.status.currentOperation = none
  | _ => True

end Truth

section Invariant

/-- The attempts of a kind are over: a failure after the recorded success is the last attempt. -/
structure Settled (t : Track) (h : History) : Prop where
  none_succeeded : t.success = none → h.succeeded = []
  numbered : ∀ success, t.success = some success → ∃ m, success.attemptSeq = some m ∧
    ((∃ n ∈ h.failed, m < n) → ∃ last n, t.last = some last ∧ last.state = .failed ∧
      last.attemptSeq = some n ∧ m < n)
  last_failed : ∀ last, t.last = some last → last.state = .failed →
    ∃ n ∈ h.failed, last.attemptSeq = some n ∧ ∀ success, t.success = some success →
      ∀ m, success.attemptSeq = some m → m < n ∨
        m = n ∧ last.at? = some success.completedAtUtc

/-- The attempt `seq` has neither succeeded nor is its failure written. -/
structure Underway (t : Track) (h : History) (seq : Nat) : Prop where
  none_succeeded : t.success = none → h.succeeded = []
  earlier : ∀ success, t.success = some success → ∃ m, success.attemptSeq = some m ∧ m < seq

/-- The success of the attempt `seq` is written. -/
structure Succeeded (t : Track) (seq : Nat) (clock : Int) : Prop where
  success : t.success = some ⟨clock, some seq⟩
  last : ∀ last, t.last = some last → last.state ≠ .failed

/-- What holds of a kind whose numbers are in use. -/
structure Numbers (t : Track) (h : History) : Prop where
  descending : h.started.Pairwise (· > ·)
  allocated : ∀ n ∈ h.started, n < t.allocate
  failed_started : ∀ n ∈ h.failed, n ∈ h.started

/-- The attempt `seq` is the newest one, and the last one recorded. -/
structure Newest (t : Track) (h : History) (seq : Nat) : Prop where
  started_le : ∀ n ∈ h.started, n ≤ seq
  started_mem : seq ∈ h.started
  last : ∃ last, t.last = some last ∧ last.attemptSeq = some seq

/-- What holds where an attempt stands. -/
def Phase.Fits (mark : Option CurrentOperation) (t : Track) (h : History) (seq : Nat)
    (clock : Int) : Phase → Prop
  | .starting | .working => mark.isSome = true ∧ Underway t h seq
  | .failing false => (mark.isSome = true ∧ Underway t h seq) ∧ seq ∈ h.failed
  | .recorded => Succeeded t seq clock
  | .failing true => Succeeded t seq clock ∧ seq ∈ h.failed
  | .closing => Settled t h

/-- The attempt of a kind that holds the lock. -/
def Operations.standing (s : Operations) (kind : AttemptKind) : Option (Nat × Int × Phase) :=
  match s.holder with
  | some (.attempt own seq clock phase) => if own = kind then some (seq, clock, phase) else none
  | _ => none

structure KindInv (mark : Option CurrentOperation) (t : Track) (h : History)
    (standing : Option (Nat × Int × Phase)) : Prop where
  numbers : Numbers t h
  settled : standing = none → Settled t h
  stands : ∀ seq clock phase, standing = some (seq, clock, phase) →
    Newest t h seq ∧ phase.Fits mark t h seq clock

def Holder.mark : Holder → CurrentOperation
  | .attempt kind .. => .attempt kind
  | .verifying => .verifyRestore

structure Inv (s : Operations) : Prop where
  marked : ∀ mark, s.status.currentOperation = some mark → s.holder.map Holder.mark = some mark
  kinds : ∀ kind, KindInv s.status.currentOperation (s.status.track kind) (s.history kind)
    (s.standing kind)

end Invariant

section Readings
variable {s : Operations} {t : Track} {h : History} {seq : Nat} {clock : Int}

theorem Succeeded.settled (hs : Succeeded t seq clock) (hle : ∀ n ∈ h.failed, n ≤ seq) :
    Settled t h where
  none_succeeded hnone := by simp [hs.success] at hnone
  numbered success hsuccess := by
    rw [hs.success, Option.some.injEq] at hsuccess
    subst hsuccess
    refine ⟨seq, rfl, ?_⟩
    rintro ⟨n, hn, hlt⟩
    have hn := hle n hn
    omega
  last_failed last hlast hstate := absurd hstate (hs.last last hlast)

theorem failedLast_iff {counts : AttemptRecord → Bool} : failedLast t counts = true ↔
    ∃ last, t.last = some last ∧ last.state = .failed ∧ counts last = true := by
  cases hlast : t.last <;> simp [failedLast, hlast]

/-- An order of failures and successes that follows the numbers where the times say nothing. -/
def FollowsSeq (after : AttemptRecord → SuccessRecord → Bool) : Prop :=
  ∀ last success m n, last.attemptSeq = some n → success.attemptSeq = some m →
    (m < n ∨ m = n ∧ last.at? = some success.completedAtUtc) →
      (after last success = true ↔ m < n)

theorem followsSeq_restore : FollowsSeq attemptAfterSuccess := by
  intro last success m n hn hm _
  simp [attemptAfterSuccess, hn, hm]

theorem followsSeq_offdevice : FollowsSeq offdeviceAfterSuccess := by
  intro last success m n hn hm hcase
  obtain hlt | ⟨rfl, hat⟩ := hcase
  · simp [offdeviceAfterSuccess, hn, hm, hlt]
  · simp [offdeviceAfterSuccess, hn, hm, hat]

/-- Where attempts are settled, what is judged of them is so. -/
theorem told_judged {kind : AttemptKind} {lockBusy : Bool} (now : Int)
    {after : AttemptRecord → SuccessRecord → Bool} (hafter : FollowsSeq after)
    (hs : Settled (s.status.track kind) (s.history kind)) :
    Told s kind lockBusy (judged (s.status.track kind) after now) := by
  unfold judged
  cases hsuccess : (s.status.track kind).success with
  | none =>
    have hnone := hs.none_succeeded hsuccess
    cases failedLast (s.status.track kind) fun _ => true <;> constructor <;> simp [hnone]
  | some success =>
    obtain ⟨m, hm, hlater⟩ := hs.numbered success hsuccess
    have hrecorded : s.recordedSeq kind = some m := by
      simp [Operations.recordedSeq, hsuccess, hm]
    have hiff : failedLast (s.status.track kind) (after · success) = true ↔
        ∃ n ∈ (s.history kind).failed, m < n := by
      rw [failedLast_iff]
      constructor
      · rintro ⟨last, hlast, hstate, hcounts⟩
        obtain ⟨n, hn, hseq, hcase⟩ := hs.last_failed last hlast hstate
        exact ⟨n, hn, (hafter last success m n hseq hm (hcase success hsuccess m hm)).mp hcounts⟩
      · intro hexists
        obtain ⟨last, n, hlast, hstate, hseq, hlt⟩ := hlater hexists
        exact ⟨last, hlast, hstate, (hafter last success m n hseq hm (.inl hlt)).mpr hlt⟩
    by_cases hlast : failedLast (s.status.track kind) (after · success) = true
    · constructor
      · simp [hlast]
      · intro _
        exact .inr ⟨m, hrecorded, hiff.mp hlast⟩
      · simp [hlast]
    · have hle : ∀ n ∈ (s.history kind).failed, n ≤ m := by
        intro n hn
        by_contra hlt
        exact hlast (hiff.mpr ⟨n, hn, by omega⟩)
      constructor
      · intro _
        exact ⟨m, hrecorded, hle⟩
      · simp only [hlast, Bool.false_eq_true, if_false]
        split <;> simp
      · simp only [hlast, Bool.false_eq_true, if_false]
        split <;> simp

theorem KindInv.failed_le {mark : Option CurrentOperation} {standing : Option (Nat × Int × Phase)}
    (hk : KindInv mark t h standing) (hnew : Newest t h seq) : ∀ n ∈ h.failed, n ≤ seq :=
  fun n hn => hnew.started_le n (hk.numbers.failed_started n hn)

/-- Where no operation is marked, every kind is settled. -/
theorem Inv.settled (hs : Inv s) (hnone : s.status.currentOperation = none) (kind : AttemptKind) :
    Settled (s.status.track kind) (s.history kind) := by
  have hkind := hs.kinds kind
  cases hstanding : s.standing kind with
  | none => exact hkind.settled hstanding
  | some standing =>
    obtain ⟨seq, clock, phase⟩ := standing
    obtain ⟨hnew, hfits⟩ := hkind.stands seq clock phase hstanding
    rw [hnone] at hfits
    cases phase with
    | starting | working => exact absurd hfits.1 (by simp)
    | recorded => exact Succeeded.settled hfits (hkind.failed_le hnew)
    | failing recorded =>
      cases recorded with
      | false => exact absurd hfits.1.1 (by simp)
      | true => exact hfits.1.settled (hkind.failed_le hnew)
    | closing => exact hfits

/-- What both readings come to, of a destination that is well or not. -/
theorem Inv.told (hs : Inv s) (kind : AttemptKind) (now : Int) (lockBusy healthy : Bool)
    {after : AttemptRecord → SuccessRecord → Bool} (hafter : FollowsSeq after) :
    Told s kind lockBusy (if lockBusy || s.status.currentOperation.isSome then .busy
      else if !healthy then .unavailable else judged (s.status.track kind) after now) := by
  cases hmark : s.status.currentOperation with
  | some mark =>
    have hholder : s.holder.isSome = true := by
      have hsome := hs.marked mark hmark
      cases hholder : s.holder <;> simp_all
    constructor <;> simp [hholder]
  | none =>
    cases lockBusy with
    | true => constructor <;> simp
    | false =>
      cases healthy with
      | false => constructor <;> simp
      | true => simpa using told_judged now hafter (hs.settled hmark kind)

theorem Inv.truthful (hs : Inv s) : Truthful s := by
  refine ⟨fun kind => (hs.kinds kind).numbers.descending, fun now lockBusy => ⟨?_, ?_⟩⟩
  · have htold := hs.told .runScheduled now lockBusy true followsSeq_restore
    cases hmark : s.status.currentOperation <;>
      simpa [readRestoreReadiness, deriveRestoreReadiness, hmark] using htold
  · intro configured healthy
    have htold := hs.told .runOffdevice now lockBusy healthy followsSeq_offdevice
    cases configured with
    | false => constructor <;> simp [readOffdeviceReadiness, deriveOffdeviceReadiness]
    | true =>
      cases hmark : s.status.currentOperation <;>
        simpa [readOffdeviceReadiness, deriveOffdeviceReadiness, hmark] using htold

end Readings

section Keeping
variable {s u : Operations} {kind : AttemptKind} {t t' : Track} {h h' : History} {seq : Nat}
  {clock : Int} {mark mark' : Option CurrentOperation} {phase : Phase}
  {standing : Option (Nat × Int × Phase)}

theorem Track.lt_allocate (hlast : ∃ last, t.last = some last ∧ last.attemptSeq = some seq) :
    seq < t.allocate := by
  obtain ⟨last, hlast, hseq⟩ := hlast
  simp only [Track.allocate, hlast, hseq, Option.bind_some, Option.getD_some]
  omega

theorem Track.success_lt_allocate {success : SuccessRecord} {m : Nat}
    (hsuccess : t.success = some success) (hm : success.attemptSeq = some m) : m < t.allocate := by
  simp only [Track.allocate, hsuccess, hm, Option.bind_some, Option.getD_some]
  omega

/-- A kind starts an attempt: its number is above all others. -/
theorem KindInv.begin (hk : KindInv mark t h none) (hfresh : t.allocate = seq)
    (hsuccess : t'.success = t.success)
    (hlast : ∃ last, t'.last = some last ∧ last.attemptSeq = some seq) (hmark : mark'.isSome = true) :
    KindInv mark' t' { h with started := seq :: h.started } (some (seq, clock, .starting)) := by
  have hbelow : ∀ n ∈ h.started, n < seq := fun n hn => hfresh ▸ hk.numbers.allocated n hn
  have hle : ∀ n ∈ seq :: h.started, n ≤ seq := by
    intro n hn
    obtain rfl | hn := List.mem_cons.mp hn
    · exact le_rfl
    · exact (hbelow n hn).le
  have hsettled := hk.settled rfl
  constructor
  · constructor
    · exact List.pairwise_cons.mpr ⟨hbelow, hk.numbers.descending⟩
    · exact fun n hn => (hle n hn).trans_lt (Track.lt_allocate hlast)
    · exact fun n hn => List.mem_cons_of_mem _ (hk.numbers.failed_started n hn)
  · simp
  · intro seq' clock' phase' heq
    cases heq
    refine ⟨⟨hle, List.mem_cons_self, hlast⟩, hmark, ?_, ?_⟩
    · rw [hsuccess]
      exact hsettled.none_succeeded
    · intro success hnow
      rw [hsuccess] at hnow
      obtain ⟨m, hm, -⟩ := hsettled.numbered success hnow
      exact ⟨m, hm, hfresh ▸ Track.success_lt_allocate hnow hm⟩

/-- The newest attempt moves on. -/
theorem KindInv.go_on (hk : KindInv mark t h standing) (hnew : Newest t h seq)
    (hstarted : h'.started = h.started) (hfailed : ∀ n ∈ h'.failed, n ∈ h.failed ∨ n = seq)
    (hlast : ∃ last, t'.last = some last ∧ last.attemptSeq = some seq)
    (hfits : phase.Fits mark' t' h' seq clock) :
    KindInv mark' t' h' (some (seq, clock, phase)) := by
  constructor
  · constructor
    · rw [hstarted]
      exact hk.numbers.descending
    · intro n hn
      rw [hstarted] at hn
      exact (hnew.started_le n hn).trans_lt (Track.lt_allocate hlast)
    · intro n hn
      rw [hstarted]
      obtain hn | rfl := hfailed n hn
      · exact hk.numbers.failed_started n hn
      · exact hnew.started_mem
  · simp
  · intro seq' clock' phase' heq
    cases heq
    refine ⟨⟨?_, ?_, hlast⟩, hfits⟩
    · rw [hstarted]
      exact hnew.started_le
    · rw [hstarted]
      exact hnew.started_mem

theorem KindInv.rests (hk : KindInv mark t h standing) (hsettled : Settled t h) :
    KindInv mark' t h none :=
  ⟨hk.numbers, fun _ => hsettled, by simp⟩

theorem standing_stands (s : Operations) (kind other : AttemptKind) (seq : Nat) (clock : Int)
    (phase : Phase) : (s.stands kind seq clock phase).standing other =
      if kind = other then some (seq, clock, phase) else none := rfl

/-- A move of one kind leaves the other as it was. -/
theorem Inv.own (hs : Inv s) (kind : AttemptKind)
    (hmark : u.status.currentOperation = none ∨ u.status.currentOperation = some (.attempt kind))
    (htrack : ∀ other, other ≠ kind → u.status.track other = s.status.track other)
    (hhistory : ∀ other, other ≠ kind → u.history other = s.history other)
    (hidle : ∀ other, other ≠ kind → s.standing other = none)
    (hown : KindInv u.status.currentOperation (u.status.track kind) (u.history kind)
      (some (seq, clock, phase))) : Inv (u.stands kind seq clock phase) := by
  constructor
  · intro mark hsome
    obtain hnone | hown := hmark
    · exact absurd (hnone.symm.trans hsome) (by simp)
    · have heq : some mark = some (.attempt kind) := hsome.symm.trans hown
      rw [heq]
      rfl
  · intro other
    rw [standing_stands]
    by_cases hother : other = kind
    · subst hother
      rw [if_pos rfl]
      exact hown
    · have hkind := hs.kinds other
      rw [hidle other hother] at hkind
      rw [if_neg (Ne.symm hother)]
      change KindInv u.status.currentOperation (u.status.track other) (u.history other) none
      rw [htrack other hother, hhistory other hother]
      exact hkind.rests (hkind.settled rfl)

/-- A move that ends where no attempt stands. -/
theorem Inv.rests (hs : Inv s) (hmark : ∀ mark, u.status.currentOperation = some mark →
      u.holder.map Holder.mark = some mark)
    (htrack : u.status.track = s.status.track) (hhistory : u.history = s.history)
    (hidle : ∀ kind, u.standing kind = none)
    (hsettled : ∀ kind, Settled (s.status.track kind) (s.history kind)) : Inv u := by
  refine ⟨hmark, fun kind => ?_⟩
  rw [htrack, hhistory, hidle kind]
  exact (hs.kinds kind).rests (hsettled kind)

theorem standing_of_holder (hholder : s.holder = some (.attempt kind seq clock phase)) :
    s.standing kind = some (seq, clock, phase) ∧ ∀ other, other ≠ kind → s.standing other = none := by
  constructor
  · simp [Operations.standing, hholder]
  · intro other hother
    simp [Operations.standing, hholder, Ne.symm hother]

theorem Underway.settled_of_failure (hs : Underway t h seq) (hfailed : seq ∈ h.failed)
    (hsuccess : t'.success = t.success) {last : AttemptRecord} (hlast : t'.last = some last)
    (hstate : last.state = .failed) (hseq : last.attemptSeq = some seq) : Settled t' h where
  none_succeeded hnone := hs.none_succeeded (hsuccess ▸ hnone)
  numbered success hnow := by
    obtain ⟨m, hm, hlt⟩ := hs.earlier success (hsuccess ▸ hnow)
    exact ⟨m, hm, fun _ => ⟨last, seq, hlast, hstate, hseq, hlt⟩⟩
  last_failed other hother _ := by
    obtain rfl : last = other := Option.some.inj (hlast.symm.trans hother)
    refine ⟨seq, hfailed, hseq, fun success hnow m hm => ?_⟩
    obtain ⟨m', hm', hlt⟩ := hs.earlier success (hsuccess ▸ hnow)
    obtain rfl : m' = m := Option.some.inj (hm'.symm.trans hm)
    exact .inl hlt

theorem Succeeded.settled_of_failure (hs : Succeeded t seq clock) (hfailed : seq ∈ h.failed)
    (hle : ∀ n ∈ h.failed, n ≤ seq) (hsuccess : t'.success = t.success) {last : AttemptRecord}
    (hlast : t'.last = some last) (hseq : last.attemptSeq = some seq)
    (hat : last.at? = some clock) : Settled t' h where
  none_succeeded hnone := by simp [hsuccess, hs.success] at hnone
  numbered success hnow := by
    rw [hsuccess, hs.success, Option.some.injEq] at hnow
    subst hnow
    refine ⟨seq, rfl, ?_⟩
    rintro ⟨n, hn, hlt⟩
    have hn := hle n hn
    omega
  last_failed other hother _ := by
    obtain rfl : last = other := Option.some.inj (hlast.symm.trans hother)
    refine ⟨seq, hfailed, hseq, fun success hnow m hm => .inr ?_⟩
    rw [hsuccess, hs.success, Option.some.injEq] at hnow
    subst hnow
    exact ⟨(Option.some.inj hm).symm, hat⟩

end Keeping

section Runs
variable {s u : Operations} {kind : AttemptKind} {seq : Nat} {clock : Int} {phase : Phase}

theorem Inv.standing_none (hs : Inv s) (hidle : ∀ kind, s.standing kind = none) (kind : AttemptKind) :
    Settled (s.status.track kind) (s.history kind) :=
  (hs.kinds kind).settled (hidle kind)

/-- What is known of the attempt that stands. -/
theorem Inv.stands (hs : Inv s) (hholder : s.holder = some (.attempt kind seq clock phase)) :
    Newest (s.status.track kind) (s.history kind) seq ∧
      phase.Fits s.status.currentOperation (s.status.track kind) (s.history kind) seq clock ∧
      (s.status.currentOperation = none ∨ s.status.currentOperation = some (.attempt kind)) := by
  obtain ⟨hnew, hfits⟩ := (hs.kinds kind).stands seq clock phase (standing_of_holder hholder).1
  refine ⟨hnew, hfits, ?_⟩
  cases hmark : s.status.currentOperation with
  | none => exact .inl rfl
  | some mark =>
    have hown := hs.marked mark hmark
    rw [hholder, Option.map_some] at hown
    exact .inr hown.symm

/-- The attempt that stands moves on and writes only what is its own. -/
theorem Inv.go_on (hs : Inv s) {phase' : Phase} {t' : Track} {h' : History}
    {mark' : Option CurrentOperation}
    (hholder : s.holder = some (.attempt kind seq clock phase))
    (hmark : u.status.currentOperation = mark') (hown : mark' = s.status.currentOperation ∨ mark' = none)
    (htrack : u.status.track = Function.update s.status.track kind t')
    (hhistory : u.history = Function.update s.history kind h')
    (hstarted : h'.started = (s.history kind).started)
    (hfailed : ∀ n ∈ h'.failed, n ∈ (s.history kind).failed ∨ n = seq)
    (hlast : ∃ last, t'.last = some last ∧ last.attemptSeq = some seq)
    (hfits : phase'.Fits mark' t' h' seq clock) : Inv (u.stands kind seq clock phase') := by
  obtain ⟨hnew, -, hstands⟩ := hs.stands hholder
  obtain ⟨-, hidle⟩ := standing_of_holder hholder
  apply hs.own kind
  · rw [hmark]
    obtain rfl | rfl := hown
    · exact hstands
    · exact .inl rfl
  · intro other hother
    rw [htrack, Function.update_of_ne hother]
  · intro other hother
    rw [hhistory, Function.update_of_ne hother]
  · exact hidle
  · rw [hmark, htrack, hhistory, Function.update_self, Function.update_self]
    exact (hs.kinds kind).go_on hnew hstarted hfailed hlast hfits

theorem clear_none {status : OperatorStatus} {mark : CurrentOperation} {written : Bool}
    (howned : status.currentOperation = none ∨ status.currentOperation = some mark)
    (hwritten : written = true ∨ status.currentOperation = none) :
    (status.clear mark written).currentOperation = none ∧
      (status.clear mark written).track = status.track := by
  unfold OperatorStatus.clear
  obtain hnone | hsome := howned
  · simp [hnone]
  · obtain hwritten | hnone := hwritten
    · simp [hsome, hwritten, OperatorStatus.marked]
    · simp [hnone]

theorem initial_inv : Inv .initial := by
  constructor
  · simp [Operations.initial]
  · intro kind
    have hsettled : Settled ⟨0, none, none⟩ ⟨[], [], []⟩ := by constructor <;> simp
    exact ⟨⟨List.Pairwise.nil, by simp [Operations.initial], by simp [Operations.initial]⟩,
      fun _ => hsettled, by simp [Operations.initial, Operations.standing]⟩

/-- An orderly move keeps the invariant. -/
theorem step_inv {m : Move} (hs : Inv s) (hm : Orderly s m) (hstep : Step s m u) : Inv u := by
  cases hstep with
  | @start kind seq clock free fresh =>
    have hidle : ∀ other, s.standing other = none := by simp [Operations.standing, free]
    have hkind := hs.kinds kind
    rw [hidle kind] at hkind
    apply hs.own kind (.inr rfl)
    · intro other hother
      exact Function.update_of_ne hother ..
    · intro other hother
      exact Function.update_of_ne hother ..
    · exact fun other _ => hidle other
    · change KindInv (some (.attempt kind)) _ (Function.update s.history kind _ kind) _
      rw [Function.update_self]
      apply hkind.begin fresh
      · simp [Operations.starts, Operations.notes, Operations.wrote, OperatorStatus.begin,
          OperatorStatus.set]
      · simp [Operations.starts, Operations.notes, Operations.wrote, OperatorStatus.begin,
          OperatorStatus.set]
      · rfl
  | startUnwritten => cases hm
  | verify free =>
    have hidle : ∀ kind, s.standing kind = none := by simp [Operations.standing, free]
    exact hs.rests (fun mark hmark => hmark) rfl rfl (fun _ => rfl) (hs.standing_none hidle)
  | raiseEarly => cases hm
  | proceed hholder =>
    obtain ⟨hnew, hfits, -⟩ := hs.stands hholder
    exact hs.go_on hholder rfl (.inl rfl) (Function.update_eq_self ..).symm
      (Function.update_eq_self ..).symm rfl (fun _ => .inl) hnew.last hfits
  | @succeed kind seq clock hholder =>
    refine hs.go_on hholder rfl ?_ rfl rfl rfl (fun _ => .inl) ⟨_, rfl, rfl⟩ ⟨rfl, ?_⟩
    · cases kind
      · exact .inl rfl
      · exact .inr rfl
    · simp
  | finish hholder =>
    obtain ⟨hnew, hfits, -⟩ := hs.stands hholder
    have hgone : Inv ((s.wrote (s.status.marked none)).stands .runScheduled _ _ .recorded) :=
      hs.go_on hholder rfl (.inr rfl) (Function.update_eq_self ..).symm
        (Function.update_eq_self ..).symm rfl (fun _ => .inl) hnew.last hfits
    simpa [Operations.stands, Operations.wrote, hholder] using hgone
  | @leave kind seq clock hholder done =>
    obtain ⟨hnew, hfits, -⟩ := hs.stands hholder
    exact hs.go_on hholder rfl (.inl rfl) (Function.update_eq_self ..).symm
      (Function.update_eq_self ..).symm rfl (fun _ => .inl) hnew.last (hs.settled done kind)
  | raise hholder body =>
    obtain ⟨hnew, hfits, -⟩ := hs.stands hholder
    refine hs.go_on hholder rfl (.inl rfl) (Function.update_eq_self ..).symm rfl rfl ?_
      hnew.last ?_
    · intro n hn
      exact (List.mem_cons.mp hn).symm
    · obtain rfl | rfl := body
      · exact ⟨⟨hfits.1, hfits.2.none_succeeded, hfits.2.earlier⟩, List.mem_cons_self⟩
      · exact ⟨hfits, List.mem_cons_self⟩
  | @note kind seq clock recorded hholder =>
    obtain ⟨hnew, hfits, -⟩ := hs.stands hholder
    refine hs.go_on hholder rfl (.inr rfl) rfl (Function.update_eq_self ..).symm rfl
      (fun _ => .inl) ⟨_, rfl, rfl⟩ ?_
    cases recorded with
    | false => exact hfits.1.2.settled_of_failure hfits.2 rfl rfl rfl rfl
    | true =>
      exact hfits.1.settled_of_failure hfits.2 ((hs.kinds kind).failed_le hnew) rfl rfl rfl rfl
  | @noteUnwritten kind seq clock recorded hholder =>
    obtain ⟨hnew, hfits, -⟩ := hs.stands hholder
    refine hs.go_on hholder rfl (.inl rfl) (Function.update_eq_self ..).symm
      (Function.update_eq_self ..).symm rfl (fun _ => .inl) hnew.last ?_
    obtain hm | ⟨kind', seq', clock', hm⟩ := hm
    · cases hm
    · rw [hholder] at hm
      cases hm
      exact hfits.1.settled ((hs.kinds kind).failed_le hnew)
  | @close kind seq clock written hholder =>
    obtain ⟨hnew, hfits, howned⟩ := hs.stands hholder
    obtain ⟨hnone, htrack⟩ := clear_none howned hm
    refine hs.rests ?_ htrack rfl (fun _ => rfl) fun other => ?_
    · intro mark hmark
      exact absurd (hnone.symm.trans hmark) (by simp)
    · by_cases hother : other = kind
      · subst hother
        exact hfits
      · exact (hs.kinds other).settled ((standing_of_holder hholder).2 other hother)
  | @closeVerify written hholder =>
    have hidle : ∀ kind, s.standing kind = none := by simp [Operations.standing, hholder]
    have howned : s.status.currentOperation = none ∨
        s.status.currentOperation = some .verifyRestore := by
      cases hmark : s.status.currentOperation with
      | none => exact .inl rfl
      | some mark =>
        have hown := hs.marked mark hmark
        rw [hholder, Option.map_some] at hown
        exact .inr hown.symm
    obtain ⟨hnone, htrack⟩ := clear_none howned hm
    refine hs.rests ?_ htrack rfl (fun _ => rfl) (hs.standing_none hidle)
    intro mark hmark
    exact absurd (hnone.symm.trans hmark) (by simp)
  | kill hholder =>
    refine hs.rests ?_ rfl rfl (fun _ => rfl) (hs.settled hm)
    intro mark hmark
    exact absurd (Eq.trans (Eq.symm hm) hmark) (by simp)

end Runs
end FrameNest.Backups
