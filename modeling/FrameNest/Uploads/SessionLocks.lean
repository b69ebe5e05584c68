import FrameNest.Concurrent.FairLock
import FrameNest.Uploads.Sessions
import Mathlib.Logic.Function.Basic
import Mathlib.Data.List.Count

/-! The locks of the upload sessions. Any number of tasks of one event loop take and give
back leases; each runs on its own from one suspension to the next. -/
namespace FrameNest.Uploads
open Concurrent

/- `_SessionLockEntry`. -/
structure SessionLockEntry where
  lock : FairLock Nat
  references : Int

/- Where a call of `lease` is: asleep in `acquire`, in its body, or done. -/
inductive LeasePhase where
  | waiting | holding | left
deriving DecidableEq

structure Lease where
  sessionId : UploadSessionId
  entry : Nat
  phase : LeasePhase
deriving DecidableEq

/-- The dictionary by session, the lock objects made so far, and the calls of `lease` in
the order they were made. -/
structure UploadSessionLockRegistry where
  locks : UploadSessionId → Option Nat
  entries : Nat → SessionLockEntry
  created : Nat
  leases : List Lease

inductive LeaseEvent where
  /-- A task enters a lease and runs to its first suspension. -/
  | enter (id : UploadSessionId)
  /-- The body ends: it returns, raises or is cancelled. -/
  | leave (call : Nat)
  /-- A task asleep in `acquire` is cancelled. -/
  | cancel (call : Nat)
  /-- A task asleep in `acquire` runs again. -/
  | resume (call : Nat)

namespace UploadSessionLockRegistry

def empty : UploadSessionLockRegistry where
  locks _ := none
  entries _ := ⟨.free, 0⟩
  created := 0
  leases := []

/- The entry of the session, made when there is none. -/
def entryFor (r : UploadSessionLockRegistry) (id : UploadSessionId) :
    Nat × UploadSessionLockRegistry :=
  match r.locks id with
  | some entry => (entry, r)
  | none => (r.created, { r with
      locks := Function.update r.locks id (some r.created)
      entries := Function.update r.entries r.created ⟨.free, 0⟩
      created := r.created + 1 })

def enter (r : UploadSessionLockRegistry) (id : UploadSessionId) : UploadSessionLockRegistry :=
  let (entry, r) := r.entryFor id
  let (lock, taken) := (r.entries entry).lock.acquire r.leases.length
  { r with
    entries := Function.update r.entries entry ⟨lock, (r.entries entry).references + 1⟩
    leases := r.leases ++ [⟨id, entry, if taken then .holding else .waiting⟩] }

/- The last guarded section of `lease`, with the lock as the call leaves it. -/
def finish (r : UploadSessionLockRegistry) (call : Nat) (lease : Lease) (lock : FairLock Nat) :
    UploadSessionLockRegistry :=
  let references := (r.entries lease.entry).references - 1
  { r with
    entries := Function.update r.entries lease.entry ⟨lock, references⟩
    locks := if references = 0 && !lock.locked then Function.update r.locks lease.sessionId none
      else r.locks
    leases := r.leases.set call { lease with phase := .left } }

def step (r : UploadSessionLockRegistry) : LeaseEvent → UploadSessionLockRegistry
  | .enter id => r.enter id
  | .leave call =>
    match r.leases[call]? with
    | some ⟨id, entry, .holding⟩ =>
      match (r.entries entry).lock.release with
      | some lock => r.finish call ⟨id, entry, .holding⟩ lock
      -- `RuntimeError` in the `finally` block, before its guarded section
      | none => { r with leases := r.leases.set call ⟨id, entry, .left⟩ }
    | _ => r
  | .cancel call =>
    match r.leases[call]? with
    | some ⟨_, entry, .waiting⟩ =>
      { r with
        entries := Function.update r.entries entry
          ⟨(r.entries entry).lock.cancel call, (r.entries entry).references⟩ }
    | _ => r
  | .resume call =>
    match r.leases[call]? with
    | some ⟨id, entry, .waiting⟩ =>
      match (r.entries entry).lock.resume call with
      | none => r
      | some (lock, true) =>
        { r with
          entries := Function.update r.entries entry ⟨lock, (r.entries entry).references⟩
          leases := r.leases.set call ⟨id, entry, .holding⟩ }
      | some (lock, false) => r.finish call ⟨id, entry, .waiting⟩ lock
    | _ => r

/- A call that holds or waits for the lock object. -/
def attached (entry : Nat) (lease : Lease) : Bool := lease.entry = entry && lease.phase ≠ .left

def holds (entry : Nat) (lease : Lease) : Bool := lease.entry = entry && lease.phase = .holding

/-- The lock objects agree with the calls that use them. -/
structure Booked (r : UploadSessionLockRegistry) : Prop where
  counted : ∀ entry, (r.entries entry).references = r.leases.countP (attached entry)
  held : ∀ entry, r.leases.countP (holds entry) = if (r.entries entry).lock.locked then 1 else 0
  queued : ∀ entry call, call ∈ (r.entries entry).lock.sleepers ↔
    ∃ lease, r.leases[call]? = some lease ∧ lease.entry = entry ∧ lease.phase = .waiting
  fair : ∀ entry, (r.entries entry).lock.Fair

/-- The dictionary names the lock objects in use, one for each session. -/
structure Named (r : UploadSessionLockRegistry) : Prop where
  registered : ∀ id entry, r.locks id = some entry ↔
    ∃ (call : Nat) (lease : Lease), r.leases[call]? = some lease ∧ lease.sessionId = id ∧ lease.entry = entry ∧
      lease.phase ≠ .left
  apart : ∀ id id' entry, r.locks id = some entry → r.locks id' = some entry → id = id'
  made : ∀ lease ∈ r.leases, lease.entry < r.created
  unmade : ∀ entry, r.created ≤ entry → r.entries entry = ⟨.free, 0⟩

variable {r : UploadSessionLockRegistry} {call : Nat} {lease : Lease} {lock : FairLock Nat}

theorem Booked.empty : Booked empty := by
  refine ⟨fun _ => rfl, fun _ => rfl, fun entry call => ?_, fun _ => .free⟩
  simp [UploadSessionLockRegistry.empty, FairLock.free, FairLock.sleepers]

theorem Named.empty : Named empty := by
  refine ⟨fun id entry => ?_, nofun, nofun, fun _ _ => rfl⟩
  simp [UploadSessionLockRegistry.empty]

omit r lease lock in
theorem countP_set_add {l : List Lease} {a : Lease} (b : Lease) (p : Lease → Bool)
    (h : l[call]? = some a) :
    (l.set call b).countP p + (if p a = true then 1 else 0) =
      l.countP p + (if p b = true then 1 else 0) := by
  obtain ⟨hlt, rfl⟩ := List.getElem?_eq_some_iff.mp h
  rw [List.countP_set hlt]
  have hle : (if p l[call] = true then 1 else 0) ≤ l.countP p := List.boole_getElem_le_countP hlt
  omega

/-- One call moves to another phase, and its lock object with it. -/
theorem Booked.set (h : Booked r) (hcall : r.leases[call]? = some lease) (phase : LeasePhase)
    (references : Int) (locks : UploadSessionId → Option Nat) (hfair : lock.Fair)
    (hcount : references + (if lease.phase = .left then 0 else 1) =
      (r.entries lease.entry).references + (if phase = .left then 0 else 1))
    (hlocked : (if lock.locked then 1 else 0) + (if lease.phase = .holding then 1 else 0) =
      (if (r.entries lease.entry).lock.locked then 1 else 0) + (if phase = .holding then 1 else 0))
    (hqueue : ∀ k, k ∈ lock.sleepers ↔
      (k = call ∧ phase = .waiting) ∨ (k ≠ call ∧ k ∈ (r.entries lease.entry).lock.sleepers)) :
    Booked { r with
      locks
      entries := Function.update r.entries lease.entry ⟨lock, references⟩
      leases := r.leases.set call { lease with phase } } := by
  refine ⟨fun entry => ?_, fun entry => ?_, fun entry k => ?_, fun entry => ?_⟩ <;> dsimp only
  · have hset := countP_set_add { lease with phase } (attached entry) hcall
    have hold := h.counted entry
    simp only [attached, ne_eq, Bool.and_eq_true, decide_eq_true_eq] at hset
    by_cases he : lease.entry = entry
    · subst he
      simp only [true_and] at hset
      rw [Function.update_self]
      dsimp only
      split_ifs at hset hcount <;> omega
    · simp only [he, false_and, if_false] at hset
      rw [Function.update_of_ne (Ne.symm he)]
      omega
  · have hset := countP_set_add { lease with phase } (holds entry) hcall
    have hold := h.held entry
    simp only [holds, Bool.and_eq_true, decide_eq_true_eq] at hset
    by_cases he : lease.entry = entry
    · subst he
      simp only [true_and] at hset
      simp only [Function.update_self]
      omega
    · simp only [he, false_and, if_false] at hset
      simp only [Function.update_of_ne (Ne.symm he)]
      omega
  · have hold := h.queued entry k
    obtain ⟨hlt, hget⟩ := List.getElem?_eq_some_iff.mp hcall
    simp only [List.getElem?_set]
    by_cases he : lease.entry = entry
    · subst he
      rw [Function.update_self, hqueue k, hold]
      by_cases hk : call = k
      · subst hk
        simp [hlt]
      · simp [hk, Ne.symm hk]
    · rw [Function.update_of_ne (Ne.symm he), hold]
      by_cases hk : call = k
      · subst hk
        simp [hlt, hget, he]
      · simp [hk]
  · by_cases he : lease.entry = entry
    · subst he
      rw [Function.update_self]
      exact hfair
    · rw [Function.update_of_ne (Ne.symm he)]
      exact h.fair entry

/-- A call that has not begun yet changes nothing. -/
theorem Booked.append (h : Booked r) (lease : Lease) (hleft : lease.phase = .left) :
    Booked { r with leases := r.leases ++ [lease] } := by
  refine ⟨fun entry => ?_, fun entry => ?_, fun entry k => ?_, h.fair⟩ <;> dsimp only
  · rw [h.counted, List.countP_append]
    simp [attached, hleft]
  · rw [← h.held, List.countP_append]
    simp [holds, hleft]
  · rw [h.queued]
    by_cases hk : k < r.leases.length
    · rw [List.getElem?_append_left hk]
    · rw [List.getElem?_append_right (by omega), List.getElem?_eq_none (by omega)]
      cases hrest : k - r.leases.length with
      | zero => simp [hleft]
      | succ n => simp

theorem getElem?_set_iff {l : List Lease} {a b c : Lease} {k : Nat} (h : l[call]? = some a) :
    (l.set call b)[k]? = some c ↔ (k = call ∧ b = c) ∨ (k ≠ call ∧ l[k]? = some c) := by
  obtain ⟨hlt, -⟩ := List.getElem?_eq_some_iff.mp h
  rw [List.getElem?_set]
  by_cases hk : call = k
  · subst hk
    simp [hlt]
  · simp [hk, Ne.symm hk]

theorem getElem?_concat_iff {l : List Lease} {b c : Lease} {k : Nat} :
    (l ++ [b])[k]? = some c ↔ (k = l.length ∧ b = c) ∨ l[k]? = some c := by
  obtain hk | hk | hk := Nat.lt_trichotomy k l.length
  · rw [List.getElem?_append_left hk]
    simp [Nat.ne_of_lt hk]
  · subst hk
    simp
  · rw [List.getElem?_eq_none (by simp; omega), List.getElem?_eq_none (by omega)]
    simp [Nat.ne_of_gt hk]

/-- A call that stays attached to its lock object. -/
theorem Named.set (h : Named r) (lock : FairLock Nat) (hcall : r.leases[call]? = some lease) (phase : LeasePhase)
    (references : Int) (hbefore : lease.phase ≠ .left) (hafter : phase ≠ .left) :
    Named { r with
      entries := Function.update r.entries lease.entry ⟨lock, references⟩
      leases := r.leases.set call { lease with phase } } := by
  have hmade := h.made lease (List.mem_of_getElem? hcall)
  refine ⟨fun id entry => ?_, h.apart, fun other hother => ?_, fun entry hentry => ?_⟩ <;> dsimp only
  · rw [h.registered]
    simp only [getElem?_set_iff hcall]
    constructor
    · rintro ⟨k, other, hk, hid, he, hphase⟩
      by_cases hsame : k = call
      · rw [hsame, hcall] at hk
        cases hk
        exact ⟨call, _, Or.inl ⟨rfl, rfl⟩, hid, he, hafter⟩
      · exact ⟨k, other, Or.inr ⟨hsame, hk⟩, hid, he, hphase⟩
    · rintro ⟨k, other, ⟨rfl, rfl⟩ | ⟨-, hk⟩, hid, he, hphase⟩
      · exact ⟨k, lease, hcall, hid, he, hbefore⟩
      · exact ⟨k, other, hk, hid, he, hphase⟩
  · obtain hmem | rfl := List.mem_or_eq_of_mem_set hother
    · exact h.made other hmem
    · exact hmade
  · dsimp only at hentry
    rw [Function.update_of_ne (by omega)]
    exact h.unmade entry hentry

/-- Who is attached once a call has left. -/
theorem attached_set_left (hcall : r.leases[call]? = some lease) (k : Nat) (other : Lease) :
    (r.leases.set call { lease with phase := .left })[k]? = some other ∧ other.phase ≠ .left ↔
      k ≠ call ∧ r.leases[k]? = some other ∧ other.phase ≠ .left := by
  rw [getElem?_set_iff hcall]
  constructor
  · rintro ⟨⟨rfl, rfl⟩ | ⟨hne, hk⟩, hphase⟩
    · exact absurd rfl hphase
    · exact ⟨hne, hk, hphase⟩
  · rintro ⟨hne, hk, hphase⟩
    exact ⟨Or.inr ⟨hne, hk⟩, hphase⟩

/-- The test of the last guarded section: nobody else is attached to the lock object. -/
theorem finish_last (hcall : r.leases[call]? = some lease)
    (hbooked : Booked (r.finish call lease lock)) :
    ((r.entries lease.entry).references - 1 = 0 ∧ lock.locked = false) ↔
      ∀ k other, k ≠ call → r.leases[k]? = some other → other.phase ≠ .left →
        other.entry ≠ lease.entry := by
  have hcounted := hbooked.counted lease.entry
  have hheld := hbooked.held lease.entry
  simp only [UploadSessionLockRegistry.finish, Function.update_self] at hcounted hheld
  rw [hcounted]
  constructor
  · rintro ⟨hzero, -⟩ k other hne hk hphase hentry
    have hmem := (attached_set_left hcall k other).mpr ⟨hne, hk, hphase⟩
    have hpos := List.countP_pos_iff.mpr ⟨other, List.mem_of_getElem? hmem.1,
      (by simp [attached, hentry, hphase] : attached lease.entry other = true)⟩
    omega
  · intro hnone
    have hnobody : ∀ other ∈ r.leases.set call { lease with phase := .left },
        attached lease.entry other = false := by
      intro other hother
      obtain ⟨k, hk⟩ := List.mem_iff_getElem?.mp hother
      cases hattached : attached lease.entry other with
      | false => rfl
      | true =>
        simp only [attached, ne_eq, Bool.and_eq_true, decide_eq_true_eq] at hattached
        obtain ⟨hne, hold, hphase⟩ := (attached_set_left hcall k other).mp ⟨hk, by
          simpa using hattached.2⟩
        exact absurd hattached.1 (hnone k other hne hold hphase)
    have hzero : (r.leases.set call { lease with phase := .left }).countP
        (attached lease.entry) = 0 := List.countP_eq_zero.mpr fun other hother => by
      simp [hnobody other hother]
    have hfree : (r.leases.set call { lease with phase := .left }).countP
        (holds lease.entry) = 0 := List.countP_eq_zero.mpr fun other hother hholds => by
      have hnot := hnobody other hother
      simp only [holds, Bool.and_eq_true, decide_eq_true_eq] at hholds
      simp [attached, hholds] at hnot
    refine ⟨by omega, ?_⟩
    rw [hfree] at hheld
    cases hlocked : lock.locked with
    | false => rfl
    | true => simp [hlocked] at hheld

/-- A call that leaves its lock object, and the name of the object with it when it was the
last. -/
theorem Named.finish (h : Named r) (hcall : r.leases[call]? = some lease)
    (hbefore : lease.phase ≠ .left) (hbooked : Booked (r.finish call lease lock)) :
    Named (r.finish call lease lock) := by
  have hmade := h.made lease (List.mem_of_getElem? hcall)
  have hname : r.locks lease.sessionId = some lease.entry :=
    (h.registered _ _).mpr ⟨call, lease, hcall, rfl, rfl, hbefore⟩
  have hlast := finish_last hcall hbooked
  have hlocks : (r.finish call lease lock).locks =
      if (r.entries lease.entry).references - 1 = 0 ∧ lock.locked = false then
        Function.update r.locks lease.sessionId none else r.locks := by
    simp [UploadSessionLockRegistry.finish]
  refine ⟨fun id entry => ?_, fun id id' entry hid hid' => ?_, fun other hother => ?_,
    fun entry hentry => ?_⟩
  · rw [hlocks]
    have hafter : (∃ (k : Nat) (other : Lease), (r.finish call lease lock).leases[k]? = some other ∧
        other.sessionId = id ∧ other.entry = entry ∧ other.phase ≠ .left) ↔
        ∃ (k : Nat) (other : Lease), k ≠ call ∧ r.leases[k]? = some other ∧
          other.sessionId = id ∧ other.entry = entry ∧ other.phase ≠ .left := by
      constructor
      · rintro ⟨k, other, hk, hid, he, hphase⟩
        obtain ⟨hne, hold, -⟩ := (attached_set_left hcall k other).mp ⟨hk, hphase⟩
        exact ⟨k, other, hne, hold, hid, he, hphase⟩
      · rintro ⟨k, other, hne, hk, hid, he, hphase⟩
        exact ⟨k, other, ((attached_set_left hcall k other).mpr ⟨hne, hk, hphase⟩).1, hid, he, hphase⟩
    rw [hafter]
    constructor
    · intro hlookup
      have hold : r.locks id = some entry := by
        split at hlookup
        · rw [Function.update_apply] at hlookup
          split at hlookup
          · cases hlookup
          · exact hlookup
        · exact hlookup
      obtain ⟨k, other, hk, hid, he, hphase⟩ := (h.registered id entry).mp hold
      by_cases hsame : k = call
      · -- the name is still there, so somebody else is attached to the object
        rw [hsame, hcall] at hk
        cases hk
        have hmore : ¬((r.entries lease.entry).references - 1 = 0 ∧ lock.locked = false) := by
          intro hdone
          rw [if_pos hdone, ← hid, Function.update_self] at hlookup
          cases hlookup
        rw [hlast] at hmore
        simp only [not_forall, not_not] at hmore
        obtain ⟨k', other', hne, hk', hphase', he'⟩ := hmore
        refine ⟨k', other', hne, hk', ?_, he'.trans he, hphase'⟩
        rw [← hid]
        exact h.apart _ _ lease.entry
          ((h.registered _ _).mpr ⟨k', other', hk', rfl, he', hphase'⟩) hname
      · exact ⟨k, other, hsame, hk, hid, he, hphase⟩
    · rintro ⟨k, other, hne, hk, hid, he, hphase⟩
      have hold : r.locks id = some entry :=
        (h.registered _ _).mpr ⟨k, other, hk, hid, he, hphase⟩
      split
      · rename_i hdone
        have hother := hlast.mp hdone k other hne hk hphase
        rw [Function.update_of_ne]
        · exact hold
        · rintro rfl
          rw [hname] at hold
          exact hother (he.trans (Option.some.inj hold).symm)
      · exact hold
  · have hkept (k : UploadSessionId) (hk : (r.finish call lease lock).locks k = some entry) :
        r.locks k = some entry := by
      rw [hlocks] at hk
      split at hk
      · rw [Function.update_apply] at hk
        split at hk
        · cases hk
        · exact hk
      · exact hk
    exact h.apart id id' entry (hkept id hid) (hkept id' hid')
  · obtain hmem | rfl := List.mem_or_eq_of_mem_set hother
    · exact h.made other hmem
    · exact hmade
  · have hne : entry ≠ lease.entry := by
      have hlt : r.created ≤ entry := hentry
      omega
    simp only [UploadSessionLockRegistry.finish, Function.update_of_ne hne]
    exact h.unmade entry hentry

/-- The entry of a session is the one in use, or one that nobody has used. -/
theorem entryFor_spec (h : Named r) (id : UploadSessionId) :
    (r.entryFor id).2.leases = r.leases ∧ (r.entryFor id).2.entries = r.entries ∧
    (r.entryFor id).2.locks = Function.update r.locks id (some (r.entryFor id).1) ∧
    r.created ≤ (r.entryFor id).2.created ∧ (r.entryFor id).1 < (r.entryFor id).2.created ∧
    (r.locks id = some (r.entryFor id).1 ∨
      r.locks id = none ∧ (r.entryFor id).1 = r.created) := by
  unfold entryFor
  split
  · rename_i entry hentry
    obtain ⟨call, lease, hcall, -, rfl, -⟩ := (h.registered id entry).mp hentry
    refine ⟨rfl, rfl, ?_, Nat.le_refl _, h.made lease (List.mem_of_getElem? hcall), Or.inl hentry⟩
    rw [← hentry]
    exact (Function.update_eq_self _ _).symm
  · rename_i hnone
    refine ⟨rfl, ?_, rfl, Nat.le_succ _, Nat.lt_succ_self _, Or.inr ⟨hnone, rfl⟩⟩
    have hfresh := h.unmade r.created (Nat.le_refl _)
    simp only
    rw [← hfresh]
    exact Function.update_eq_self _ _

theorem Booked.enter (h : Booked r) (hnamed : Named r) (id : UploadSessionId) :
    Booked (r.enter id) := by
  obtain ⟨hleases, hentries, -⟩ := entryFor_spec hnamed id
  have hbefore : Booked (r.entryFor id).2 := by
    refine ⟨fun entry => ?_, fun entry => ?_, fun entry k => ?_, fun entry => ?_⟩ <;>
      rw [hentries] <;> try rw [hleases]
    · exact h.counted entry
    · exact h.held entry
    · exact h.queued entry k
    · exact h.fair entry
  have hnew : (r.entryFor id).2.leases.length ∉
      ((r.entryFor id).2.entries (r.entryFor id).1).lock.sleepers := by
    rw [hbefore.queued]
    simp
  have happended := hbefore.append ⟨id, (r.entryFor id).1, .left⟩ rfl
  obtain ⟨hfair, htaken, hqueued⟩ :=
    FairLock.Fair.acquire (hbefore.fair (r.entryFor id).1) hnew
  unfold UploadSessionLockRegistry.enter
  generalize r.entryFor id = found at *
  obtain ⟨entry, s⟩ := found
  dsimp only at *
  generalize hacquire : (s.entries entry).lock.acquire s.leases.length = acquired at *
  obtain ⟨lock, taken⟩ := acquired
  dsimp only at *
  have hlast : (s.leases ++ [(⟨id, entry, .left⟩ : Lease)])[s.leases.length]? =
      some ⟨id, entry, .left⟩ := by simp
  have hset := happended.set hlast (if taken then .holding else .waiting)
    ((s.entries entry).references + 1) s.locks hfair
  have hconcat (phase : LeasePhase) : (s.leases ++ [(⟨id, entry, .left⟩ : Lease)]).set
      s.leases.length ⟨id, entry, phase⟩ = s.leases ++ [⟨id, entry, phase⟩] := by
    rw [List.set_append_right _ _ (Nat.le_refl _), Nat.sub_self]
    rfl
  simp only [hconcat] at hset
  cases taken with
  | true =>
    obtain ⟨hfree, hlocked, hsleepers⟩ := htaken rfl
    refine hset (by simp) (by simp [hfree, hlocked]) fun k => ?_
    rw [hsleepers]
    by_cases hk : k = s.leases.length
    · rw [hk]
      simp [hnew]
    · simp [hk]
  | false =>
    obtain ⟨hlocked, hsleepers⟩ := hqueued rfl
    refine hset (by simp) (by simp [hlocked]) fun k => ?_
    rw [hsleepers]
    by_cases hk : k = s.leases.length
    · simp [hk]
    · simp [hk]

theorem Named.enter (h : Named r) (id : UploadSessionId) : Named (r.enter id) := by
  obtain ⟨hleases, hentries, hlocks, hmore, hlt, horigin⟩ := entryFor_spec h id
  unfold UploadSessionLockRegistry.enter
  generalize r.entryFor id = found at *
  obtain ⟨entry, s⟩ := found
  dsimp only at *
  generalize (s.entries entry).lock.acquire s.leases.length = acquired at *
  obtain ⟨lock, taken⟩ := acquired
  dsimp only at *
  have hphase : (if taken = true then LeasePhase.holding else .waiting) ≠ .left := by
    split <;> simp
  generalize (if taken = true then LeasePhase.holding else .waiting) = phase at hphase ⊢
  -- whoever is attached to the object asked for the same session
  have hsame (k : UploadSessionId) (hk : r.locks k = some entry) : k = id := by
    obtain hold | ⟨-, hnew⟩ := horigin
    · exact h.apart k id entry hk hold
    · obtain ⟨call, lease, hcall, -, he, -⟩ := (h.registered k entry).mp hk
      have hmade := h.made lease (List.mem_of_getElem? hcall)
      omega
  refine ⟨fun k e => ?_, fun k k' e hk hk' => ?_, fun other hother => ?_, fun e he => ?_⟩ <;>
    dsimp only at *
  · rw [hlocks, hleases]
    simp only [getElem?_concat_iff]
    by_cases hk : k = id
    · subst hk
      rw [Function.update_self]
      constructor
      · intro he
        exact ⟨r.leases.length, ⟨k, entry, phase⟩, Or.inl ⟨rfl, rfl⟩, rfl, Option.some.inj he, hphase⟩
      · rintro ⟨call, other, ⟨-, rfl⟩ | hcall, hid, rfl, hother⟩
        · rfl
        · have hold := (h.registered k other.entry).mpr ⟨call, other, hcall, hid, rfl, hother⟩
          obtain hentry | ⟨hnone, -⟩ := horigin
          · rw [← hentry, hold]
          · rw [hnone] at hold
            cases hold
    · rw [Function.update_of_ne hk, h.registered]
      constructor
      · rintro ⟨call, other, hcall, hrest⟩
        exact ⟨call, other, Or.inr hcall, hrest⟩
      · rintro ⟨call, other, ⟨-, rfl⟩ | hcall, hid, hrest⟩
        · exact absurd hid.symm hk
        · exact ⟨call, other, hcall, hid, hrest⟩
  · rw [hlocks] at hk hk'
    rw [Function.update_apply] at hk hk'
    split at hk <;> split at hk'
    · rename_i hid hid'
      rw [hid, hid']
    · rename_i hid _
      cases hk
      rw [hid]
      exact (hsame k' hk').symm
    · rename_i _ hid'
      cases hk'
      rw [hid']
      exact hsame k hk
    · exact h.apart k k' e hk hk'
  · rw [hleases] at hother
    obtain hmem | hmem := List.mem_append.mp hother
    · exact Nat.lt_of_lt_of_le (h.made other hmem) hmore
    · rw [List.mem_singleton.mp hmem]
      exact hlt
  · rw [Function.update_of_ne (by omega), hentries]
    exact h.unmade e (Nat.le_trans hmore he)

/-- Both halves of the books. -/
structure Sound (r : UploadSessionLockRegistry) : Prop where
  booked : Booked r
  named : Named r

theorem Sound.empty : Sound empty := ⟨.empty, .empty⟩

theorem Sound.finish (h : Sound r) (hcall : r.leases[call]? = some lease)
    (hbefore : lease.phase ≠ .left) (hfair : lock.Fair)
    (hlocked : (if lock.locked then 1 else 0) + (if lease.phase = .holding then 1 else 0) =
      (if (r.entries lease.entry).lock.locked then 1 else 0))
    (hqueue : ∀ k, k ∈ lock.sleepers ↔ k ≠ call ∧ k ∈ (r.entries lease.entry).lock.sleepers) :
    Sound (r.finish call lease lock) := by
  have hbooked : Booked (r.finish call lease lock) := by
    refine h.booked.set hcall .left _ _ hfair ?_ (by simpa using hlocked) fun k => ?_
    · rw [if_neg hbefore, if_pos rfl]
      omega
    · simpa using hqueue k
  exact ⟨hbooked, h.named.finish hcall hbefore hbooked⟩

/-- Each event of each task keeps the books. -/
theorem Sound.step (h : Sound r) (event : LeaseEvent) : Sound (r.step event) := by
  cases event with
  | enter id => exact ⟨h.booked.enter h.named id, h.named.enter id⟩
  | leave call =>
    unfold UploadSessionLockRegistry.step
    dsimp only
    split
    · rename_i id entry hcall
      have hheld : (r.entries entry).lock.locked = true := by
        have hcount := h.booked.held entry
        have hpos := List.countP_pos_iff.mpr ⟨_, List.mem_of_getElem? hcall,
          (by simp [holds] : holds entry ⟨id, entry, .holding⟩ = true)⟩
        split at hcount
        · assumption
        · omega
      split
      · rename_i lock hrelease
        obtain ⟨hfair, -, hfree, hsleepers⟩ := (h.booked.fair entry).release hrelease
        refine h.finish hcall nofun hfair (by simp [hfree, hheld]) fun k => ?_
        rw [hsleepers]
        constructor
        · intro hk
          refine ⟨?_, hk⟩
          rintro rfl
          obtain ⟨other, hother, -, hwaiting⟩ := (h.booked.queued entry k).mp hk
          rw [hcall] at hother
          cases hother
          cases hwaiting
        · exact And.right
      · rename_i hrelease
        have hsome := FairLock.release_isSome hheld
        rw [hrelease] at hsome
        cases hsome
    · exact h
  | cancel call =>
    unfold UploadSessionLockRegistry.step
    dsimp only
    split
    · rename_i id entry hcall
      have hsame : r.leases.set call ⟨id, entry, .waiting⟩ = r.leases := by
        obtain ⟨hlt, hget⟩ := List.getElem?_eq_some_iff.mp hcall
        rw [← hget]
        exact List.set_getElem_self hlt
      have hfair := (h.booked.fair entry).cancel (t := call)
      have hbooked := h.booked.set hcall .waiting (r.entries entry).references r.locks hfair rfl
        rfl fun k => by
          rw [FairLock.map_cancel]
          by_cases hk : k = call
          · have hin := (h.booked.queued entry call).mpr ⟨_, hcall, rfl, rfl⟩
            simp [hk, hin]
          · simp [hk]
      have hnamed := h.named.set ((r.entries entry).lock.cancel call) hcall .waiting
        (r.entries entry).references nofun nofun
      simp only [hsame] at hbooked hnamed
      exact ⟨hbooked, hnamed⟩
    · exact h
  | resume call =>
    unfold UploadSessionLockRegistry.step
    dsimp only
    split
    · rename_i id entry hcall
      split
      · exact h
      · rename_i lock hresume
        obtain ⟨hfair, hin, hsleepers, hgranted, -⟩ := (h.booked.fair entry).resume hresume
        obtain ⟨hfree, hlocked⟩ := hgranted rfl
        refine ⟨h.booked.set hcall .holding _ _ hfair (by simp) (by simp [hfree, hlocked])
          fun k => ?_, h.named.set lock hcall .holding _ nofun nofun⟩
        rw [hsleepers]
        simp [and_comm]
      · rename_i lock hresume
        obtain ⟨hfair, hin, hsleepers, -, hkept⟩ := (h.booked.fair entry).resume hresume
        refine h.finish hcall nofun hfair (by simp [hkept rfl]) fun k => ?_
        rw [hsleepers]
        exact and_comm
    · exact h

theorem Sound.run (h : Sound r) (events : List LeaseEvent) : Sound (events.foldl UploadSessionLockRegistry.step r) := by
  induction events generalizing r with
  | nil => exact h
  | cons event events ih => exact ih (h.step event)

/-- Two different calls in the body would be counted twice. -/
theorem Booked.holder_unique (h : Booked r) {k k' : Nat} {a b : Lease}
    (hk : r.leases[k]? = some a) (hk' : r.leases[k']? = some b) (ha : a.phase = .holding)
    (hb : b.phase = .holding) (hentry : a.entry = b.entry) : k = k' := by
  by_contra hne
  have hcount := h.held a.entry
  have hset := countP_set_add { a with phase := .left } (holds a.entry) hk
  have hother : (r.leases.set k { a with phase := .left })[k']? = some b := by
    rw [getElem?_set_iff hk]
    exact Or.inr ⟨Ne.symm hne, hk'⟩
  have hpos := List.countP_pos_iff.mpr ⟨b, List.mem_of_getElem? hother,
    (by simp [holds, hb, hentry] : holds a.entry b = true)⟩
  have hfirst : holds a.entry a = true := by simp [holds, ha]
  rw [hfirst, if_pos rfl] at hset
  have hle : r.leases.countP (holds a.entry) ≤ 1 := by
    rw [hcount]
    split <;> omega
  have hnone : holds a.entry { a with phase := .left } = false := by simp [holds]
  rw [hnone] at hset
  simp only [Bool.false_eq_true, if_false] at hset
  omega

/-- However tasks enter leases, hold them, leave them, are cancelled asleep and run again: for
one session at most one call is in its body, the calls that hold or wait share the lock object
that the registry has for it, and the registry has one for exactly the sessions that some call
holds or waits for. -/
theorem lease_discipline (events : List LeaseEvent) :
    let r := events.foldl step empty
    (∀ (k k' : Nat) (a b : Lease), r.leases[k]? = some a → r.leases[k']? = some b →
      a.phase = .holding → b.phase = .holding → a.sessionId = b.sessionId → k = k') ∧
    (∀ (a b : Lease), a ∈ r.leases → b ∈ r.leases → a.phase ≠ .left → b.phase ≠ .left →
      a.sessionId = b.sessionId → a.entry = b.entry) ∧
    ∀ id : UploadSessionId, (r.locks id).isSome = true ↔
      ∃ a ∈ r.leases, a.sessionId = id ∧ a.phase ≠ .left := by
  intro r
  have hsound : Sound r := Sound.empty.run events
  have hentry (a : Lease) (ha : a ∈ r.leases) (hphase : a.phase ≠ .left) :
      r.locks a.sessionId = some a.entry := by
    obtain ⟨k, hk⟩ := List.mem_iff_getElem?.mp ha
    exact (hsound.named.registered _ _).mpr ⟨k, a, hk, rfl, rfl, hphase⟩
  have hshared (a b : Lease) (ha : a ∈ r.leases) (hb : b ∈ r.leases) (hpa : a.phase ≠ .left)
      (hpb : b.phase ≠ .left) (hid : a.sessionId = b.sessionId) : a.entry = b.entry := by
    have hfirst := hentry a ha hpa
    rw [hid, hentry b hb hpb] at hfirst
    exact (Option.some.inj hfirst).symm
  refine ⟨fun k k' a b hk hk' ha hb hid => ?_, hshared, fun id => ?_⟩
  · have hsame := hshared a b (List.mem_of_getElem? hk) (List.mem_of_getElem? hk')
      (by simp [ha]) (by simp [hb]) hid
    exact hsound.booked.holder_unique hk hk' ha hb hsame
  · rw [Option.isSome_iff_exists]
    constructor
    · rintro ⟨entry, hlock⟩
      obtain ⟨k, a, hk, hid, -, hphase⟩ := (hsound.named.registered id entry).mp hlock
      exact ⟨a, List.mem_of_getElem? hk, hid, hphase⟩
    · rintro ⟨a, ha, rfl, hphase⟩
      exact ⟨a.entry, hentry a ha hphase⟩

end UploadSessionLockRegistry
end FrameNest.Uploads
