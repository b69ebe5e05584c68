import Mathlib.Data.List.Nodup
import Mathlib.Data.List.Basic

/-! A fair lock for tasks that run one at a time between their suspensions. A task that finds
the lock taken queues a future and sleeps; a release wakes the first of the queue, and a
sleeper may be cancelled before or after it is woken. -/
namespace Concurrent
variable {τ : Type}

/-- The future a sleeper waits on, and whether its task was cancelled after it was woken. -/
inductive Sleep where
  | pending
  | woken (cancelled : Bool)
  | cancelled
deriving DecidableEq

structure FairLock (τ : Type) where
  locked : Bool
  waiters : List (τ × Sleep)

namespace FairLock

def free : FairLock τ := ⟨false, []⟩

def sleepers (l : FairLock τ) : List τ := l.waiters.map Prod.fst

/- `_wake_up_first`: a first future that is done already is left alone. -/
def wakeUpFirst (l : FairLock τ) : FairLock τ :=
  match l.waiters with
  | (t, .pending) :: rest => { l with waiters := (t, .woken false) :: rest }
  | _ => l

/- `acquire`, up to its first suspension: the lock, and whether it was taken at once. -/
def acquire (l : FairLock τ) (t : τ) : FairLock τ × Bool :=
  if !l.locked && l.waiters.all (fun waiter => waiter.2 = .cancelled) then
    ({ l with locked := true }, true)
  else ({ l with waiters := l.waiters ++ [(t, .pending)] }, false)

/- `release`: `none` where it raises. -/
def release (l : FairLock τ) : Option (FairLock τ) :=
  if l.locked then some { l with locked := false }.wakeUpFirst else none

def isWoken : Sleep → Bool
  | .woken _ => true
  | _ => false

/-- Only the first sleeper of a lock that nobody holds can be woken, and each sleeps once. -/
structure Fair (l : FairLock τ) : Prop where
  distinct : l.sleepers.Nodup
  first : ∀ waiter ∈ l.waiters.tail, isWoken waiter.2 = false
  held : l.locked = true → ∀ waiter ∈ l.waiters, isWoken waiter.2 = false

variable {l : FairLock τ} {t s : τ}

theorem Fair.free : (free : FairLock τ).Fair := ⟨List.nodup_nil, nofun, nofun⟩

@[simp] theorem sleepers_wakeUpFirst : l.wakeUpFirst.sleepers = l.sleepers := by
  unfold wakeUpFirst sleepers
  split
  · rename_i h
    simp [h]
  · rfl

@[simp] theorem locked_wakeUpFirst : l.wakeUpFirst.locked = l.locked := by
  unfold wakeUpFirst
  split <;> rfl

theorem tail_wakeUpFirst : l.wakeUpFirst.waiters.tail = l.waiters.tail := by
  unfold wakeUpFirst
  split
  · rename_i h
    simp [h]
  · rfl

theorem Fair.wakeUpFirst (h : l.Fair) (hfree : l.locked = false) : l.wakeUpFirst.Fair where
  distinct := by
    rw [sleepers_wakeUpFirst]
    exact h.distinct
  first := by
    rw [tail_wakeUpFirst]
    exact h.first
  held hlocked := by
    rw [locked_wakeUpFirst, hfree] at hlocked
    cases hlocked

/-- A lock taken at once was free, and nobody in its queue had been woken. -/
theorem Fair.acquire (h : l.Fair) (hnew : t ∉ l.sleepers) : (l.acquire t).1.Fair ∧
    ((l.acquire t).2 = true → l.locked = false ∧ (l.acquire t).1.locked = true ∧
      (l.acquire t).1.sleepers = l.sleepers) ∧
    ((l.acquire t).2 = false → (l.acquire t).1.locked = l.locked ∧
      (l.acquire t).1.sleepers = l.sleepers ++ [t]) := by
  unfold FairLock.acquire
  split
  · rename_i hfree
    simp only [Bool.and_eq_true, Bool.not_eq_true', List.all_eq_true, decide_eq_true_eq] at hfree
    refine ⟨⟨h.distinct, h.first, fun _ waiter hmem => ?_⟩, fun _ => ⟨hfree.1, rfl, rfl⟩, nofun⟩
    rw [hfree.2 waiter hmem]
    rfl
  · have hsleepers : FairLock.sleepers { l with waiters := l.waiters ++ [(t, .pending)] } =
        l.sleepers ++ [t] := by simp [sleepers]
    refine ⟨⟨?_, fun waiter hmem => ?_, fun hlocked waiter hmem => ?_⟩, nofun,
      fun _ => ⟨rfl, hsleepers⟩⟩
    · rw [hsleepers, List.nodup_append]
      refine ⟨h.distinct, by simp, ?_⟩
      intro a ha b hb hab
      rw [List.mem_singleton.mp hb] at hab
      exact hnew (hab ▸ ha)
    · cases hwaiters : l.waiters with
      | nil => simp [hwaiters] at hmem
      | cons head rest =>
        simp only [hwaiters, List.cons_append, List.tail_cons, List.mem_append,
          List.mem_singleton] at hmem
        obtain hmem | rfl := hmem
        · exact h.first waiter (by rw [hwaiters]; exact hmem)
        · rfl
    · obtain hmem | hmem := List.mem_append.mp hmem
      · exact h.held hlocked waiter hmem
      · rw [List.mem_singleton.mp hmem]
        rfl

theorem Fair.release {l' : FairLock τ} (h : l.Fair) (hrelease : l.release = some l') :
    l'.Fair ∧ l.locked = true ∧ l'.locked = false ∧ l'.sleepers = l.sleepers := by
  unfold FairLock.release at hrelease
  split at hrelease
  · rename_i hlocked
    cases hrelease
    have hfree : ({ l with locked := false } : FairLock τ).Fair := ⟨h.distinct, h.first, nofun⟩
    refine ⟨hfree.wakeUpFirst rfl, hlocked, by simp, ?_⟩
    rw [sleepers_wakeUpFirst]
    rfl
  · cases hrelease

theorem release_isSome (h : l.locked = true) : l.release.isSome = true := by
  simp [FairLock.release, h]

section Sleeping
variable [DecidableEq τ]

/- The future of a task. -/
def sleep? (l : FairLock τ) (t : τ) : Option Sleep :=
  (l.waiters.find? fun waiter => waiter.1 = t).map Prod.snd

/- `task.cancel()` of a sleeper: a future that is done cannot be cancelled any more, so its
   task is told when it runs. -/
def cancelled : Sleep → Sleep
  | .pending => .cancelled
  | .woken _ => .woken true
  | .cancelled => .cancelled

def cancel (l : FairLock τ) (t : τ) : FairLock τ :=
  { l with waiters := l.waiters.map fun waiter =>
      if waiter.1 = t then (waiter.1, cancelled waiter.2) else waiter }

def remove (l : FairLock τ) (t : τ) : FairLock τ :=
  { l with waiters := l.waiters.filter fun waiter => waiter.1 ≠ t }

/- The rest of `acquire`, when the sleeper's future is done: `none` while it is not. -/
def resume (l : FairLock τ) (t : τ) : Option (FairLock τ × Bool) :=
  match l.sleep? t with
  | none | some .pending => none
  | some (.woken false) => some ({ l.remove t with locked := true }, true)
  | some (.woken true) | some .cancelled =>
    some (if l.locked then l.remove t else (l.remove t).wakeUpFirst, false)

@[simp] theorem mem_sleepers_remove : s ∈ (l.remove t).sleepers ↔ s ∈ l.sleepers ∧ s ≠ t := by
  simp only [remove, sleepers, List.mem_map, List.mem_filter, decide_eq_true_eq]
  constructor
  · rintro ⟨waiter, ⟨hmem, hne⟩, rfl⟩
    exact ⟨⟨waiter, hmem, rfl⟩, hne⟩
  · rintro ⟨⟨waiter, hmem, rfl⟩, hne⟩
    exact ⟨waiter, ⟨hmem, hne⟩, rfl⟩

theorem Fair.remove (h : l.Fair) : (l.remove t).Fair where
  distinct := by
    have hsub : (l.remove t).sleepers.Sublist l.sleepers :=
      List.Sublist.map _ List.filter_sublist
    exact hsub.nodup h.distinct
  first waiter hmem := by
    have hmem' : waiter ∈ (l.waiters.filter fun waiter => waiter.1 ≠ t).tail := hmem
    cases hwaiters : l.waiters with
    | nil => simp [hwaiters] at hmem'
    | cons head rest =>
      have hrest : waiter ∈ rest := by
        rw [hwaiters, List.filter_cons] at hmem'
        split at hmem'
        · exact List.mem_of_mem_filter hmem'
        · exact List.mem_of_mem_filter (List.mem_of_mem_tail hmem')
      exact h.first waiter (by rw [hwaiters]; exact hrest)
  held hlocked waiter hmem := h.held hlocked waiter (List.mem_of_mem_filter hmem)

theorem sleep?_mem {state : Sleep} (h : l.sleep? t = some state) : (t, state) ∈ l.waiters := by
  obtain ⟨waiter, hwaiter, rfl⟩ := Option.map_eq_some_iff.mp h
  have hname : waiter.1 = t := by simpa using List.find?_some hwaiter
  have hmem := List.mem_of_find?_eq_some hwaiter
  rw [← hname]
  exact hmem

theorem map_cancel : (l.cancel t).sleepers = l.sleepers := by
  simp only [cancel, sleepers, List.map_map]
  refine List.map_congr_left fun waiter _ => ?_
  simp only [Function.comp_apply]
  split <;> rfl

/-- A cancellation wakes nobody. -/
theorem Fair.cancel (h : l.Fair) : (l.cancel t).Fair := by
  have hkeeps (waiter : τ × Sleep) (hw : isWoken waiter.2 = false) :
      isWoken (if waiter.1 = t then (waiter.1, cancelled waiter.2) else waiter).2 = false := by
    split
    · cases hstate : waiter.2 with
      | woken told => simp [hstate, isWoken] at hw
      | pending | cancelled => rfl
    · exact hw
  refine ⟨by rw [map_cancel]; exact h.distinct, fun waiter hmem => ?_, fun hlocked waiter hmem => ?_⟩
  · simp only [FairLock.cancel, ← List.map_tail, List.mem_map] at hmem
    obtain ⟨before, hbefore, rfl⟩ := hmem
    exact hkeeps before (h.first before hbefore)
  · obtain ⟨before, hbefore, rfl⟩ := List.mem_map.mp hmem
    exact hkeeps before (h.held hlocked before hbefore)

/-- A sleeper that gets the lock finds it free; one that was cancelled leaves it as it is. -/
theorem Fair.resume {l' : FairLock τ} {granted : Bool} (h : l.Fair)
    (hresume : l.resume t = some (l', granted)) : l'.Fair ∧ t ∈ l.sleepers ∧
      (∀ s, s ∈ l'.sleepers ↔ s ∈ l.sleepers ∧ s ≠ t) ∧
      (granted = true → l.locked = false ∧ l'.locked = true) ∧
      (granted = false → l'.locked = l.locked) := by
  unfold FairLock.resume at hresume
  have hmem {state : Sleep} (hstate : l.sleep? t = some state) : t ∈ l.sleepers :=
    List.mem_map_of_mem (sleep?_mem hstate)
  split at hresume
  · cases hresume
  · cases hresume
  · rename_i hstate
    cases hresume
    have hfree : l.locked = false := by
      cases hlocked : l.locked with
      | false => rfl
      | true => exact absurd (h.held hlocked _ (sleep?_mem hstate)) (by simp [isWoken])
    refine ⟨⟨h.remove.distinct, h.remove.first, fun _ waiter hwaiter => ?_⟩, hmem hstate,
      fun s => mem_sleepers_remove, fun _ => ⟨hfree, rfl⟩, nofun⟩
    -- the woken sleeper was the first of the queue, so nobody else was woken
    have hwoken := sleep?_mem hstate
    obtain ⟨hin, hne⟩ := List.mem_filter.mp hwaiter
    cases hwaiters : l.waiters with
    | nil => simp [hwaiters] at hin
    | cons head rest =>
      have hhead : head = (t, .woken false) := by
        rw [hwaiters] at hwoken
        obtain hhead | hrest := List.mem_cons.mp hwoken
        · exact hhead.symm
        · exact absurd (h.first _ (by rw [hwaiters]; exact hrest)) (by simp [isWoken])
      rw [hwaiters] at hin
      obtain rfl | hrest := List.mem_cons.mp hin
      · simp [hhead] at hne
      · exact h.first _ (by rw [hwaiters]; exact hrest)
  all_goals
    rename_i hstate
    cases hresume
    refine ⟨?_, hmem hstate, fun s => ?_, nofun, fun _ => ?_⟩
    · split
      · exact h.remove
      · rename_i hfree
        exact h.remove.wakeUpFirst (by simpa [FairLock.remove] using hfree)
    · split <;> simp
    · split <;> simp [FairLock.remove]

end Sleeping
end FairLock
end Concurrent
