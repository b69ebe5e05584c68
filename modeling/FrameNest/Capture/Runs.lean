import FrameNest.Capture.Recovery
import FrameNest.Concurrent.Leases

/-! Runs of manager processes. Whatever fails or is lost, a process that may still commit works
on the durable pair, and each commit follows from it. -/
namespace FrameNest.Capture
open Fencing

/-- The pair a process may still replace. -/
def Process.copy : Process → Option Published
  | .idle mem => if mem.unavailable then none else some mem.published
  | .busy c => some c.base
  | .gone => none

namespace World

def copies (w : World) (n : Nat) : Option Published := (w.processes[n]?).bind Process.copy

def last (w : World) : Option Published := w.durable.getLast?

/- A call whose commit the journal is asked for. -/
structure Waits (c : Running) : Prop where
  available : c.memory.unavailable = false
  jobs : c.memory.jobs = c.write.held.jobs
  service : c.memory.service = c.write.held.service
  chain : Chain c.moment c.base (c.write :: c.later)
  fresh : c.published = false → c.base = c.began.published ∧ c.write.held = c.began.published

structure Inv (w : World) : Prop where
  stored : match w.last with
    | none => w.journal = .empty
    | some p => w.journal.Holds p
  orderly : ∀ p ∈ w.durable, Orderly p
  fenced : Fenced (fun p : Published => p.service.epoch) w.copies w.last
  known : ∀ n p, w.copies n = some p → p ∈ w.durable
  waits : ∀ (n : Nat) (c : Running), w.processes[n]? = some (.busy c) → Waits c

end World

/-- The draws of a move are new: a token that no job has had, an epoch the journal never had. -/
def Move.Fresh (w : World) : Move → Prop
  | .call _ _ m => ∀ p ∈ w.durable, m.token ∉ p.jobs.map (·.jobId)
  | .start m _ => ∀ p ∈ w.durable, p.service.epoch ≠ (m.uuid 0).text
  | _ => True

/-- Runs from the empty journal. -/
inductive Reachable (b : Bridge) (allowed : World → Move → Prop) : World → Prop
  | empty : Reachable b allowed .empty
  | move {w : World} (h : Reachable b allowed w) {mv : Move} (hfresh : mv.Fresh w)
      (hallowed : allowed w mv) : Reachable b allowed (w.move b mv)

namespace World
variable {b : Bridge} {w : World}

def publish (w : World) (j : Journal) (p : Published) : World :=
  { w with journal := j, durable := w.durable ++ [p] }

def become (w : World) (n : Nat) (p : Process) : World :=
  { w with processes := w.processes.set n p }

/-- What one move does. -/
inductive Moved (b : Bridge) (w : World) : Move → World → Prop
  | still (mv : Move) : Moved b w mv w
  /-- A call that commits nothing. -/
  | answered {n : Nat} {r : Request} {m : Moment} {mem : Memory} {p : Plan}
      (hn : w.processes[n]? = some (.idle mem)) (hplan : plan b m r mem = .ok p)
      (hwrites : p.writes = []) : Moved b w (.call n r m)
        (w.finish n r m mem (.ok p.reply) { mem with lastHello := p.lastHello })
  | refused {n : Nat} {r : Request} {m : Moment} {mem : Memory} {e : BridgeError}
      (hn : w.processes[n]? = some (.idle mem))
      (hplan : plan b m r mem = .error e ∨ mem.unavailable = true ∧ e = journalUnavailable) :
      Moved b w (.call n r m) (w.finish n r m mem (.error e) mem)
  | began {n : Nat} {r : Request} {m : Moment} {mem : Memory} {p : Plan} {write : Write}
      {later : List Write} (hn : w.processes[n]? = some (.idle mem))
      (hplan : plan b m r mem = .ok p) (hwrites : p.writes = write :: later)
      (havailable : mem.unavailable = false) (hwaits : Waits ⟨r, m, mem,
        { mem with jobs := write.held.jobs, service := write.held.service }, mem.published, false,
        write, later, p.reply, p.lastHello⟩) :
      Moved b w (.call n r m) (w.become n (.busy ⟨r, m, mem,
        { mem with jobs := write.held.jobs, service := write.held.service }, mem.published, false,
        write, later, p.reply, p.lastHello⟩))
  /-- A commit is refused, or stops before anything is durable. -/
  | failed {n : Nat} {o : Outcome} {c : Running} (hn : w.processes[n]? = some (.busy c))
      (hrefused : o ≠ .ok ∨ w.journal.epoch ≠ some c.base.service.epoch) :
      Moved b w (.commit n o) (w.finish n c.request c.moment c.began (.error journalUnavailable)
        { c.memory with unavailable := true })
  | lost {n : Nat} {c : Running} {j : Journal} (hn : w.processes[n]? = some (.busy c))
      (hlast : w.last = some c.base) (hj : j.Holds c.write.pair) :
      Moved b w (.commit n .lost) ((w.publish j c.write.pair).finish n c.request c.moment c.began
        (.error journalUnavailable) { c.memory with unavailable := true })
  | published {n : Nat} {c : Running} {j : Journal} {write : Write} {later : List Write}
      (hn : w.processes[n]? = some (.busy c)) (hlast : w.last = some c.base)
      (hj : j.Holds c.write.pair) (hlater : c.later = write :: later) :
      Moved b w (.commit n .ok) ((w.publish j c.write.pair).become n (.busy { c with
        memory := { c.memory with jobs := write.held.jobs, service := write.held.service }
        base := c.write.pair
        published := true
        write := write
        later := later }))
  | acknowledged {n : Nat} {c : Running} {j : Journal} (hn : w.processes[n]? = some (.busy c))
      (hlast : w.last = some c.base) (hj : j.Holds c.write.pair) (hlater : c.later = []) :
      Moved b w (.commit n .ok) ((w.publish j c.write.pair).finish n c.request c.moment c.began
        (.ok c.reply) { c.memory with
          jobs := c.write.pair.jobs, service := c.write.pair.service, lastHello := c.lastHello })
  | crashed (n : Nat) : Moved b w (.crash n) (w.become n .gone)
  | opened {m : Moment} {p : Published} {j : Journal}
      (hfound : recovery m w.journal.load.1 w.journal.load.2 = .ok p) (hj : j.Holds p)
      (hfresh : ∀ q ∈ w.durable, q.service.epoch ≠ p.service.epoch) :
      Moved b w (.start m .ok) { w.publish j p with
        processes := w.processes ++ [.idle ⟨p.jobs, p.service, false, none⟩] }
  | openLost {m : Moment} {p : Published} {j : Journal}
      (hfound : recovery m w.journal.load.1 w.journal.load.2 = .ok p) (hj : j.Holds p)
      (hfresh : ∀ q ∈ w.durable, q.service.epoch ≠ p.service.epoch) :
      Moved b w (.start m .lost) { w.publish j p with processes := w.processes ++ [.gone] }
  | openFailed (m : Moment) (o : Outcome) :
      Moved b w (.start m o) { w with processes := w.processes ++ [.gone] }

/-! The journal answers as the durable pairs say. -/

/-- What the journal holds. -/
theorem Inv.load (h : w.Inv) : w.journal.load = match w.last with
    | none => ([], none)
    | some p => (p.jobs, some p.service) := by
  have hstored := h.stored
  cases hlast : w.last with
  | none =>
    rw [hlast] at hstored
    rw [hstored]
    rfl
  | some p =>
    rw [hlast] at hstored
    exact hstored.load

theorem last_mem {p : Published} (h : w.last = some p) : p ∈ w.durable := List.mem_of_getLast? h

/-- The commit of a call is refused by the fence, or follows from the pair it was made from. -/
theorem commit_cases (h : w.Inv) {n : Nat} {c : Running} (hn : w.processes[n]? = some (.busy c)) :
    (w.journal.epoch ≠ some c.base.service.epoch ∧
      w.journal.commit c.write.pair (some c.memory.service.epoch) = none) ∨
      ∃ j, w.journal.commit c.write.pair (some c.memory.service.epoch) = some j ∧
        w.last = some c.base ∧ j.Holds c.write.pair := by
  have hwaits := h.waits n c hn
  have hcopy : w.copies n = some c.base := by simp [copies, hn, Process.copy]
  obtain ⟨-, hepoch, hcommits, -⟩ := hwaits.chain
  have hheld : c.memory.service.epoch = c.base.service.epoch := by
    rw [hwaits.service]
    exact hepoch
  rw [hheld]
  by_cases hepochs : w.journal.epoch = some c.base.service.epoch
  · cases hlast : w.last with
    | none =>
      have hempty := h.stored
      rw [hlast] at hempty
      rw [hempty] at hepochs
      cases hepochs
    | some d =>
      have hholds := h.stored
      rw [hlast] at hholds
      have hcurrent : c.base = d := by
        refine h.fenced.current n c.base d hcopy hlast ?_
        rw [hholds.epoch] at hepochs
        exact (Option.some.inj hepochs).symm
      have horderly := h.orderly d (last_mem hlast)
      rw [← hcurrent] at horderly hholds
      obtain ⟨j, hj, hjholds⟩ := hholds.commit (hcommits.orderly horderly).keyed
        (hcommits.continues horderly.keyed)
      exact .inr ⟨j, hj, by rw [hcurrent], hjholds⟩
  · exact .inl ⟨hepochs, Journal.commit_fenced hepochs⟩

theorem call_moved (h : w.Inv) {n : Nat} {r : Request} {m : Moment} {mem : Memory}
    (hfresh : (Move.call n r m).Fresh w) (hn : w.processes[n]? = some (.idle mem)) :
    Moved b w (.call n r m) (w.call b n r m mem) := by
  unfold World.call
  split
  · rename_i e hplan
    exact .refused hn (.inl hplan)
  · rename_i p hplan
    split
    · rename_i hwrites
      exact .answered hn hplan hwrites
    · rename_i write later hwrites
      split
      · rename_i hunavailable
        exact .refused hn (.inr ⟨hunavailable, rfl⟩)
      · rename_i havailable
        have havailable : mem.unavailable = false := by simpa using havailable
        have hcopy : w.copies n = some mem.published := by
          simp [copies, hn, Process.copy, havailable]
        have hmem := h.known n _ hcopy
        have hplanned := plan_planned (h.orderly _ hmem) (hfresh _ hmem) hplan
        have hchain := hplanned.chain
        have hfirst := hplanned.first
        rw [hwrites] at hchain hfirst
        exact .began hn hplan hwrites havailable
          ⟨havailable, rfl, rfl, hchain, fun _ => ⟨rfl, hfirst write rfl⟩⟩

theorem commit_moved (h : w.Inv) {n : Nat} {c : Running} (o : Outcome)
    (hn : w.processes[n]? = some (.busy c)) : Moved b w (.commit n o) (w.commit n o c) := by
  rcases commit_cases h hn with ⟨hepoch, hnone⟩ | ⟨j, hj, hlast, hholds⟩
  · have hrefused : Moved b w (.commit n o) _ := .failed hn (.inr hepoch)
    cases o <;> simpa [World.commit, Journal.attempt, made, hnone] using hrefused
  · cases o with
    | failed =>
      have hrefused : Moved b w (.commit n .failed) _ := .failed hn (.inl (by simp))
      simpa [World.commit, Journal.attempt, made, hj] using hrefused
    | lost =>
      have hlost : Moved b w (.commit n .lost) _ := .lost hn hlast hholds
      simpa [World.commit, Journal.attempt, made, hj, publish] using hlost
    | ok =>
      cases hlater : c.later with
      | nil =>
        have hdone : Moved b w (.commit n .ok) _ := .acknowledged hn hlast hholds hlater
        simpa [World.commit, Journal.attempt, made, hj, publish, hlater] using hdone
      | cons write later =>
        have hnext : Moved b w (.commit n .ok) _ := .published hn hlast hholds hlater
        simpa [World.commit, Journal.attempt, made, hj, publish, become, hlater] using hnext

theorem Inv.loaded (h : w.Inv) : (∀ j ∈ w.journal.load.1, j.Sound) ∧
    ∀ j ∈ w.journal.load.1, ∀ i ∈ w.journal.load.1,
      j.status.active = true → i.status.active = true → j = i := by
  rw [h.load]
  cases hlast : w.last with
  | none => exact ⟨fun _ hj => (by cases hj), fun _ hj => (by cases hj)⟩
  | some p =>
    have horderly := h.orderly p (last_mem hlast)
    exact ⟨horderly.sound, horderly.single⟩

/-- A restart can commit what it has recovered. -/
theorem start_commit (h : w.Inv) {m : Moment} {p : Published}
    (hp : recovery m w.journal.load.1 w.journal.load.2 = .ok p) :
    ∃ j, w.journal.commit p w.journal.epoch = some j ∧ j.Holds p := by
  obtain ⟨hsound, hsingle⟩ := h.loaded
  obtain ⟨horderly, hcontinues⟩ := recovery_orderly hp hsound hsingle
  cases hlast : w.last with
  | some d =>
    have hholds := h.stored
    rw [hlast] at hholds
    rw [h.load, hlast] at hcontinues
    rw [hholds.epoch]
    exact hholds.commit horderly.keyed hcontinues
  | none =>
    have hempty := h.stored
    rw [hlast] at hempty
    have hloaded := h.load
    rw [hlast] at hloaded
    rw [hloaded] at hp
    have hjobs : p.jobs = [] := by
      rw [(recovery_ok hp).2.1]
      rfl
    rw [hempty]
    refine ⟨⟨[], some p.service⟩, ?_, by simp [hjobs], rfl⟩
    simp [Journal.commit, Journal.empty, Journal.epoch, hjobs]

theorem start_moved (h : w.Inv) {m : Moment} (o : Outcome) (hfresh : (Move.start m o).Fresh w) :
    Moved b w (.start m o) (w.start m o) := by
  unfold World.start
  dsimp only
  split
  · exact .openFailed m o
  · rename_i p hp
    obtain ⟨j, hj, hholds⟩ := start_commit h hp
    have hnew : ∀ q ∈ w.durable, q.service.epoch ≠ p.service.epoch := by
      rw [(recovery_ok hp).2.2.1]
      exact hfresh
    cases o with
    | ok =>
      have hopened : Moved b w (.start m .ok) _ := .opened hp hholds hnew
      simpa [Journal.attempt, made, hj, publish] using hopened
    | lost =>
      have hlost : Moved b w (.start m .lost) _ := .openLost hp hholds hnew
      simpa [Journal.attempt, made, hj, publish] using hlost
    | failed =>
      have hfailed : Moved b w (.start m .failed) _ := .openFailed m .failed
      simpa [Journal.attempt, made, hj] using hfailed

theorem move_moved (h : w.Inv) {mv : Move} (hfresh : mv.Fresh w) :
    Moved b w mv (w.move b mv) := by
  cases mv with
  | call n r m =>
    unfold World.move
    dsimp only
    split
    · rename_i mem hn
      exact call_moved h hfresh hn
    · exact .still _
  | commit n o =>
    unfold World.move
    dsimp only
    split
    · rename_i c hn
      exact commit_moved h o hn
    · exact .still _
  | crash n => exact .crashed n
  | start m o => exact start_moved h o hfresh

/-! Every move keeps the invariant. -/

theorem set_bind {β : Type} (f : Process → Option β) {l : List Process} {n : Nat} {p q : Process}
    (hn : l[n]? = some q) :
    (fun k => ((l.set n p)[k]?).bind f) =
      Function.update (fun k => (l[k]?).bind f) n (f p) := by
  have hlt : n < l.length := (List.getElem?_eq_some_iff.mp hn).1
  funext k
  by_cases hk : k = n
  · rw [hk, Function.update_self, List.getElem?_set_self hlt]
    rfl
  · rw [Function.update_of_ne hk, List.getElem?_set_ne (Ne.symm hk)]

theorem append_bind {β : Type} (f : Process → Option β) {l : List Process} {p : Process} :
    (fun k => ((l ++ [p])[k]?).bind f) =
      Function.update (fun k => (l[k]?).bind f) l.length (f p) := by
  funext k
  by_cases hk : k = l.length
  · rw [hk, Function.update_self, List.getElem?_concat_length]
    rfl
  · rw [Function.update_of_ne hk]
    rcases Nat.lt_or_gt_of_ne hk with hlt | hgt
    · rw [List.getElem?_append_left hlt]
    · rw [List.getElem?_eq_none (by simp; omega), List.getElem?_eq_none (by omega)]

theorem mem_set {l : List Process} {n k : Nat} {p q : Process} (h : (l.set n p)[k]? = some q) :
    q = p ∨ l[k]? = some q := by
  rw [List.getElem?_set] at h
  split at h
  · split at h
    · exact .inl (Option.some.inj h).symm
    · cases h
  · exact .inr h

/-- A process changes, and nothing becomes durable. -/
theorem Inv.set (h : w.Inv) {n : Nat} {p q : Process} {w' : World}
    (hn : w.processes[n]? = some q) (hcopy : p.copy = w.copies n ∨ p.copy = none)
    (hwaits : ∀ c : Running, p = .busy c → Waits c) (hprocesses : w'.processes = w.processes.set n p)
    (hjournal : w'.journal = w.journal) (hdurable : w'.durable = w.durable) : w'.Inv := by
  have hcopies : w'.copies = Function.update w.copies n p.copy := by
    unfold copies
    rw [hprocesses]
    exact set_bind _ hn
  have hlast : w'.last = w.last := by rw [last, last, hdurable]
  refine ⟨?_, hdurable ▸ h.orderly, ?_, fun k r hk => ?_, fun k c hk => ?_⟩
  · rw [hlast, hjournal]
    exact h.stored
  · rw [hcopies, hlast]
    rcases hcopy with hsame | hnone
    · rw [hsame, Function.update_eq_self]
      exact h.fenced
    · rw [hnone]
      exact h.fenced.drop n
  · rw [hdurable]
    rw [hcopies] at hk
    by_cases hkn : k = n
    · rw [hkn, Function.update_self] at hk
      rcases hcopy with hsame | hnone
      · exact h.known n r (hsame ▸ hk)
      · rw [hnone] at hk
        cases hk
    · rw [Function.update_of_ne hkn] at hk
      exact h.known k r hk
  · rw [hprocesses] at hk
    rcases mem_set hk with hp | hold
    · exact hwaits c hp.symm
    · exact h.waits k c hold

/-- The commit of a call becomes durable. -/
theorem Inv.publish (h : w.Inv) {n : Nat} {c : Running} {j : Journal} {p : Process} {w' : World}
    (hn : w.processes[n]? = some (.busy c)) (hlast : w.last = some c.base)
    (hj : j.Holds c.write.pair) (hcopy : p.copy = some c.write.pair ∨ p.copy = none)
    (hwaits : ∀ c' : Running, p = .busy c' → Waits c') (hprocesses : w'.processes = w.processes.set n p)
    (hjournal : w'.journal = j) (hdurable : w'.durable = w.durable ++ [c.write.pair]) : w'.Inv := by
  obtain ⟨-, -, hcommits, -⟩ := (h.waits n c hn).chain
  have hcopies : w'.copies = Function.update w.copies n p.copy := by
    unfold copies
    rw [hprocesses]
    exact set_bind _ hn
  have hbase : w.copies n = some c.base := by simp [copies, hn, Process.copy]
  have hlast' : w'.last = some c.write.pair := by simp [last, hdurable]
  have hfenced := h.fenced
  rw [hlast] at hfenced
  refine ⟨?_, fun q hq => ?_, ?_, fun k r hk => ?_, fun k c' hk => ?_⟩
  · rw [hlast', hjournal]
    exact hj
  · rw [hdurable] at hq
    rcases List.mem_append.mp hq with hq | hq
    · exact h.orderly q hq
    · rw [List.mem_singleton.mp hq]
      exact hcommits.orderly (h.orderly _ (last_mem hlast))
  · rw [hcopies, hlast']
    rcases hcopy with hsame | hnone
    · rw [hsame]
      exact hfenced.write hbase hcommits.epoch
    · rw [hnone]
      exact hfenced.write_lost hbase hcommits.epoch
  · rw [hdurable]
    rw [hcopies] at hk
    by_cases hkn : k = n
    · rw [hkn, Function.update_self] at hk
      rcases hcopy with hsame | hnone
      · rw [hsame] at hk
        cases hk
        simp
      · rw [hnone] at hk
        cases hk
    · rw [Function.update_of_ne hkn] at hk
      exact List.mem_append_left _ (h.known k r hk)
  · rw [hprocesses] at hk
    rcases mem_set hk with hp | hold
    · exact hwaits c' hp.symm
    · exact h.waits k c' hold

/-- A restart publishes what it recovered. -/
theorem Inv.open (h : w.Inv) {m : Moment} {q : Published} {j : Journal} {p : Process} {w' : World}
    (hq : recovery m w.journal.load.1 w.journal.load.2 = .ok q) (hj : j.Holds q)
    (hfresh : ∀ r ∈ w.durable, r.service.epoch ≠ q.service.epoch)
    (hcopy : p.copy = some q ∨ p.copy = none) (hbusy : ∀ c : Running, p ≠ .busy c)
    (hprocesses : w'.processes = w.processes ++ [p]) (hjournal : w'.journal = j)
    (hdurable : w'.durable = w.durable ++ [q]) : w'.Inv := by
  obtain ⟨hsound, hsingle⟩ := h.loaded
  obtain ⟨horderly, -⟩ := recovery_orderly hq hsound hsingle
  have hcopies : w'.copies = Function.update w.copies w.processes.length p.copy := by
    unfold copies
    rw [hprocesses]
    exact append_bind _
  have hlast' : w'.last = some q := by simp [last, hdurable]
  have hnew : ∀ k r, w.copies k = some r → r.service.epoch ≠ q.service.epoch := fun k r hk =>
    hfresh r (h.known k r hk)
  have hfree : w.copies w.processes.length = none := by simp [copies]
  refine ⟨?_, fun r hr => ?_, ?_, fun k r hk => ?_, fun k c hk => ?_⟩
  · rw [hlast', hjournal]
    exact hj
  · rw [hdurable] at hr
    rcases List.mem_append.mp hr with hr | hr
    · exact h.orderly r hr
    · rw [List.mem_singleton.mp hr]
      exact horderly
  · rw [hcopies, hlast']
    rcases hcopy with hsame | hnone
    · rw [hsame]
      exact h.fenced.take hnew
    · rw [hnone, ← hfree, Function.update_eq_self]
      exact h.fenced.take_lost hfree hnew
  · rw [hdurable]
    rw [hcopies] at hk
    by_cases hkn : k = w.processes.length
    · rw [hkn, Function.update_self] at hk
      rcases hcopy with hsame | hnone
      · rw [hsame] at hk
        cases hk
        simp
      · rw [hnone] at hk
        cases hk
    · rw [Function.update_of_ne hkn] at hk
      exact List.mem_append_left _ (h.known k r hk)
  · rw [hprocesses, List.getElem?_append] at hk
    split at hk
    · exact h.waits k c hk
    · rw [List.getElem?_singleton] at hk
      split at hk
      · exact absurd (Option.some.inj hk) (hbusy c)
      · cases hk

/-- What is left to do of a call that has more to commit. -/
theorem Waits.next {c : Running} (h : Waits c) {write : Write} {later : List Write}
    (hlater : c.later = write :: later) : Waits { c with
      memory := { c.memory with jobs := write.held.jobs, service := write.held.service }
      base := c.write.pair
      published := true
      write := write
      later := later } := by
  obtain ⟨-, -, -, hrest⟩ := h.chain
  exact ⟨h.available, rfl, rfl, hlater ▸ hrest, fun hp => (by cases hp)⟩

theorem Moved.inv (h : w.Inv) {mv : Move} {w' : World} (hm : Moved b w mv w') : w'.Inv := by
  cases hm with
  | still mv => exact h
  | answered hn hplan hwrites =>
    refine h.set hn (.inl ?_) (fun c hc => (by cases hc)) rfl rfl rfl
    simp [copies, hn, Process.copy, Memory.published]
  | refused hn hplan =>
    refine h.set hn (.inl ?_) (fun c hc => (by cases hc)) rfl rfl rfl
    simp [copies, hn]
  | began hn hplan hwrites havailable hwaits =>
    refine h.set hn (.inl ?_) (fun c hc => ?_) rfl rfl rfl
    · simp [copies, hn, Process.copy, havailable]
    · cases hc
      exact hwaits
  | failed hn hrefused => exact h.set hn (.inr rfl) (fun c hc => (by cases hc)) rfl rfl rfl
  | lost hn hlast hj =>
    exact h.publish hn hlast hj (.inr rfl) (fun c hc => (by cases hc)) rfl rfl rfl
  | published hn hlast hj hlater =>
    refine h.publish hn hlast hj (.inl rfl) (fun c hc => ?_) rfl rfl rfl
    cases hc
    exact (h.waits _ _ hn).next hlater
  | acknowledged hn hlast hj hlater =>
    refine h.publish hn hlast hj (.inl ?_) (fun c hc => (by cases hc)) rfl rfl rfl
    simp [Process.copy, (h.waits _ _ hn).available, Memory.published]
  | crashed n =>
    by_cases hn : n < w.processes.length
    · exact h.set (List.getElem?_eq_getElem hn) (.inr rfl) (fun c hc => (by cases hc)) rfl rfl rfl
    · have hsame : w.processes.set n .gone = w.processes := List.set_eq_of_length_le (by omega)
      rw [become, hsame]
      exact h
  | opened hfound hj hfresh =>
    exact h.open hfound hj hfresh (.inl rfl) (fun c hc => (by cases hc)) rfl rfl rfl
  | openLost hfound hj hfresh =>
    exact h.open hfound hj hfresh (.inr rfl) (fun c hc => (by cases hc)) rfl rfl rfl
  | openFailed m o =>
    have hcopies : copies { w with processes := w.processes ++ [.gone] } = w.copies := by
      have hfree : w.copies w.processes.length = Process.gone.copy := by simp [copies, Process.copy]
      exact (append_bind _).trans (Function.update_eq_self_iff.mpr hfree.symm)
    refine ⟨h.stored, h.orderly, hcopies ▸ h.fenced, fun k r hk => ?_, fun k c hk => ?_⟩
    · rw [hcopies] at hk
      exact h.known k r hk
    · have hk' : (w.processes ++ [.gone])[k]? = some (.busy c) := hk
      rw [List.getElem?_append] at hk'
      split at hk'
      · exact h.waits k c hk'
      · rw [List.getElem?_singleton] at hk'
        split at hk' <;> cases hk'

theorem Inv.empty : World.empty.Inv :=
  ⟨rfl, fun _ hp => (by cases hp), .none _ _, fun n p hp => (by simp [copies, World.empty] at hp),
    fun n c hn => (by simp [World.empty] at hn)⟩

end World

/-- The invariant holds of every run. -/
theorem Reachable.inv {b : Bridge} {allowed : World → Move → Prop} {w : World}
    (h : Reachable b allowed w) : w.Inv := by
  induction h with
  | empty => exact .empty
  | move h hfresh hallowed ih => exact (World.move_moved ih hfresh).inv ih

/-- A law that every move keeps. -/
theorem Reachable.induct {b : Bridge} {allowed : World → Move → Prop} {P : World → Prop}
    (hempty : P .empty)
    (hmove : ∀ {w : World} {mv : Move}, w.Inv → P w → mv.Fresh w → allowed w mv → P (w.move b mv))
    {w : World} (h : Reachable b allowed w) : P w := by
  induction h with
  | empty => exact hempty
  | move h hfresh hallowed ih => exact hmove h.inv ih hfresh hallowed

end FrameNest.Capture
