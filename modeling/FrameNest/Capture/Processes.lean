import FrameNest.Capture.Manager

/-! Manager processes over one journal. A call that has something to commit waits for the
journal, and the other processes move meanwhile; a commit may fail before or after it became
durable, and a process may be lost at any moment. -/
namespace FrameNest.Capture

inductive Outcome where
  | ok
  /-- Nothing became durable. -/
  | failed
  /-- The commit became durable, its acknowledgement was lost. -/
  | lost
deriving DecidableEq

/-- A call between the commits it makes. -/
structure Running where
  request : Request
  moment : Moment
  began : Memory
  memory : Memory
  /-- The pair whose commit was last acknowledged to the process. -/
  base : Published
  /-- Some commit of the call was acknowledged. -/
  published : Bool
  write : Write
  later : List Write
  reply : Reply
  lastHello : Option Int

inductive Process where
  | idle (memory : Memory)
  | busy (call : Running)
  | gone

def Process.waiting? : Process → Option Memory
  | .idle memory => some memory
  | _ => none

/-- A call that has ended, with the epoch of the journal at that moment. -/
structure Ended where
  process : Nat
  request : Request
  moment : Moment
  began : Memory
  outcome : Except BridgeError Reply
  after : Memory
  epoch : Option String

structure World where
  journal : Journal
  processes : List Process
  /-- Every pair a commit made durable, in their order. -/
  durable : List Published
  calls : List Ended

inductive Move where
  | call (n : Nat) (request : Request) (moment : Moment)
  | commit (n : Nat) (outcome : Outcome)
  | crash (n : Nat)
  | start (moment : Moment) (outcome : Outcome)

def World.empty : World := ⟨.empty, [], [], []⟩

/-- A commit as the manager sees it: the journal afterwards, and whether it was acknowledged. -/
def Journal.attempt (j : Journal) (p : Published) (expected : Option String) (o : Outcome) :
    Journal × Bool :=
  match o, j.commit p expected with
  | .ok, some next => (next, true)
  | .lost, some next => (next, false)
  | _, _ => (j, false)

namespace World
variable (b : Bridge) (w : World)

/- What the journal made durable now, if it did. -/
def made (p : Published) (expected : Option String) (o : Outcome) : List Published :=
  match o, w.journal.commit p expected with
  | .failed, _ => []
  | _, some _ => [p]
  | _, none => []

def finish (n : Nat) (request : Request) (moment : Moment) (began : Memory)
    (outcome : Except BridgeError Reply) (after : Memory) : World :=
  { w with
    processes := w.processes.set n (.idle after)
    calls := w.calls ++ [⟨n, request, moment, began, outcome, after, w.journal.epoch⟩] }

/-- A call begins: it ends at once unless it has something to commit. -/
def call (n : Nat) (request : Request) (moment : Moment) (memory : Memory) : World :=
  match plan b moment request memory with
  | .error e => w.finish n request moment memory (.error e) memory
  | .ok plan =>
    match plan.writes with
    | [] => w.finish n request moment memory (.ok plan.reply)
        { memory with lastHello := plan.lastHello }
    | write :: later =>
      if memory.unavailable then
        w.finish n request moment memory (.error journalUnavailable) memory
      else
        { w with processes := w.processes.set n (.busy ⟨request, moment, memory,
          { memory with jobs := write.held.jobs, service := write.held.service }, memory.published,
          false, write, later, plan.reply, plan.lastHello⟩) }

/-- The commit a call waits for. -/
def commit (n : Nat) (o : Outcome) (c : Running) : World :=
  let expected := some c.memory.service.epoch
  let answer := w.journal.attempt c.write.pair expected o
  let w := { w with
    journal := answer.1
    durable := w.durable ++ w.made c.write.pair expected o }
  let memory := if answer.2 then
      { c.memory with jobs := c.write.pair.jobs, service := c.write.pair.service }
    else { c.memory with unavailable := true }
  if answer.2 then
    match c.later with
    | [] => w.finish n c.request c.moment c.began (.ok c.reply) { memory with lastHello := c.lastHello }
    | write :: later =>
      { w with processes := w.processes.set n (.busy { c with
        memory := { memory with jobs := write.held.jobs, service := write.held.service }
        base := c.write.pair
        published := true
        write := write
        later := later }) }
  else w.finish n c.request c.moment c.began (.error journalUnavailable) memory

/-- A process starts: the writer lock is held from the load to the commit of the new epoch. -/
def start (moment : Moment) (o : Outcome) : World :=
  let found := w.journal.load
  match recovery moment found.1 found.2 with
  | .error _ => { w with processes := w.processes ++ [.gone] }
  | .ok p =>
    let answer := w.journal.attempt p w.journal.epoch o
    { w with
      journal := answer.1
      durable := w.durable ++ w.made p w.journal.epoch o
      processes := w.processes ++
        [if answer.2 then .idle ⟨p.jobs, p.service, false, none⟩ else .gone] }

def move (mv : Move) : World :=
  match mv with
  | .call n request moment =>
    match w.processes[n]? with
    | some (.idle memory) => w.call b n request moment memory
    | _ => w
  | .commit n o =>
    match w.processes[n]? with
    | some (.busy c) => w.commit n o c
    | _ => w
  | .crash n => { w with processes := w.processes.set n .gone }
  | .start moment o => w.start moment o

/-- The world after a run from the empty journal. -/
def after (moves : List Move) : World := moves.foldl (fun w mv => w.move b mv) .empty

end World

end FrameNest.Capture
