import FrameNest.Capture.Journal

/-! The job manager. A call holds the lock: what it commits and what it answers is fixed when
it begins, and each commit is published before the next one is tried. -/
namespace FrameNest.Capture
open Plain

/-- The readings and draws of one call, each by its place in the call, and the project file. -/
structure Moment where
  clock : Nat → Int
  wall : Nat → Int
  uuid : Nat → Uuid
  token : String
  project : String → Option Project

/- What an ask may not change under its request identity. -/
structure Immutable where
  prompt : String
  timeoutS : Int
  newChat : Bool
  project : Option String

/-- The settings of a manager, and the digests of JSON texts. -/
structure Bridge where
  stallAfter : Int
  cancelGrace : Int
  connectedWindow : Int
  window_nonneg : 0 ≤ connectedWindow
  fingerprint : Immutable → String
  digest : Delivery → String

structure Memory where
  jobs : List Job
  service : Service
  unavailable : Bool
  lastHello : Option Int

def Memory.published (mem : Memory) : Published := ⟨mem.jobs, mem.service⟩

/-- One commit: what memory holds while the journal works, and what is to be published. -/
structure Write where
  held : Published
  pair : Published

structure Plan where
  writes : List Write
  reply : Reply
  lastHello : Option Int

/- A call that commits nothing, and one that commits once. -/
def Memory.answer (mem : Memory) (reply : Reply) : Plan := ⟨[], reply, mem.lastHello⟩
def Memory.commit (mem : Memory) (pair : Published) (reply : Reply) : Plan :=
  ⟨[⟨mem.published, pair⟩], reply, mem.lastHello⟩

def journalUnavailable (step : String := "lifecycle") : BridgeError :=
  failure "E_JOURNAL_UNAVAILABLE" step 503

variable (b : Bridge) (m : Moment)

/-- `_connected_locked`. -/
def Memory.connected (mem : Memory) (now : Int) : Bool :=
  mem.lastHello.any fun last => 0 ≤ now - last && now - last ≤ b.connectedWindow

/-! Recovery. -/

/- The wait of a job whose offer is out ends with the process. -/
def Job.settleWait (job : Job) (i : Nat) : Job :=
  match job.adminStartedWall with
  | some started => { job with
      adminWait := job.adminWait + max 0 (min adminWaitMax (m.wall (4 * i) - started))
      adminStarted := none
      adminStartedWall := none }
  | none => job

/- The wait of a queued job goes on under the new clock. -/
def Job.carryWait (job : Job) (i : Nat) : Job :=
  match job.adminStartedWall with
  | some started => { job with
      adminWait := job.adminWait + max 0 (m.wall (4 * i + 1) - started)
      adminStarted := some (m.clock (3 * i))
      adminStartedWall := some (m.wall (4 * i + 2)) }
  | none => job

/-- What a restart makes of a queued job. -/
def Job.requeue (job : Job) (i : Nat) : Job :=
  let elapsed := m.wall (4 * i) - job.createdWall
  let carried := job.carryWait m i
  let activeElapsed := elapsed - carried.adminWait
  if adminWaitMax ≤ carried.adminWait then
    carried.terminate (m.clock (3 * i + 1)) (m.wall (4 * i + 3)) "E_INTERVENTION_TIMEOUT" "recovery"
  else if elapsed < 0 ∨ job.timeoutS * second ≤ activeElapsed then
    carried.terminate (m.clock (3 * i + 1)) (m.wall (4 * i + 3)) "E_RESPONSE_TIMEOUT" "recovery"
  else { carried with
    deadlineMono := m.clock (3 * i + 1) + job.timeoutS * second - max 0 activeElapsed
    lastProgressMono := m.clock (3 * i + 2) }

/-- What a restart makes of a job, and whether it blocks the service. -/
def Job.recover (job : Job) (i : Nat) : Job × Bool :=
  if job.status.inFlight then
    ((job.settleWait m i).terminate (m.clock (3 * i)) (m.wall (4 * i + 1)) "E_AMBIGUOUS_SEND"
      "recovery", true)
  else if job.status = .queued then (job.requeue m i, job.adminStartedWall.isSome)
  else (job, false)

def recoverJobs (i : Nat) : List Job → List Job × Bool
  | [] => ([], false)
  | job :: rest =>
    let first := job.recover m i
    let others := recoverJobs (i + 1) rest
    (first.1 :: others.1, first.2 || others.2)

/- The checks of the records that were loaded. -/
def loadable (jobs : List Job) (previous : Option Service) : Bool :=
  jobs.length ≤ jobRetentionMaxItems && previous.all (fun s => identity s.epoch) &&
    (jobs.map (·.jobId)).Nodup && (jobs.map (·.requestId)).Nodup &&
    jobs.all fun j => identity j.requestId

/-- `__init__`, up to the commit of the new epoch. -/
def recovery (jobs : List Job) (previous : Option Service) : Except BridgeError Published :=
  if loadable jobs previous then
    let n := jobs.length
    let recovered := recoverJobs m 0 jobs
    let blocked := previous.any (·.state.blocked) || recovered.2
    .ok {
      jobs := prune (m.wall (4 * n)) recovered.1
      service := {
        epoch := (m.uuid 0).text
        state := if blocked then .needsAdmin else .starting
        reason := if blocked then some "E_AMBIGUOUS_SEND" else none
        runnerId := none
        browserSession := none
        adapter := none
        interventionId := if blocked then some (m.uuid 1).text else none
        resumeId := none } }
  else .error (journalUnavailable "recovery")

/-! `hello`. -/

inductive HelloState where
  | ready | needsAdmin | browserUnavailable
deriving DecidableEq

def Readiness.known? (r : Readiness) : Option HelloState :=
  match r.state with
  | .value "ready" => some .ready
  | .value "needs_admin" => some .needsAdmin
  | .value "browser_unavailable" => some .browserUnavailable
  | _ => none

def adminReasons : List String :=
  ["E_LOGIN_REQUIRED", "E_CAPTCHA_REQUIRED", "E_CONSENT_REQUIRED", "E_LIMIT_REACHED",
    "E_COMPOSER_NOT_FOUND", "E_NEEDS_ADMIN"]

/- The reason a runner gives, where it is a known one. -/
def Readiness.known (r : Readiness) : String :=
  (r.reason.text?.filter fun reason =>
    reason ∈ adminReasons ++ ["E_BROWSER_UNAVAILABLE", "E_AMBIGUOUS_SEND"]).getD "E_NEEDS_ADMIN"

def Hello.capable (p : Hello) : Bool :=
  match p.capabilities with
  | .absent => true
  | .mistyped => false
  | .value l => l.all (fun x => x = "durable_submission" || x = "admin_resume") && l.length ≤ 2

/-- What is known of a hello before the lock is taken. -/
structure KnownHello where
  runnerId : String
  browserSession : String
  state : HelloState
  reason : String
  resumeId : Field String

def Hello.check (p : Hello) : Except BridgeError KnownHello :=
  if p.proto ≠ .value protoVersion then .error (failure "E_PROTO_MISMATCH" "hello" 400)
  else if p.client ≠ .absent ∧ p.client ≠ .value "headless" then
    .error (failure "E_INTERNAL" "hello" 400)
  else
    match p.runnerId.identity?, p.browserSession.identity? with
    | some runnerId, some browserSession =>
      if p.capable then
        match p.readiness with
        | .value r =>
          match r.known? with
          | some state => .ok ⟨runnerId, browserSession, state, r.known, p.resumeId⟩
          | none => .error (failure "E_INTERNAL" "hello" 400)
        | _ => .error (failure "E_INTERNAL" "hello" 400)
      else .error (failure "E_INTERNAL" "hello" 400)
    | _, _ => .error (failure "E_INTERNAL" "hello" 400)

/-- The loop over the jobs of a runner or browser that is gone. `state` is the working copy of
the service record; a commit installs this very object, so that from then on memory shows
every change made to it. -/
structure Losing where
  jobs : List Job
  state : Service
  installed : Bool
  writes : List Write

/- The service record memory shows. -/
def Losing.shown (l : Losing) (service : Service) : Service := if l.installed then l.state else service

def Losing.lose (l : Losing) (service : Service) (job : Job) (i : Nat) : Losing :=
  if job.status.inFlight then
    let ended := job.terminate (m.clock (i + 1)) (m.wall i) "E_AMBIGUOUS_SEND" "runner_lost"
    let state := l.state.block "E_AMBIGUOUS_SEND" false (m.uuid i)
    { jobs := put l.jobs ended
      state := state
      installed := true
      writes := l.writes ++
        [⟨⟨l.jobs, { l with state := state }.shown service⟩, ⟨put l.jobs ended, state⟩⟩] }
  else l

def Losing.loseAll (l : Losing) (service : Service) (i : Nat) : List Job → Losing
  | [] => l
  | job :: rest => (l.lose m service job i).loseAll service (i + 1) rest

/-- The record of a service that is not ready. A resume that was asked for stays pending until
its own check is answered. -/
def Service.refuse (state : Service) (p : KnownHello) (i : Nat) : Service :=
  let blocked := state.block p.reason (p.state = .browserUnavailable) (m.uuid i)
  if p.resumeId.is state.resumeId then blocked else { blocked with resumeId := state.resumeId }

/-- A queued job waits meanwhile. -/
def Job.hold (job : Job) (reason : String) (i : Nat) : Job :=
  match job.adminStarted with
  | some _ => { job with interventionReason := some reason }
  | none => { job with
      adminStarted := some (m.clock (i + 1))
      adminStartedWall := some (m.wall i)
      interventionId := some (m.uuid (i + 1)).text
      interventionReason := some reason }

def notReady (p : KnownHello) (state : Service) (queued : Option Job) (i : Nat) :
    Service × Option Job :=
  match queued with
  | none => (state.refuse m p i, none)
  | some job =>
    ({ state.refuse m p i with interventionId := (job.hold m p.reason i).interventionId },
      some (job.hold m p.reason i))

/-- The wait of a queued job ends. -/
def Job.readmit (job : Job) (i : Nat) : Job :=
  match job.adminStarted with
  | some started =>
    let waited := max 0 (m.clock (i + 1) - started)
    if adminWaitMax ≤ job.adminWait + waited then
      job.terminate (m.clock (i + 2)) (m.wall i) "E_INTERVENTION_TIMEOUT" "intervention"
    else { job with
      adminWait := job.adminWait + waited
      deadlineMono := job.deadlineMono + waited
      adminStarted := none
      adminStartedWall := none
      interventionId := none
      interventionReason := none }
  | none => job

def Service.ready (s : Service) : Service :=
  { s with state := .ready, reason := none, interventionId := none, resumeId := none }

/- Readiness counts at the start, or as the answer to the resume that is pending. -/
def admits (p : KnownHello) (state : Service) (active : Option Job) : Bool :=
  state.state = .starting ||
    (active.all (fun j => j.status = .queued) && state.resumeId.isSome && p.resumeId.is state.resumeId)

def nowReady (p : KnownHello) (state : Service) (active queued : Option Job) (i : Nat) :
    Service × Option Job :=
  if admits p state active then
    let readmitted := queued.map fun job => job.readmit m i
    (if readmitted.all (fun j => j.status = .queued) then state.ready else state, readmitted)
  else (state, queued)

def putAll (jobs : List Job) (job : Option Job) : List Job := job.elim jobs (put jobs)

def Memory.changedRunner (mem : Memory) (p : KnownHello) : Bool :=
  mem.service.runnerId.any (· ≠ p.runnerId)

def Memory.changedBrowser (mem : Memory) (p : KnownHello) : Bool :=
  mem.service.browserSession.any (· ≠ p.browserSession)

/- What the loop of a hello leaves. -/
def lostRunner (p : KnownHello) (mem : Memory) : Losing :=
  let start : Losing := ⟨mem.jobs, mem.service, false, []⟩
  if mem.changedRunner p || mem.changedBrowser p then start.loseAll m mem.service 0 mem.jobs
  else start

def Service.register (s : Service) (p : KnownHello) : Service :=
  { s with
    runnerId := some p.runnerId
    browserSession := some p.browserSession
    adapter := some packVersion }

/-- The record and the queued job after a hello. -/
def greeted (p : KnownHello) (l : Losing) (i : Nat) : Service × Option Job :=
  let active := active? l.jobs
  let queued := active.filter fun j => j.status = .queued
  if p.state = .ready then nowReady m p (l.state.register p) active queued i
  else notReady m p (l.state.register p) queued i

def hello (payload : Hello) (mem : Memory) : Except BridgeError Plan :=
  match payload.check with
  | .error e => .error e
  | .ok p =>
    if mem.changedRunner p && mem.connected b (m.clock 0) then .error (failure "E_BUSY" "hello")
    else
      let l := lostRunner m p mem
      let next := greeted m p l mem.jobs.length
      .ok {
        writes := l.writes ++ [⟨⟨l.jobs, { l with state := next.1 }.shown mem.service⟩,
          ⟨putAll l.jobs next.2, next.1⟩⟩]
        reply := .hello (control next.1 none)
        lastHello := some (m.clock (mem.jobs.length + 3)) }

/-! `create_job`. -/

/- REMOVED_MODES. -/
def removedMode (mode : String) : String :=
  if mode = "web_search" then "E_WEB_SEARCH_UNAVAILABLE"
  else if mode = "deep_research" then "E_DEEP_RESEARCH_UNAVAILABLE"
  else "E_INTERNAL"

/-- The request and what identifies it, if they may be admitted. -/
def JobRequest.admissible (r : JobRequest) : Option (String × Immutable) :=
  match r.requestId.identity?, r.prompt with
  | some requestId, .value prompt =>
    let timeoutS := match r.timeoutS with
      | .absent => some defaultAskTimeoutS
      | .mistyped => none
      | .value t => some t
    let newChat := match r.newChat with
      | .absent => some true
      | .mistyped => none
      | .value c => some c
    match timeoutS, newChat with
    | some t, some c =>
      if strip prompt ≠ "" ∧ 1 ≤ t ∧ t ≤ maxAskTimeoutS ∧ r.project ≠ .mistyped ∧
          r.project ≠ .value "" then
        some (requestId, ⟨prompt, t, c, r.project.text?⟩)
      else none
    | _, _ => none
  | _, _ => none

def JobRequest.check (r : JobRequest) : Except BridgeError (String × Immutable) :=
  if r.kind ≠ .absent ∧ r.kind ≠ .value "ask" then .error (failure "E_INTERNAL" "kind" 400)
  else
    match r.mode with
    | .value mode => .error ⟨removedMode mode, "mode", 400⟩
    | .mistyped => .error ⟨"E_INTERNAL", "mode", 400⟩
    | .absent =>
      match r.files with
      | .mistyped => .error (failure "E_INTERNAL" "files" 400)
      | .value (_ :: _) => .error ⟨"E_UPLOAD_FAILED", "upload", 400⟩
      | _ =>
        match r.admissible with
        | some admitted => .ok admitted
        | none => .error (failure "E_INTERNAL" "admission" 400)

/- The project of a new job, where its name is configured. -/
def projectOf (name : Option String) : Except BridgeError (Option Project) :=
  match name with
  | none => .ok none
  | some name =>
    match m.project name with
    | some project =>
      if project.url = "" then .error (failure "E_PROJECT_NOT_CONFIGURED" "admission" 400)
      else .ok (some project)
    | none => .error (failure "E_PROJECT_NOT_CONFIGURED" "admission" 400)

def newJob (requestId : String) (ask : Immutable) (project : Option Project) : Job :=
  { jobId := m.token
    requestId := requestId
    fingerprint := b.fingerprint ask
    prompt := ask.prompt
    newChat := ask.newChat
    timeoutS := ask.timeoutS
    project := project
    createdWall := m.wall 1
    deadlineMono := m.clock 1 + ask.timeoutS * second
    lastProgressMono := m.clock 1 : Job }.event "status" none none

/-- Why no job is admitted. -/
def refusal (mem : Memory) : Option BridgeError :=
  if mem.unavailable then some journalUnavailable
  else if (active? mem.jobs).isSome then some (failure "E_BUSY" "admission")
  else if mem.service.state = .needsAdmin then some (failure "E_NEEDS_ADMIN" "admission" 503)
  else if mem.service.state ≠ .ready ∨ mem.connected b (m.clock 0) = false then
    some (failure "E_BROWSER_UNAVAILABLE" "admission" 503)
  else if jobRetentionMaxItems ≤ (prune (m.wall 0) mem.jobs).length then
    some (failure "E_SERVICE_LIMIT" "admission" 429)
  else none

def createJob (r : JobRequest) (mem : Memory) : Except BridgeError Plan :=
  match r.check with
  | .error e => .error e
  | .ok (requestId, ask) =>
    match mem.jobs.find? fun j => j.requestId = requestId with
    | some original =>
      if original.fingerprint = b.fingerprint ask then .ok (mem.answer (.job original))
      else .error (failure "E_IDEMPOTENCY_CONFLICT" "admission")
    | none =>
      match refusal b m mem with
      | some e => .error e
      | none =>
        match projectOf m ask.project with
        | .error e => .error e
        | .ok project =>
          let job := newJob b m requestId ask project
          .ok (mem.commit ⟨put (prune (m.wall 0) mem.jobs) job, mem.service⟩ (.job job))

/-! The calls of a runner. -/

/-- `_runner`. -/
def runnerError (mem : Memory) (runnerId epoch : Field String) : Option BridgeError :=
  if runnerId.is mem.service.runnerId = false ∨ epoch.is (some mem.service.epoch) = false ∨
      mem.connected b (m.clock 0) = false then some (failure "E_AMBIGUOUS_SEND" "identity")
  else if mem.unavailable then some journalUnavailable
  else none

/-- `_fence`. -/
def fenceError (mem : Memory) (job : Job) (e : Envelope) : Option BridgeError :=
  match runnerError b m mem e.runnerId e.epoch with
  | some error => some error
  | none =>
    if e.runnerId.is job.runnerId = false ∨ e.offerId.is job.offerId = false ∨
        e.epoch.is job.epoch = false then some (failure "E_AMBIGUOUS_SEND" "offer")
    else none

/-- The offer of a job that is queued and not paused. -/
def Job.offer (job : Job) (runnerId epoch : Field String) : Job :=
  { job with
    status := .offered
    phase := "offered"
    runnerId := runnerId.text?
    epoch := epoch.text?
    offerId := some (m.uuid 0).text
    lastProgressMono := m.clock 1 }.event "status" none none

def Job.offerable (job : Job) : Bool := job.status = .queued && job.adminStarted.isNone

/-- One look of `next_offer`; the call looks again when it is woken. -/
def nextOffer (kind : String) (runnerId epoch : Field String) (mem : Memory) :
    Except BridgeError Plan :=
  if kind ≠ "headless" then .error (failure "E_INTERNAL" "next" 400)
  else
    match runnerError b m mem runnerId epoch with
    | some e => .error e
    | none =>
      if mem.service.state = .ready then
        match mem.jobs.find? Job.offerable with
        | some original =>
          let job := original.offer m runnerId epoch
          .ok (mem.commit ⟨put mem.jobs job, mem.service⟩ (.offer (some job)))
        | none => .ok (mem.answer (.offer none))
      else .ok (mem.answer (.offer none))

def missing : BridgeError := ⟨"E_INTERNAL", "job", 404⟩

/- PHASES. -/
def phases : List String :=
  ["queued", "offered", "accepted", "project", "new_chat", "tab_ready", "composed", "sent",
    "observing", "cleanup", "project_warning", "cleanup_warning"]

/-- `needs_admin` of a runner. -/
def Job.pause (job : Job) (reason : String) (i : Nat) : Job :=
  { job with
    status := .needsAdmin
    interventionId := some (m.uuid (2 * i)).text
    interventionReason := some reason
    adminStarted := some (m.clock (2 * i + 1))
    adminStartedWall := some (m.wall i) }

/-- `resumed` of a runner. -/
def Job.unpause (job : Job) (state : Service) (i : Nat) : Job × Service :=
  let waited := max 0 (m.clock (2 * i + 1) - job.adminStarted.getD 0)
  if adminWaitMax ≤ job.adminWait + waited then
    (job.terminate (m.clock (2 * i + 2)) (m.wall i) "E_INTERVENTION_TIMEOUT" "intervention", state)
  else
    ({ job with
        adminWait := job.adminWait + waited
        deadlineMono := job.deadlineMono + waited
        adminStarted := none
        adminStartedWall := none
        status := .running
        interventionId := none
        interventionReason := none }, state.ready)

/-- One event of a batch, but for the entry it leaves in the job. -/
def applyEvent (i : Nat) (type : Field String) (data : EventData) (job : Job) (state : Service) :
    Except BridgeError (Job × Service) :=
  match type with
  | .value "status" =>
    if data.status = .value "accepted" then
      if job.status = .offered then .ok ({ job with status := .running, phase := "accepted" }, state)
      else .error (failure "E_AMBIGUOUS_SEND" "accept")
    else .error (failure "E_INTERNAL" "events" 400)
  | .value "send_intent" =>
    if job.status ≠ .running ∨ job.submission ≠ .notStarted ∨ job.cancelRequested = true ∨
        state.state ≠ .ready then .error (failure "E_AMBIGUOUS_SEND" "send")
    else if job.deadlineMono ≤ m.clock (2 * i + 1) then .error (failure "E_RESPONSE_TIMEOUT" "send")
    else .ok ({ job with submission := .sendIntentPersisted, phase := "sent" }, state)
  | .value "send_confirmed" =>
    match data.responseId.identity? with
    | some response =>
      if job.submission = .sendIntentPersisted then
        .ok ({ job with submission := .sendConfirmed, responseId := some response }, state)
      else .error (failure "E_AMBIGUOUS_SEND" "send")
    | none => .error (failure "E_AMBIGUOUS_SEND" "send")
  | .value "needs_admin" =>
    match data.reason.text?.filter (· ∈ adminReasons) with
    | some reason =>
      if job.status ≠ .running then .error (failure "E_INTERNAL" "intervention" 400)
      else if job.submission = .sendIntentPersisted then
        .error (failure "E_AMBIGUOUS_SEND" "intervention")
      else
        let paused := job.pause m reason i
        .ok (paused, { state.block reason false (m.uuid (2 * i + 1)) with
          interventionId := paused.interventionId })
    | none => .error (failure "E_INTERNAL" "intervention" 400)
  | .value "resumed" =>
    if job.status ≠ .needsAdmin ∨ state.resumeId = none ∨ data.resumeId.is state.resumeId = false ∨
        data.interventionId.is job.interventionId = false ∨ data.ready = false ∨
        (job.submission = .sendConfirmed ∧ data.responseId.is job.responseId = false) then
      .error (failure "E_AMBIGUOUS_SEND" "resume")
    else .ok (job.unpause m state i)
  | .value "progress" =>
    match data.phase.text?.filter (· ∈ phases) with
    | some phase => .ok ({ job with phase := phase }, state)
    | none => .error (failure "E_INTERNAL" "progress" 400)
  | .value "heartbeat" => .ok (job, state)
  | _ => .error (failure "E_INTERNAL" "events" 400)

def applyEvents (i : Nat) : List EventIn → Job → Service → Except BridgeError (Job × Service)
  | [], job, state => .ok (job, state)
  | .malformed :: _, _, _ => .error (failure "E_INTERNAL" "events" 400)
  | .event type data :: rest, job, state =>
    match applyEvent m i type data job state with
    | .error e => .error e
    | .ok (job, state) =>
      applyEvents (i + 1) rest (job.event (type.text?.getD "") (some job.phase) none) state

def appendEvents (jobId : String) (events : Field (List EventIn)) (e : Envelope) (mem : Memory) :
    Except BridgeError Plan :=
  match events with
  | .value batch =>
    if eventsPerCallMax < batch.length then .error (failure "E_INTERNAL" "events" 400)
    else
      match find? mem.jobs jobId with
      | none => .error missing
      | some job =>
        match fenceError b m mem job e with
        | some error => .error error
        | none =>
          if job.status.terminal then
            .ok (mem.answer (.events none (control mem.service (some job))))
          else
            match applyEvents m 0 batch job mem.service with
            | .error error => .error error
            | .ok (job, state) =>
              let job := { job with lastProgressMono := m.clock (2 * batch.length + 1) }
              .ok (mem.commit ⟨put mem.jobs job, state⟩
                (.events (some job.submission) (control state (some job))))
  | _ => .error (failure "E_INTERNAL" "events" 400)

/-! The calls of an administrator. -/

def resume (p : ResumeRequest) (mem : Memory) : Except BridgeError Plan :=
  let active := active? mem.jobs
  let intervention := (active.bind (·.interventionId)).or mem.service.interventionId
  if mem.service.state.blocked = false ∨ intervention = none ∨
      p.jobId.is (active.map (·.jobId)) = false ∨ p.interventionId.is intervention = false then
    .error (failure "E_IDEMPOTENCY_CONFLICT" "resume")
  else
    let resumeId := mem.service.resumeId.getD (m.uuid 0).text
    .ok (mem.commit ⟨mem.jobs, { mem.service with resumeId := some resumeId }⟩
      (.readinessPending resumeId))

/- `errors.ERROR_CODES`. -/
def errorCodes : List String :=
  ["E_BROWSER_UNAVAILABLE", "E_NEEDS_ADMIN", "E_SERVICE_LIMIT", "E_IDEMPOTENCY_CONFLICT",
    "E_AMBIGUOUS_SEND", "E_JOURNAL_UNAVAILABLE", "E_PROTO_MISMATCH", "E_NO_TAB", "E_TAB_GONE",
    "E_LOGIN_REQUIRED", "E_CAPTCHA_REQUIRED", "E_CONSENT_REQUIRED", "E_LIMIT_REACHED",
    "E_COMPOSER_NOT_FOUND", "E_INPUT_FAILED", "E_SEND_NOT_READY", "E_SEND_FAILED",
    "E_UPLOAD_FAILED", "E_ATTACHMENT_MISSING", "E_RESPONSE_TIMEOUT", "E_RESPONSE_EMPTY",
    "E_RESULT_TOO_LARGE", "E_STALL", "E_FILE_MISSING", "E_FILE_TOO_LARGE", "E_BUSY",
    "E_CANCELLED", "E_INTERVENTION_TIMEOUT", "E_PROJECT_NOT_CONFIGURED",
    "E_PROJECT_UNAVAILABLE", "E_WEB_SEARCH_UNAVAILABLE", "E_DEEP_RESEARCH_UNAVAILABLE",
    "E_CONVERSATION_UNAVAILABLE", "E_INTERNAL"]

/-- The end a delivery gives a job. -/
def Job.deliver (job : Job) (d : Delivery) : Except BridgeError Job :=
  match d.status with
  | .value "done" =>
    if job.submission ≠ .sendConfirmed then .error (failure "E_AMBIGUOUS_SEND" "result")
    else
      match d.answer.text?.filter (strip · ≠ "") with
      | none => .error (failure "E_RESPONSE_EMPTY" "result" 400)
      | some answer =>
        if d.url = .mistyped then .error (failure "E_INTERNAL" "result" 400)
        else .ok { job with
          result := some ⟨some answer, none, none, d.url.text?⟩
          resultId := some job.jobId
          status := .done
          terminalWall := some (m.wall 0) }
  | .value "cancelled" => .ok (job.terminate (m.clock 1) (m.wall 0) "E_CANCELLED" "runner")
  | .value "failed" =>
    let code := (d.errorCode.text?.filter (· ∈ errorCodes)).getD "E_INTERNAL"
    .ok (job.terminate (m.clock 1) (m.wall 0) code "runner")
  | _ => .error (failure "E_INTERNAL" "result" 400)

def resolve (jobId : String) (d : Delivery) (mem : Memory) : Except BridgeError Plan :=
  match find? mem.jobs jobId with
  | none => .error missing
  | some job =>
    match fenceError b m mem job d.envelope with
    | some error => .error error
    | none =>
      match d.deliveryId.identity? with
      | none => .error (failure "E_INTERNAL" "result" 400)
      | some delivery =>
        if job.status.terminal then
          if job.deliveryId.isSome ∧ (job.deliveryId ≠ some delivery ∨
              job.deliveryDigest ≠ some (b.digest d)) then
            .error (failure "E_IDEMPOTENCY_CONFLICT" "result")
          else .ok (mem.answer (.status job.status))
        else
          match job.deliver m d with
          | .error error => .error error
          | .ok ended =>
            let job := { ended with
              deliveryId := some delivery
              deliveryDigest := some (b.digest d) }.event "status" none none
            let state := if d.activityStopped = false ∨
                (job.result.bind (·.errorCode)) = some "E_AMBIGUOUS_SEND" then
                mem.service.block "E_AMBIGUOUS_SEND" false (m.uuid 0)
              else mem.service
            .ok (mem.commit ⟨put mem.jobs job, state⟩ (.status job.status))

/-- What `cancel` makes of a job that has not ended. -/
def Job.cancel (job : Job) : Job :=
  if job.status = .queued then job.terminate (m.clock 0) (m.wall 0) "E_CANCELLED" "cancel"
  else if job.cancelRequested then job
  else { job with cancelRequested := true, cancelMono := m.clock 0 }

def cancel (jobId : String) (mem : Memory) : Except BridgeError Plan :=
  match find? mem.jobs jobId with
  | none => .error missing
  | some job =>
    if job.status.terminal then .ok (mem.answer (.status job.status))
    else .ok (mem.commit ⟨put mem.jobs (job.cancel m), mem.service⟩ (.status (job.cancel m).status))

/-! `watchdog`. -/

/-- Why the watchdog ends a job. -/
def Job.overdue (job : Job) (now : Int) : Option String :=
  if job.cancelRequested && decide (b.cancelGrace ≤ now - job.cancelMono) then some "E_CANCELLED"
  else
    match job.adminStarted with
    | some started =>
      if adminWaitMax ≤ job.adminWait + max 0 (now - started) then some "E_INTERVENTION_TIMEOUT"
      else none
    | none =>
      if job.deadlineMono ≤ now then some "E_RESPONSE_TIMEOUT"
      else if (job.status = .offered ∨ job.status = .running) ∧
          b.stallAfter < now - job.lastProgressMono then some "E_AMBIGUOUS_SEND"
      else none

/-- The pair after one round of the loop, if it commits. -/
def watch (p : Published) (job : Job) (i : Nat) : Option Published :=
  if job.status.terminal then none
  else
    match job.overdue b (m.clock 0) with
    | none => none
    | some code =>
      some {
        jobs := put p.jobs (job.terminate (m.clock (i + 1)) (m.wall i) code "watchdog")
        service := if job.status = .queued then p.service
          else p.service.block code false (m.uuid i) }

def watchAll (p : Published) (i : Nat) : List Job → Published × List Write
  | [] => (p, [])
  | job :: rest =>
    match watch b m p job i with
    | none => watchAll p (i + 1) rest
    | some q =>
      let later := watchAll q (i + 1) rest
      (later.1, ⟨p, q⟩ :: later.2)

def watchdog (mem : Memory) : Plan :=
  let watched := watchAll b m mem.published 0 mem.jobs
  let retained := prune (m.wall mem.jobs.length) watched.1.jobs
  if retained.length = watched.1.jobs.length then ⟨watched.2, .none, mem.lastHello⟩
  else ⟨watched.2 ++ [⟨watched.1, ⟨retained, watched.1.service⟩⟩], .none, mem.lastHello⟩

/-- What a call does, but for the commits it waits for. -/
def plan (r : Request) (mem : Memory) : Except BridgeError Plan :=
  match r with
  | .hello payload => hello b m payload mem
  | .createJob request => createJob b m request mem
  | .nextOffer kind runnerId epoch => nextOffer b m kind runnerId epoch mem
  | .appendEvents jobId events envelope => appendEvents b m jobId events envelope mem
  | .resume payload => resume m payload mem
  | .resolve jobId result => resolve b m jobId result mem
  | .cancel jobId => cancel m jobId mem
  | .watchdog => .ok (watchdog b m mem)

end FrameNest.Capture
