import FrameNest.Text.Plain

/-! The records of the capture bridge: jobs, the service record, and the requests and
replies of its manager. Clock readings are integers, in nanoseconds. -/
namespace FrameNest.Capture
open Plain

def second : Int := 1000000000

/- ADMIN_WAIT_MAX_S, JOB_RETENTION_MAX_AGE_S, JOB_RETENTION_MAX_ITEMS, JOB_EVENT_MAX_ITEMS. -/
def adminWaitMax : Int := 1800 * second
def jobRetentionMaxAge : Int := 24 * 3600 * second
def jobRetentionMaxItems : Nat := 256
def jobEventMaxItems : Nat := 64

/- DEFAULT_ASK_TIMEOUT_S, MAX_ASK_TIMEOUT_S. -/
def defaultAskTimeoutS : Int := 600
def maxAskTimeoutS : Int := 3600

def protoVersion : Int := 1
def packVersion : Nat := 5
def eventsPerCallMax : Nat := 16

/-- `identity`: the canonical text of a UUID. -/
def identity (value : String) : Bool := isUuidText value

structure Uuid where
  text : String
  canonical : identity text = true

/-- What a request holds under a key. Null is `absent`, but where the default of the key is
not None: there it is of a wrong type. -/
inductive Field (α : Type) where
  | absent
  | mistyped
  | value (a : α)
deriving DecidableEq

/-- Python's `==` of a field and a stored optional text. -/
def Field.is (f : Field String) (stored : Option String) : Bool :=
  match f with
  | .absent => stored.isNone
  | .mistyped => false
  | .value a => stored = some a

def Field.text? : Field String → Option String
  | .value a => some a
  | _ => none

/-- The field, if it is a canonical UUID. -/
def Field.identity? (f : Field String) : Option String := f.text?.filter identity

structure BridgeError where
  code : String
  step : String
  status : Nat
deriving DecidableEq

def failure (code : String) (step : String := "lifecycle") (status : Nat := 409) : BridgeError :=
  ⟨code, step, status⟩

inductive JobStatus where
  | queued | offered | running | needsAdmin | done | failed | cancelled
deriving DecidableEq

/- ACTIVE_STATUSES, TERMINAL_STATUSES. -/
def JobStatus.active : JobStatus → Bool
  | queued | offered | running | needsAdmin => true
  | _ => false

def JobStatus.terminal (s : JobStatus) : Bool := !s.active

/- The offer of the job is out. -/
def JobStatus.inFlight : JobStatus → Bool
  | offered | running | needsAdmin => true
  | _ => false

inductive Submission where
  | notStarted | sendIntentPersisted | sendConfirmed
deriving DecidableEq

structure Project where
  name : String
  url : String
deriving DecidableEq

structure JobResult where
  answer : Option String
  errorCode : Option String
  step : Option String
  url : Option String
deriving DecidableEq

structure JobEvent where
  seq : Nat
  type : String
  phase : Option String
  status : JobStatus
  errorCode : Option String
deriving DecidableEq

structure Job where
  jobId : String
  requestId : String
  fingerprint : String
  prompt : String
  newChat : Bool
  timeoutS : Int
  project : Option Project
  status : JobStatus := .queued
  phase : String := "queued"
  events : List JobEvent := []
  result : Option JobResult := none
  resultId : Option String := none
  deliveryId : Option String := none
  deliveryDigest : Option String := none
  cancelRequested : Bool := false
  lastSeq : Nat := 0
  lastProgressMono : Int := 0
  deadlineMono : Int := 0
  cancelMono : Int := 0
  createdWall : Int := 0
  terminalWall : Option Int := none
  runnerId : Option String := none
  offerId : Option String := none
  epoch : Option String := none
  submission : Submission := .notStarted
  responseId : Option String := none
  interventionId : Option String := none
  interventionReason : Option String := none
  adminStarted : Option Int := none
  adminStartedWall : Option Int := none
  adminWait : Int := 0
deriving DecidableEq

inductive ServiceState where
  | starting | ready | needsAdmin | browserUnavailable
deriving DecidableEq

/- The states in which an administrator has to resume the service. -/
def ServiceState.blocked : ServiceState → Bool
  | needsAdmin | browserUnavailable => true
  | _ => false

structure Service where
  epoch : String
  state : ServiceState
  reason : Option String
  runnerId : Option String
  browserSession : Option String
  adapter : Option Nat
  interventionId : Option String
  resumeId : Option String
deriving DecidableEq

/-- What one commit of the journal makes durable. -/
structure Published where
  jobs : List Job
  service : Service
deriving DecidableEq

namespace Job

/-- `_event`. -/
def event (job : Job) (type : String) (phase errorCode : Option String) : Job :=
  { job with
    lastSeq := job.lastSeq + 1
    events := let all := job.events ++ [⟨job.lastSeq + 1, type, phase, job.status, errorCode⟩]
      all.drop (all.length - jobEventMaxItems) }

/-- `_terminal`. The clocks are read at `wall` and, where the job is paused, at `clock`. -/
def terminate (job : Job) (clock wall : Int) (code step : String) : Job :=
  let ended := { job with
    status := if code = "E_CANCELLED" then .cancelled else .failed
    result := some ⟨none, some code, some step, none⟩
    terminalWall := some wall }
  let counted := match job.adminStarted with
    | some started => { ended with
        adminWait := job.adminWait + max 0 (clock - started)
        adminStarted := none
        adminStartedWall := none }
    | none => ended
  counted.event "status" none (some code)

/-- The wait counted so far and the one going on. -/
def waited (job : Job) (now : Int) : Int :=
  job.adminWait + (match job.adminStarted with
    | some started => max 0 (now - started)
    | none => 0)

end Job

/-- `_block`. -/
def Service.block (s : Service) (reason : String) (browser : Bool) (fresh : Uuid) : Service :=
  { s with
    state := if browser then .browserUnavailable else .needsAdmin
    reason := some reason
    interventionId := some (s.interventionId.getD fresh.text)
    resumeId := none }

/-! The dictionary of jobs, in the order in which they were first stored. -/

def find? (jobs : List Job) (jobId : String) : Option Job := jobs.find? fun j => j.jobId = jobId

/-- `candidate[job.job_id] = job`. -/
def put (jobs : List Job) (job : Job) : List Job :=
  if (find? jobs job.jobId).isSome then jobs.map fun j => if j.jobId = job.jobId then job else j
  else jobs ++ [job]

/-- `_active`. -/
def active? (jobs : List Job) : Option Job := jobs.find? fun j => j.status.active

/-- `_prune_memory`: the jobs that are kept. -/
def Job.retained (wall : Int) (job : Job) : Bool :=
  !(job.status.terminal && job.terminalWall.any fun at_ => at_ ≤ wall - jobRetentionMaxAge)

def prune (wall : Int) (jobs : List Job) : List Job := jobs.filter (Job.retained wall)

/-! Requests. -/

structure Readiness where
  state : Field String
  reason : Field String

structure Hello where
  proto : Field Int
  client : Field String
  runnerId : Field String
  browserSession : Field String
  capabilities : Field (List String)
  readiness : Field Readiness
  resumeId : Field String

structure JobRequest where
  kind : Field String
  mode : Field String
  prompt : Field String
  files : Field (List String)
  timeoutS : Field Int
  newChat : Field Bool
  project : Field String
  requestId : Field String

/-- The runner, offer and epoch a delivery is sent under. -/
structure Envelope where
  runnerId : Field String
  offerId : Field String
  epoch : Field String

structure EventData where
  status : Field String := .absent
  responseId : Field String := .absent
  reason : Field String := .absent
  resumeId : Field String := .absent
  interventionId : Field String := .absent
  ready : Bool := false
  phase : Field String := .absent

/-- An event of a batch; an entry that is no object, or has no object of data, is `malformed`. -/
inductive EventIn where
  | malformed
  | event (type : Field String) (data : EventData)

structure ResumeRequest where
  jobId : Field String
  interventionId : Field String

structure Delivery where
  envelope : Envelope
  deliveryId : Field String
  status : Field String
  answer : Field String
  url : Field String
  errorCode : Field String
  activityStopped : Bool

inductive Request where
  | hello (payload : Hello)
  | createJob (request : JobRequest)
  | nextOffer (kind : String) (runnerId epoch : Field String)
  | appendEvents (jobId : String) (events : Field (List EventIn)) (envelope : Envelope)
  | resume (payload : ResumeRequest)
  | resolve (jobId : String) (result : Delivery)
  | cancel (jobId : String)
  | watchdog

/-! Replies. -/

structure Control where
  epoch : String
  serviceState : ServiceState
  resumeId : Option String
  interventionId : Option String
  cancelRequested : Bool
  terminal : Bool
deriving DecidableEq

/-- `_control`. -/
def control (s : Service) (job : Option Job) : Control where
  epoch := s.epoch
  serviceState := s.state
  resumeId := s.resumeId
  interventionId := match job with
    | some j => j.interventionId
    | none => s.interventionId
  cancelRequested := job.any (·.cancelRequested)
  terminal := job.any (·.status.terminal)

inductive Reply where
  | hello (c : Control)
  | job (job : Job)
  | offer (job : Option Job)
  /-- The submission is missing from the reply about a job that had ended. -/
  | events (submission : Option Submission) (c : Control)
  | readinessPending (resumeId : String)
  | status (s : JobStatus)
  | none
deriving DecidableEq

end FrameNest.Capture
