import FrameNest.Concurrent.Program
import FrameNest.Research.CostExactness
import FrameNest.Research.Checkpoint
import FrameNest.Research.Repository

/-! The research coordinator over its ports. Every repository, ledger, completion
and provider call is one atomic effect; the programs are the coordinator's methods. -/
namespace FrameNest.Research
open Plain Concurrent

/- What admission copies from the configuration. -/
structure ResearchSelectionSnapshot where
  profile : ServerSelectedProfile
  resourceLimits : ApprovedResourceLimits
  deadlineSeconds : Nat
  dailyBudgetUsdMicros : Nat
  monthlyBudgetUsdMicros : Nat

structure ResearchAdmissionReceipt where
  row : ResearchRequestRow
  newlyAdmitted : Bool

inductive Effect where
  | clockMs
  | newOperationId
  | submissionEnabled
  | select (kind : ResearchOperationKind)
  | admissionGuard (snapshot : ResearchSelectionSnapshot) (nowMs : Int)
  | accountingBlocker
  | findByClient (ownerLoginKey clientRequestId : String)
  | getRequest (operationId : String)
  | activeSlotOperationId
  | admitRow (row : ResearchRequestRow) (reservation : BudgetReservation)
  | save (row : ResearchRequestRow)
  | claimSubmission (operationId : String)
  | listCleanupPending (limit : Int)
  | reconcile (reconciliation : BudgetReconciliation)
  | complete (completion : ResultCompletion)
  | submit (request : ProviderRequest)
  | poll (handle : ProviderHandle)
  | cancel (handle : ProviderHandle)
  | releaseRemote (handle : ProviderHandle)

/- A refused selection is caught by its caller; every other error may be raised. -/
@[reducible] def Effect.Result : Effect → Type
  | .clockMs => Int
  | .newOperationId => String
  | .submissionEnabled => Bool
  | .select _ => Except ResearchErrorCode ResearchSelectionSnapshot
  | .admissionGuard _ _ => Option ResearchErrorCode
  | .accountingBlocker => Option ResearchErrorCode
  | .findByClient _ _ => Option ResearchRequestRow
  | .getRequest _ => Option ResearchRequestRow
  | .activeSlotOperationId => Option String
  | .admitRow _ _ => ResearchRequestRow
  | .save _ => ResearchRequestRow
  | .claimSubmission _ => Option ResearchRequestRow
  | .listCleanupPending _ => List ResearchRequestRow
  | .reconcile _ => BudgetHold
  | .complete _ => ResultCompletionReceipt
  | .submit _ => ProviderObservation
  | .poll _ => ProviderObservation
  | .cancel _ => ProviderObservation
  | .releaseRemote _ => CleanupOutcome

/- What the world answers one effect with. `fault` is an exception raised with
   nothing committed: a locked database, a broken connection. -/
structure Env where
  fault : Bool := false
  clockMs : Int := 0
  operationId : String := ""
  enabled : Bool := true
  selection : Except ResearchErrorCode ResearchSelectionSnapshot := .error .notConfigured
  guard : Option ResearchErrorCode := none
  observation : ProviderObservation := ⟨.pending, none, none, none, rfl⟩
  cleanup : CleanupOutcome := ⟨.deleted, none, deleted_complete, deleted_clean⟩
  documentId : String := ""
  recordId : String := ""

/- What the runtime is built over: the pricing it was given and two functions of
   the standard library. -/
structure ResearchRuntime where
  resolvePriceSchedule : String → String → String → Option UsagePriceSchedule
  sha256 : List Char → String
  casefold : String → String

def Env.answer (env : Env) (value : α) (s : ResearchState) : Except Failure α × ResearchState :=
  (if env.fault then .error .other else .ok value, s)

def Env.transact (env : Env) (t : Transaction α) (s : ResearchState) :
    Except Failure α × ResearchState :=
  if env.fault then (.error .other, s)
  else match t s with
  | .ok (value, s') => (.ok value, s')
  | .error x => (.error x, s)

def ResearchRuntime.exec (rt : ResearchRuntime) (env : Env) :
    (e : Effect) → ResearchState → Except Failure e.Result × ResearchState
  | .clockMs, s => (.ok env.clockMs, s)
  | .newOperationId, s => (.ok env.operationId, { s with issued := s.issued ++ [env.operationId] })
  | .submissionEnabled, s => (.ok env.enabled, s)
  | .select _, s => env.answer env.selection s
  | .admissionGuard _ _, s => env.answer env.guard s
  | .accountingBlocker, s => env.answer s.blocker s
  | .findByClient owner client, s => env.answer (s.findByClient owner client) s
  | .getRequest op, s => env.answer (s.request? op) s
  | .activeSlotOperationId, s => env.answer s.slot s
  | .admitRow row reservation, s => env.transact (admitRequest row reservation) s
  | .save row, s => env.transact (saveRequest row) s
  | .claimSubmission op, s => env.transact (claimSubmission op env.clockMs) s
  | .listCleanupPending limit, s => env.answer (s.listCleanupPending limit) s
  | .reconcile r, s => env.transact (reconcileTransaction r env.clockMs) s
  | .complete c, s =>
    env.transact (completeResult rt.casefold c env.clockMs env.documentId env.recordId) s
  | .submit request, s =>
    env.answer env.observation { s with submitted := s.submitted ++ [request.operationId] }
  | .poll _, s => env.answer env.observation s
  | .cancel _, s => env.answer env.observation s
  | .releaseRemote _, s => env.answer env.cleanup s

abbrev Coordinator (α : Type) := Program Effect Effect.Result Failure α

/- A port call whose exception ends the method, and one inside `try`. -/
abbrev call (e : Effect) : Coordinator e.Result := Program.perform e

abbrev tryCall (e : Effect) : Coordinator (Except Failure e.Result) := Program.attempt e

/- The version-2 fingerprint: owner, kind, prompt and consent, and nothing that a
   change of settings could move. -/
def kindText : ResearchOperationKind → String
  | .search => "search"
  | .research => "research"

def fingerprintPayload (ownerLoginKey : String) (kind : ResearchOperationKind)
    (prompt consentVersion : String) : Json :=
  .obj [("consent_version", .str consentVersion), ("fingerprint_version", .int 2),
    ("kind", .str (kindText kind)), ("owner", .str ownerLoginKey), ("prompt", .str prompt)]

theorem kindText_injective {kind kind' : ResearchOperationKind} (h : kindText kind = kindText kind') :
    kind = kind' := by
  cases kind <;> cases kind' <;> first | rfl | exact absurd h (by decide)

/-- The payload's text determines what was asked. -/
theorem fingerprintPayload_injective {owner owner' prompt prompt' consent consent' : String}
    {kind kind' : ResearchOperationKind}
    (h : (fingerprintPayload owner kind prompt consent).dumps =
      (fingerprintPayload owner' kind' prompt' consent').dumps) :
    owner = owner' ∧ kind = kind' ∧ prompt = prompt' ∧ consent = consent' := by
  -- member by member: what both texts share cancels, a quoted value determines itself
  simp only [fingerprintPayload, Json.dumps, Json.dumpsMembers, Json.separated, List.append_assoc,
    List.cons_append, List.cons.injEq, List.append_cancel_left_eq, true_and] at h
  obtain ⟨rfl, h⟩ := Json.quote_append_injective h
  simp only [List.cons.injEq, List.append_cancel_left_eq, true_and] at h
  obtain ⟨hkind, h⟩ := Json.quote_append_injective h
  simp only [List.cons.injEq, List.append_cancel_left_eq, true_and] at h
  obtain ⟨rfl, h⟩ := Json.quote_append_injective h
  simp only [List.cons.injEq, List.append_cancel_left_eq, true_and] at h
  obtain ⟨rfl, -⟩ := Json.quote_append_injective h
  exact ⟨rfl, kindText_injective hkind, rfl, rfl⟩

def legacyResearchProfileVersion : String := "3"

namespace ResearchRuntime
variable (rt : ResearchRuntime)

def fingerprint (ownerLoginKey : String) (kind : ResearchOperationKind)
    (prompt consentVersion : String) : String :=
  rt.sha256 (fingerprintPayload ownerLoginKey kind prompt consentVersion).dumps

def replayMatches (existing : ResearchRequestRow) (ownerLoginKey : String)
    (kind : ResearchOperationKind) (prompt consentVersion : String) : Bool :=
  if existing.ownerLoginKey ≠ ownerLoginKey then false
  else if existing.record.kind ≠ kind ∨ existing.record.prompt ≠ prompt then false
  else if existing.record.profile.configurationVersion = legacyResearchProfileVersion then true
  else existing.requestFingerprint = rt.fingerprint ownerLoginKey kind prompt consentVersion

end ResearchRuntime

/- The three constructors of an admission; `none` where one of them raises. -/
def admissionRecord? (operationId : String) (kind : ResearchOperationKind) (prompt : String)
    (snapshot : ResearchSelectionSnapshot) : Option ResearchRequestRecord :=
  if h : requireToken operationId 128 = true ∧ isBlank prompt = false ∧
      requirePositiveInt snapshot.deadlineSeconds maxResearchDeadlineSeconds = true then
    some
      { operationId, kind, prompt
        profile := snapshot.profile
        deadlineSeconds := snapshot.deadlineSeconds
        resourceLimits := snapshot.resourceLimits
        state := .admitted
        cleanupState := .notRequired
        accountingState := .reserved
        remoteHandle := none
        errorCode := none
        operationId_token := h.1
        prompt_nonblank := h.2.1
        deadline_bounded := h.2.2 }
  else none

def admissionRow (record : ResearchRequestRecord) (ownerLoginKey clientRequestId : String)
    (fingerprint : String) (nowMs : Int) : ResearchRequestRow where
  record := record
  ownerLoginKey := ownerLoginKey
  clientRequestId := clientRequestId
  requestFingerprint := fingerprint
  checkpointJson := none
  checkpointSha256 := none
  recordId := none
  createdAtMs := nowMs
  admittedAtMs := nowMs
  submittedAtMs := none
  finishedAtMs := none
  updatedAtMs := nowMs
  cancelRequestedAtMs := none
  cancellationConfirmedAtMs := none

def admissionReservation? (record : ResearchRequestRecord) (snapshot : ResearchSelectionSnapshot) :
    Option BudgetReservation :=
  if h : requirePositiveInt snapshot.dailyBudgetUsdMicros maxDailyBudgetMicroUsd = true ∧
      requirePositiveInt snapshot.monthlyBudgetUsdMicros maxMonthlyBudgetMicroUsd = true ∧
      snapshot.dailyBudgetUsdMicros ≤ snapshot.monthlyBudgetUsdMicros then
    some
      { operationId := record.operationId
        kind := record.kind
        reservedUsdMicros := record.profile.budgetReservationUsdMicros
        dailyLimitUsdMicros := snapshot.dailyBudgetUsdMicros
        monthlyLimitUsdMicros := snapshot.monthlyBudgetUsdMicros
        operationId_token := record.operationId_token
        reserved_bounded := record.profile.reservation_bounded
        daily_bounded := h.1
        monthly_bounded := h.2.1
        daily_le_monthly := h.2.2 }
  else none

/- The rows the coordinator writes, as `replace` builds them. -/
namespace ResearchRequestRow

def touched (row : ResearchRequestRow) (nowMs : Int) : ResearchRequestRow :=
  { row with updatedAtMs := nowMs }

def running (row : ResearchRequestRow) (handle : Option ProviderHandle) (nowMs : Int) :
    ResearchRequestRow :=
  { row with
    record := { row.record with
      state := .running
      remoteHandle := handle.or row.record.remoteHandle }
    submittedAtMs := some (match row.submittedAtMs with
      | none | some 0 => nowMs
      | some submitted => submitted)
    updatedAtMs := nowMs }

def validating (row : ResearchRequestRow) (handle : ProviderHandle) (checkpoint : Json)
    (checkpointSha256 : String) (nowMs : Int) : ResearchRequestRow :=
  { row with
    record := { row.record with state := .validating, remoteHandle := some handle }
    checkpointJson := some checkpoint
    checkpointSha256 := some checkpointSha256
    updatedAtMs := nowMs }

def cancelMarked (row : ResearchRequestRow) (nowMs : Int) : ResearchRequestRow :=
  { row with
    record := { row.record with state := .cancelRequested }
    cancelRequestedAtMs := some nowMs
    updatedAtMs := nowMs }

def confirmed (row : ResearchRequestRow) (confirmedAtMs updatedAtMs : Int) : ResearchRequestRow :=
  { row with cancellationConfirmedAtMs := some confirmedAtMs, updatedAtMs := updatedAtMs }

def cleaned (row : ResearchRequestRow) (cleanup : ResearchRemoteCleanupState) (nowMs : Int) :
    ResearchRequestRow :=
  { row with record := { row.record with cleanupState := cleanup }, updatedAtMs := nowMs }

/- Every caller of `_finish` keeps the handle. -/
def finished (row : ResearchRequestRow) (state : ResearchLifecycleState)
    (code : Option ResearchErrorCode) (accounting : ResearchAccountingState) (nowMs : Int) :
    ResearchRequestRow :=
  { row with
    record := { row.record with
      state := state
      errorCode := code
      cleanupState := if row.record.remoteHandle.isSome then .pending else .notRequired
      accountingState := accounting }
    finishedAtMs := some nowMs
    updatedAtMs := nowMs }

@[simp] theorem running_state (row : ResearchRequestRow) (handle : Option ProviderHandle)
    (nowMs : Int) : (row.running handle nowMs).state = .running := rfl

@[simp] theorem touched_state (row : ResearchRequestRow) (nowMs : Int) :
    (row.touched nowMs).state = row.state := rfl

@[simp] theorem validating_state (row : ResearchRequestRow) (handle : ProviderHandle)
    (checkpoint : Json) (sha : String) (nowMs : Int) :
    (row.validating handle checkpoint sha nowMs).state = .validating := rfl

@[simp] theorem cancelMarked_state (row : ResearchRequestRow) (nowMs : Int) :
    (row.cancelMarked nowMs).state = .cancelRequested := rfl

@[simp] theorem confirmed_state (row : ResearchRequestRow) (confirmedAtMs updatedAtMs : Int) :
    (row.confirmed confirmedAtMs updatedAtMs).state = row.state := rfl

@[simp] theorem cleaned_state (row : ResearchRequestRow) (cleanup : ResearchRemoteCleanupState)
    (nowMs : Int) : (row.cleaned cleanup nowMs).state = row.state := rfl

@[simp] theorem finished_state (row : ResearchRequestRow) (state : ResearchLifecycleState)
    (code : Option ResearchErrorCode) (accounting : ResearchAccountingState) (nowMs : Int) :
    (row.finished state code accounting nowMs).state = state := rfl

end ResearchRequestRow

/- The reconciliation a finished row sends to the ledger. -/
def finalReconciliation (row : ResearchRequestRow) (accounting : ResearchAccountingState)
    (usage : Option ResearchUsage) (cost : Option Nat) : BudgetReconciliation :=
  match accounting, usage, cost with
  | .reconciled, some usage, some cost =>
    ⟨row.operationId, some usage, some cost, .reconciled, row.record.operationId_token,
      fun _ => ⟨rfl, rfl⟩, nofun⟩
  | _, _, _ =>
    ⟨row.operationId, none, none, .unknown, row.record.operationId_token, nofun, fun _ => rfl⟩

def failedState (code : ResearchErrorCode) : ResearchLifecycleState :=
  if code = .incompleteResult then .incomplete else .failed

/- `_TERMINAL_BY_ERROR`, FAILED for every other code. -/
def terminalByError : ResearchErrorCode → ResearchLifecycleState
  | .refused => .refused
  | .incompleteResult => .incomplete
  | _ => .failed

namespace ResearchRuntime
variable (rt : ResearchRuntime)

def activeRow : Coordinator (Option ResearchRequestRow) := do
  match ← call .activeSlotOperationId with
  | none => pure none
  | some operationId => call (.getRequest operationId)

def finish (row : ResearchRequestRow) (state : ResearchLifecycleState)
    (code : Option ResearchErrorCode) (accounting : ResearchAccountingState)
    (usage : Option ResearchUsage) (cost : Option Nat) : Coordinator ResearchRequestRow := do
  let nowMs ← call .clockMs
  let saved ← call (.save (row.finished state code accounting nowMs))
  let _ ← call (.reconcile (finalReconciliation saved accounting usage cost))
  pure saved

def finishUnknown (row : ResearchRequestRow) (state : ResearchLifecycleState)
    (code : ResearchErrorCode) : Coordinator ResearchRequestRow :=
  finish row state (some code) .unknown none none

def scheduleFor (row : ResearchRequestRow) : Option UsagePriceSchedule :=
  rt.resolvePriceSchedule row.record.profile.providerId row.record.profile.modelId
    row.record.profile.configurationVersion

/- The terminal save of a completed result. -/
def finishSaved (current : ResearchRequestRow) (answer : ResearchAnswer) :
    Coordinator ResearchRequestRow :=
  match usageCostMicroUsdOrNone answer.usage (rt.scheduleFor current) with
  | none => finish current .saved none .unknown none none
  | some cost => finish current .saved none .reconciled answer.usage (some cost)

/- Whatever the completion raises, the validating checkpoint is kept for a retry. -/
def completionRetry (row : ResearchRequestRow) : Coordinator ResearchRequestRow := do
  let nowMs ← call .clockMs
  call (.save (row.touched nowMs))

def completeFromCheckpoint (row : ResearchRequestRow) (answer : ResearchAnswer) :
    Coordinator ResearchRequestRow :=
  match row.handle with
  | none => pure row
  | some handle =>
    if h : completionError answer.evidence = none then do
      match ← tryCall (.complete
          ⟨row.operationId, answer, handle, row.record.operationId_token, h⟩) with
      | .error _ => completionRetry row
      | .ok _ =>
        -- the completion owns the record binding, so the terminal save starts from a reload
        let current ← call (.getRequest row.operationId)
        rt.finishSaved (current.getD row) answer
    else completionRetry row

def acceptCompletion (row : ResearchRequestRow) (observation : ProviderObservation) :
    Coordinator ResearchRequestRow := do
  let nowMs ← call .clockMs
  if row.cancelRequestedAtMs.isSome then finishUnknown row .cancelled .cancelled
  else match observation.answer, observation.remoteHandle with
  | some answer, some handle =>
    match completionError answer.evidence with
    | some error => finishUnknown row (terminalByError error) error
    | none => do
      let checkpoint := answerCheckpoint answer
      let validating ← call (.save
        (row.validating handle checkpoint (rt.sha256 checkpoint.dumps) nowMs))
      rt.completeFromCheckpoint validating answer
  | _, _ => .fail .other

def applySubmitObservation (row : ResearchRequestRow) (observation : ProviderObservation) :
    Coordinator ResearchRequestRow := do
  let nowMs ← call .clockMs
  match observation.kind with
  | .pending | .running => call (.save (row.running observation.remoteHandle nowMs))
  | .complete => rt.acceptCompletion row observation
  | .refused => finishUnknown row .refused (observation.errorCode.getD .refused)
  | .failed =>
    let code := observation.errorCode.getD .providerUnavailable
    finishUnknown row (failedState code) code
  | .cancelled => finishUnknown row .cancelled .cancelled
  | .uncertain => finishUnknown row .submissionUnknown .submissionUnknown

def submitClaimed (claimed : ResearchRequestRow) : Coordinator ResearchRequestRow :=
  match ProviderRequest.ofRecord? claimed.record with
  | none => .fail .other
  | some request => do
    match ← tryCall (.submit request) with
    | .error _ => finishUnknown claimed .submissionUnknown .submissionUnknown
    | .ok observation => rt.applySubmitObservation claimed observation

def submitPending : Coordinator (Option ResearchRequestRow) := do
  let enabled ← call .submissionEnabled
  if enabled = false then pure none
  else match ← activeRow with
  | none => pure none
  | some row =>
    if row.state ≠ .admitted then pure none
    else match ← call (.claimSubmission row.operationId) with
    | none => pure none
    | some claimed => do
      let saved ← rt.submitClaimed claimed
      pure (some saved)

/- Classifies the active slot after a restart; never submits. -/
def recover : Coordinator (Option ResearchRequestRow) := do
  match ← activeRow with
  | none => pure none
  | some row =>
    if row.state = .submitting then do
      let saved ← finishUnknown row .submissionUnknown .submissionUnknown
      pure (some saved)
    else pure (some row)

def applyPollObservation (row : ResearchRequestRow) (observation : ProviderObservation)
    (nowMs : Int) : Coordinator ResearchRequestRow :=
  match observation.kind with
  | .pending | .running => call (.save (row.touched nowMs))
  | .complete => rt.acceptCompletion row observation
  | .refused => finishUnknown row .refused (observation.errorCode.getD .refused)
  | .failed =>
    let code := observation.errorCode.getD .providerUnavailable
    finishUnknown row (failedState code) code
  | .cancelled => finishUnknown row .cancelled .cancelled
  | .uncertain => pure row

def pollHandle (row : ResearchRequestRow) (handle : ProviderHandle) :
    Coordinator ResearchRequestRow := do
  let nowMs ← call .clockMs
  if (row.record.deadlineSeconds : Int) * 1000 ≤ nowMs - row.admittedAtMs then
    let _ ← tryCall (.cancel handle)
    finishUnknown row .timeout .timeout
  else match ← tryCall (.poll handle) with
  | .error _ => pure row
  | .ok observation => rt.applyPollObservation row observation nowMs

def pollOnce : Coordinator (Option ResearchRequestRow) := do
  match ← activeRow with
  | none => pure none
  | some row =>
    if row.state = .admitted ∨ row.state = .submitting then pure none
    else if row.state = .validating then
      match row.checkpointJson.bind answerFromCheckpoint with
      | none => pure (some row)
      | some answer => do
        let saved ← rt.completeFromCheckpoint row answer
        pure (some saved)
    else match row.handle with
    | none => pure none
    | some handle => do
      let saved ← rt.pollHandle row handle
      pure (some saved)

def applyCancelObservation (row : ResearchRequestRow) (observation : ProviderObservation) :
    Coordinator ResearchRequestRow :=
  match observation.kind with
  | .cancelled => do
    let saved ← finishUnknown row .cancelled .cancelled
    let confirmedAtMs ← call .clockMs
    let updatedAtMs ← call .clockMs
    call (.save (saved.confirmed confirmedAtMs updatedAtMs))
  | .complete => finishUnknown row .cancelled .cancelled
  | .refused => finishUnknown row .refused (observation.errorCode.getD .refused)
  | .failed =>
    let code := observation.errorCode.getD .providerUnavailable
    finishUnknown row (failedState code) code
  | .pending | .running | .uncertain => pure row

def cancelRemote (row : ResearchRequestRow) : Coordinator ResearchRequestRow :=
  match row.handle with
  | none => pure row
  | some handle => do
    match ← tryCall (.cancel handle) with
    | .error _ => pure row
    | .ok observation => applyCancelObservation row observation

def cancel (operationId : String) : Coordinator ResearchRequestRow := do
  match ← call (.getRequest operationId) with
  | none => .fail (.store .invalidRequest)
  | some row =>
    if row.terminal = true then pure row
    else do
      let nowMs ← call .clockMs
      if row.cancelRequestedAtMs.isSome then cancelRemote row
      else do
        let marked ← call (.save (row.cancelMarked nowMs))
        cancelRemote marked

def cleanupState : CleanupOutcome → ResearchRemoteCleanupState
  | ⟨.deleted, _, _, _⟩ => .deleted
  | ⟨.failed, _, _, _⟩ => .failed
  | _ => .unknown

def releaseEach : List ResearchRequestRow → Coordinator (List ResearchRequestRow)
  | [] => pure []
  | row :: rest =>
    match row.handle with
    | none => releaseEach rest
    | some handle => do
      match ← tryCall (.releaseRemote handle) with
      | .error _ => releaseEach rest
      | .ok outcome => do
        let nowMs ← call .clockMs
        let saved ← call (.save (row.cleaned (cleanupState outcome) nowMs))
        let released ← releaseEach rest
        pure (saved :: released)

def releaseRemotePending (limit : Int) : Coordinator (List ResearchRequestRow) := do
  let rows ← call (.listCleanupPending limit)
  releaseEach rows

/- Admission once no request of this client is known: blocker, selection, guard,
   then the admission transaction. -/
def admitNew (ownerLoginKey clientRequestId : String) (kind : ResearchOperationKind)
    (prompt consentVersion : String) : Coordinator ResearchAdmissionReceipt := do
  match ← call .accountingBlocker with
  | some code => .fail (.store code)
  | none =>
    match ← call (.select kind) with
    | .error code => .fail (.store code)
    | .ok snapshot =>
      let nowMs ← call .clockMs
      match ← call (.admissionGuard snapshot nowMs) with
      | some code => .fail (.store code)
      | none =>
        let operationId ← call .newOperationId
        match admissionRecord? operationId kind prompt snapshot with
        | none => .fail .other
        | some record =>
          match admissionReservation? record snapshot with
          | none => .fail .other
          | some reservation =>
            let fingerprint := rt.fingerprint ownerLoginKey kind prompt consentVersion
            let stored ← call (.admitRow
              (admissionRow record ownerLoginKey clientRequestId fingerprint nowMs) reservation)
            pure ⟨stored, stored.operationId = record.operationId &&
              stored.requestFingerprint = fingerprint⟩

/- The idempotency lookup precedes every check an identical replay must survive. -/
def admitResearch (ownerLoginKey clientRequestId : String) (kind : ResearchOperationKind)
    (prompt consentVersion : String) : Coordinator ResearchAdmissionReceipt :=
  if isBlank prompt = true ∨ ownerLoginKey = "" ∨ clientRequestId = "" then
    .fail (.store .invalidRequest)
  else do
    match ← call (.findByClient ownerLoginKey clientRequestId) with
    | some existing =>
      if rt.replayMatches existing ownerLoginKey kind prompt consentVersion = true then
        pure ⟨existing, false⟩
      else .fail (.store .idempotencyConflict)
    | none => rt.admitNew ownerLoginKey clientRequestId kind prompt consentVersion

end ResearchRuntime
end FrameNest.Research
