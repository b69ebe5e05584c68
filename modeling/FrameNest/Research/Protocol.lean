import FrameNest.Concurrent.Sequential
import FrameNest.Research.Coordinator

/-! What each coordinator method may ask of its ports, judged from the answers it
has received. Every law about interleavings and crashes starts from this. -/
namespace FrameNest.Research
open Concurrent

inductive Call where
  | admitResearch (ownerLoginKey clientRequestId : String) (kind : ResearchOperationKind)
      (prompt consentVersion : String)
  | submitPending
  | pollOnce
  | recover
  | cancel (operationId : String)
  | releaseRemotePending (limit : Int)
deriving DecidableEq

inductive CallResult where
  | receipt (receipt : ResearchAdmissionReceipt)
  | row (row : Option ResearchRequestRow)
  | rows (rows : List ResearchRequestRow)

def ResearchRuntime.program (rt : ResearchRuntime) : Call → Coordinator CallResult
  | .admitResearch owner client kind prompt consent => do
    let receipt ← rt.admitResearch owner client kind prompt consent
    pure (.receipt receipt)
  | .submitPending => do
    let row ← rt.submitPending
    pure (.row row)
  | .pollOnce => do
    let row ← rt.pollOnce
    pure (.row row)
  | .recover => do
    let row ← ResearchRuntime.recover
    pure (.row row)
  | .cancel operationId => do
    let row ← ResearchRuntime.cancel operationId
    pure (.row (some row))
  | .releaseRemotePending limit => do
    let rows ← ResearchRuntime.releaseRemotePending limit
    pure (.rows rows)

/- What an admission asks of its ports. -/
def Effect.admission : Effect → Bool
  | .clockMs | .newOperationId | .select _ | .admissionGuard _ _ | .accountingBlocker
  | .findByClient _ _ | .admitRow _ _ => true
  | _ => false

/- What one running call has learnt: the row it last read or wrote for each
   operation, the claim it won, the answer to its submission, the completion it made, whether it has saved a
   terminal state, and the steps of an admission. -/
structure Memory where
  call : Call
  slotRead : Option String := none
  seen : String → Option ResearchRequestRow := fun _ => none
  claimed : Option String := none
  sent : Bool := false
  observed : Option ProviderObservation := none
  completed : Option ResultCompletion := none
  closed : Bool := false
  checked : Option ResearchState := none
  found : Option (Option ResearchRequestRow) := none
  drawn : Option String := none
  granted : Option ResearchRequestRow := none
  refused : Option Failure := none

namespace Memory

def learn (g : Memory) (row : ResearchRequestRow) : Memory :=
  { g with seen := Function.update g.seen row.operationId (some row) }

def note (g : Memory) (s : ResearchState) : (e : Effect) → Except Failure e.Result → Memory
  | .newOperationId, .ok operationId => { g with drawn := some operationId }
  | .accountingBlocker, .ok none => { g with checked := some s }
  | .findByClient _ _, .ok found => { g with found := some found }
  | .getRequest _, .ok (some row) => g.learn row
  | .activeSlotOperationId, .ok slot => { g with slotRead := slot }
  | .admitRow _ _, .ok row => { g with granted := some row }
  | .admitRow _ _, .error x => { g with refused := some x }
  | .save _, .ok row => { g.learn row with closed := g.closed || row.terminal }
  | .claimSubmission _, .ok (some row) => { g.learn row with claimed := some row.operationId }
  | .listCleanupPending _, .ok rows =>
    { g with seen := fun op => (rows.find? fun row => row.operationId = op).or (g.seen op) }
  | .complete completion, .ok _ => { g with completed := some completion }
  | .submit _, .ok observation => { g with sent := true, observed := some observation }
  | .submit _, .error _ => { g with sent := true }
  | _, _ => g

@[simp] theorem learn_call (g : Memory) (row : ResearchRequestRow) :
    (g.learn row).call = g.call := rfl

@[simp] theorem learn_seen (g : Memory) (row : ResearchRequestRow) :
    (g.learn row).seen row.operationId = some row := by simp [learn]

/- The calls that act on the active slot's request. -/
def readsSlot (g : Memory) : Prop :=
  g.call = .submitPending ∨ g.call = .pollOnce ∨ g.call = .recover

/- A submission its caller claimed, or a polled request with a handle, up to the
   moment the caller completes or closes it. -/
def worksOn (g : Memory) (row : ResearchRequestRow) : Prop :=
  g.closed = false ∧ g.completed = none ∧ match g.call with
  | .submitPending => g.claimed = some row.operationId ∧
    (row.state = .submitting ∨ row.state = .validating)
  | .pollOnce => row.state ≠ .admitted ∧ row.state ≠ .submitting ∧ row.handle.isSome = true
  | _ => False

/- Which terminal state a caller may give the row it holds. -/
def concludes (g : Memory) (row : ResearchRequestRow) (state : ResearchLifecycleState) : Prop :=
  g.closed = false ∧ match g.call with
  | .recover => g.completed = none ∧ row.state = .submitting ∧ state = .submissionUnknown
  | .cancel operationId => g.completed = none ∧ operationId = row.operationId ∧
    row.terminal = false ∧ row.cancelRequestedAtMs.isSome = true ∧ row.handle.isSome = true ∧
    state ≠ .saved
  | .submitPending | .pollOnce =>
    (g.worksOn row ∧ row.state ≠ .validating ∧ state ≠ .saved) ∨
    (∃ completion, g.completed = some completion ∧ completion.operationId = row.operationId ∧
      state = .saved)
  | _ => False

end Memory

namespace ResearchRuntime
variable (rt : ResearchRuntime)

/- How a caller may rewrite the row `basis` it holds. -/
inductive SaveAllowed (g : Memory) (basis : ResearchRequestRow) : ResearchRequestRow → Prop
  | running (observation : ProviderObservation) (nowMs : Int) (hw : g.worksOn basis)
      (hs : basis.state = .submitting) (ho : g.observed = some observation)
      (hk : observation.kind = .pending ∨ observation.kind = .running) :
      SaveAllowed g basis (basis.running observation.remoteHandle nowMs)
  | touched (nowMs : Int) (hw : g.worksOn basis) (hs : basis.state ≠ .submitting) :
      SaveAllowed g basis (basis.touched nowMs)
  | validating (handle : ProviderHandle) (answer : ResearchAnswer) (nowMs : Int)
      (hw : g.worksOn basis) (hs : basis.state ≠ .validating)
      (hc : basis.cancelRequestedAtMs = none) (he : completionError answer.evidence = none) :
      SaveAllowed g basis (basis.validating handle (answerCheckpoint answer)
        (rt.sha256 (answerCheckpoint answer).dumps) nowMs)
  | finished (state : ResearchLifecycleState) (code : Option ResearchErrorCode)
      (accounting : ResearchAccountingState) (nowMs : Int)
      (ht : isTerminalLifecycle state = true) (hc : g.concludes basis state) :
      SaveAllowed g basis (basis.finished state code accounting nowMs)
  | cancelMarked (nowMs : Int) (ho : g.closed = false) (hg : g.call = .cancel basis.operationId)
      (ht : basis.terminal = false) (hc : basis.cancelRequestedAtMs = none) :
      SaveAllowed g basis (basis.cancelMarked nowMs)
  | confirmed (confirmedAtMs updatedAtMs : Int) (hg : g.call = .cancel basis.operationId)
      (ho : g.closed = true) (hs : basis.state = .cancelled)
      (hc : basis.cancelRequestedAtMs.isSome = true) :
      SaveAllowed g basis (basis.confirmed confirmedAtMs updatedAtMs)
  | cleaned (cleanup : ResearchRemoteCleanupState) (nowMs : Int)
      (hg : ∃ limit, g.call = .releaseRemotePending limit) (ht : basis.terminal = true)
      (hk : cleanup ≠ .notRequired) : SaveAllowed g basis (basis.cleaned cleanup nowMs)

/- The reconciliation that follows the terminal save of a completed answer. -/
def settlementOf (row : ResearchRequestRow) (answer : ResearchAnswer) : BudgetReconciliation :=
  match usageCostMicroUsdOrNone answer.usage (rt.scheduleFor row) with
  | none => finalReconciliation row .unknown none none
  | some cost => finalReconciliation row .reconciled answer.usage (some cost)

/- The admission a caller may request: built from its own arguments, one drawn id
   and one selected snapshot. -/
structure AdmitAllowed (g : Memory) (row : ResearchRequestRow) (reservation : BudgetReservation) where
  ownerLoginKey : String
  clientRequestId : String
  kind : ResearchOperationKind
  prompt : String
  consentVersion : String
  snapshot : ResearchSelectionSnapshot
  record : ResearchRequestRecord
  nowMs : Int
  call : g.call = .admitResearch ownerLoginKey clientRequestId kind prompt consentVersion
  found : g.found = some none
  fresh : g.granted = none ∧ g.refused = none
  checked : g.checked.isSome = true
  drawn : g.drawn = some record.operationId
  record_eq : admissionRecord? record.operationId kind prompt snapshot = some record
  row_eq : row = admissionRow record ownerLoginKey clientRequestId
    (rt.fingerprint ownerLoginKey kind prompt consentVersion) nowMs
  reservation_eq : admissionReservation? record snapshot = some reservation

def may (g : Memory) : Effect → Prop
  | .getRequest op => match g.call with
    | .cancel operationId => operationId = op
    | .submitPending | .pollOnce | .recover => g.slotRead = some op
    | _ => False
  | .admitRow row reservation => Nonempty (rt.AdmitAllowed g row reservation)
  | .save row => ∃ basis, g.seen row.operationId = some basis ∧ rt.SaveAllowed g basis row
  | .claimSubmission op => g.call = .submitPending ∧ g.slotRead = some op ∧ g.closed = false ∧
    g.claimed = none ∧ g.sent = false ∧ g.completed = none
  | .submit request => g.call = .submitPending ∧ g.claimed = some request.operationId ∧
    g.sent = false
  | .complete c => ∃ basis, g.seen c.operationId = some basis ∧ basis.state = .validating ∧
    g.worksOn basis ∧ basis.checkpointJson.bind answerFromCheckpoint = some c.answer
  | .reconcile r => ∃ row, g.seen r.operationId = some row ∧ row.terminal = true ∧
    g.closed = true ∧ match g.completed with
    | none => r = finalReconciliation row .unknown none none
    | some c => r = rt.settlementOf row c.answer
  | .listCleanupPending _ => ∃ limit, g.call = .releaseRemotePending limit
  | .activeSlotOperationId => g.slotRead = none ∧ g.readsSlot
  | .accountingBlocker | .newOperationId =>
    ∃ owner client kind prompt consent, g.call = .admitResearch owner client kind prompt consent
  | .findByClient owner client =>
    ∃ kind prompt consent, g.call = .admitResearch owner client kind prompt consent
  | _ => True

/- An admission calls nothing else, and nothing at all once it has its answer: a
   request found, a row granted or a transaction refused. -/
def mayStrictly (g : Memory) (e : Effect) : Prop :=
  rt.may g e ∧ ∀ owner client kind prompt consent,
    g.call = .admitResearch owner client kind prompt consent →
    e.admission = true ∧ g.granted = none ∧ g.refused = none ∧
      ∀ existing, g.found ≠ some (some existing)

def protocol (permits : Memory → Env → Effect → ResearchState → Prop) :
    Protocol Env Effect Effect.Result Failure ResearchState Memory where
  exec := rt.exec
  note := Memory.note
  permits := permits
  may := rt.may

end ResearchRuntime
end FrameNest.Research
