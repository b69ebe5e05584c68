import FrameNest.Research.Documents
import FrameNest.Research.Budget

/-! The research tables and their transactions. A transaction that raises is rolled
back: its error carries no state. -/
namespace FrameNest.Research
open Relational

abbrev RequestTable := Table ResearchRequestRow.operationId

/- `submitted` and `issued` are logs outside the database: the operations whose
   submission reached the provider, and the operation ids drawn so far. -/
structure ResearchState where
  requests : RequestTable
  activeSlot : Option (String × Int)
  holds : HoldTable
  documents : DocumentTable
  records : RecordTable
  submitted : List String
  issued : List String

abbrev Transaction (α : Type) := ResearchState → Except Failure (α × ResearchState)

namespace ResearchState

def empty : ResearchState := ⟨.empty, none, .empty, .empty, .empty, [], []⟩

def request? (s : ResearchState) (operationId : String) : Option ResearchRequestRow :=
  s.requests.find? operationId

def slot (s : ResearchState) : Option String := s.activeSlot.map Prod.fst

def terminalRequest (s : ResearchState) (operationId : String) : Bool :=
  (s.request? operationId).any ResearchRequestRow.terminal

def updateRequest (s : ResearchState) (operationId : String)
    (f : ResearchRequestRow → ResearchRequestRow)
    (hf : ∀ row, (f row).operationId = row.operationId) : ResearchState :=
  { s with requests := s.requests.update operationId f hf }

theorem request?_updateRequest {s : ResearchState} {op : String}
    (f : ResearchRequestRow → ResearchRequestRow)
    (hf : ∀ row, (f row).operationId = row.operationId) (op' : String) :
    (s.updateRequest op f hf).request? op' =
      if op = op' then (s.request? op').map f else s.request? op' :=
  Table.find?_update f hf op'

theorem request?_operationId {s : ResearchState} {op : String} {row : ResearchRequestRow}
    (h : s.request? op = some row) : row.operationId = op := Table.find?_key h

def blocker (s : ResearchState) : Option ResearchErrorCode :=
  blockingAccountingState s.holds s.terminalRequest

def findByClient (s : ResearchState) (ownerLoginKey clientRequestId : String) :
    Option ResearchRequestRow :=
  s.requests.rows.find? fun row =>
    row.ownerLoginKey = ownerLoginKey && row.clientRequestId = clientRequestId

/- ORDER BY updated_at_ms, operation_id. -/
def cleanupOrder (a b : ResearchRequestRow) : Bool :=
  a.updatedAtMs < b.updatedAtMs ||
    (a.updatedAtMs = b.updatedAtMs && !(b.operationId < a.operationId))

def listCleanupPending (s : ResearchState) (limit : Int) : List ResearchRequestRow :=
  ((s.requests.rows.filter fun row => row.record.cleanupState = .pending && row.handle.isSome &&
    row.terminal).mergeSort cleanupOrder).take limit.toNat

end ResearchState
open ResearchState

def insertRequest (requests : RequestTable) (row : ResearchRequestRow) : Option RequestTable :=
  if row.insertAccepted && row.updateAccepted then requests.insert? row.persisted else none

def admitRequest (row : ResearchRequestRow) (reservation : BudgetReservation) :
    Transaction ResearchRequestRow := fun s =>
  if reservation.operationId ≠ row.operationId ∨
      reservation.reservedUsdMicros ≠ row.record.profile.budgetReservationUsdMicros then
    .error (.store .invalidRequest)
  else match s.findByClient row.ownerLoginKey row.clientRequestId with
  | some existing =>
    if existing.requestFingerprint = row.requestFingerprint then .ok (existing, s)
    else .error (.store .idempotencyConflict)
  | none =>
    if s.activeSlot.isSome then .error (.store .busy)
    else match insertRequest s.requests row with
    | none => .error .other
    | some requests =>
      match reserveHold s.holds reservation true row.admittedAtMs with
      | .error x => .error x
      | .ok (_, holds) => .ok (row, { s with
          requests, holds
          activeSlot := some (row.operationId, row.admittedAtMs) })

def saveRequest (row : ResearchRequestRow) : Transaction ResearchRequestRow := fun s =>
  match s.request? row.operationId with
  | none => .error (.store .storage)
  | some stored =>
    if (stored.overwrite row).updateAccepted then
      .ok (row, { s.updateRequest row.operationId (·.overwrite row) (fun _ => rfl) with
        activeSlot :=
          if row.terminal = true ∧ s.slot = some row.operationId then none else s.activeSlot })
    else .error .other

def ResearchRequestRow.claimed (row : ResearchRequestRow) (nowMs : Int) : ResearchRequestRow :=
  { row with record := { row.record with state := .submitting }, updatedAtMs := nowMs }

/- Only the winner of ADMITTED to SUBMITTING receives the row. -/
def claimSubmission (operationId : String) (nowMs : Int) :
    Transaction (Option ResearchRequestRow) := fun s =>
  match s.request? operationId with
  | none => .ok (none, s)
  | some stored =>
    if stored.state ≠ .admitted then .ok (none, s)
    else if (stored.claimed nowMs).updateAccepted then
      .ok (some (stored.claimed nowMs),
        s.updateRequest operationId (·.claimed nowMs) fun _ => rfl)
    else .error .other

def reconcileTransaction (reconciliation : BudgetReconciliation) (nowMs : Int) :
    Transaction BudgetHold := fun s =>
  match reconcileHold s.holds reconciliation nowMs with
  | .error x => .error x
  | .ok (hold, holds) => .ok (hold, { s with holds })

def ResearchRequestRow.bound (row : ResearchRequestRow) (recordId : String) (nowMs : Int) :
    ResearchRequestRow := { row with recordId := some recordId, updatedAtMs := nowMs }

def completionRecord (request : ResearchRequestRow) (recordId ownerLoginKey : String)
    (document : CompletedDocument) : KronikaRecord where
  recordId := recordId
  kind := request.record.kind
  ownerLoginKey := ownerLoginKey
  documentId := document.documentId
  finalOperationId := document.operationId
  createdAtMs := document.createdAtMs
  completedAtMs := document.completedAtMs

/- One transaction: the document, its record and the request's binding; an exact
   replay finds the binding and writes nothing. -/
def completeResult (casefold : String → String) (completion : ResultCompletion) (nowMs : Int)
    (documentId recordId : String) : Transaction ResultCompletionReceipt := fun s =>
  let receipt : ResultCompletionReceipt := ⟨completion.operationId, .saved, rfl⟩
  match s.request? completion.operationId with
  | none => .error (.store .storage)
  | some request =>
    if request.recordId.isSome then .ok (receipt, s)
    else match CompletedDocument.make? casefold documentId completion.operationId
        request.record.kind request.record.prompt completion.answer request.createdAtMs
        (max nowMs request.createdAtMs) with
    | none => .error .other
    | some document =>
      match insertDocument s.documents document, normalizeLogin casefold request.ownerLoginKey with
      | some documents, some ownerLoginKey =>
        match insertRecord s.records (completionRecord request recordId ownerLoginKey document) with
        | none => .error .other
        | some records =>
          if (request.bound recordId nowMs).updateAccepted then
            .ok (receipt, { s.updateRequest completion.operationId (·.bound recordId nowMs)
              (fun _ => rfl) with documents, records })
          else .error .other
      | _, _ => .error .other

/- What each transaction that succeeds has done. -/
theorem admitRequest_ok {row stored : ResearchRequestRow} {reservation : BudgetReservation}
    {s s' : ResearchState} (h : admitRequest row reservation s = .ok (stored, s')) :
    (s' = s ∧ s.findByClient row.ownerLoginKey row.clientRequestId = some stored ∧
      stored.requestFingerprint = row.requestFingerprint) ∨
    (stored = row ∧ s.findByClient row.ownerLoginKey row.clientRequestId = none ∧
      s.activeSlot = none ∧ reservation.operationId = row.operationId ∧
      reservation.reservedUsdMicros = row.record.profile.budgetReservationUsdMicros ∧
      row.insertAccepted = true ∧ row.updateAccepted = true ∧
      ∃ requests holds hold, s.requests.insert? row.persisted = some requests ∧
        reserveHold s.holds reservation true row.admittedAtMs = .ok (hold, holds) ∧
        s' = { s with
          requests, holds
          activeSlot := some (row.operationId, row.admittedAtMs) }) := by
  unfold admitRequest at h
  split at h
  · cases h
  · rename_i hres
    rw [not_or, not_not, not_not] at hres
    split at h
    · rename_i existing hfind
      split at h
      · rename_i hfp
        cases h
        exact Or.inl ⟨rfl, hfind, hfp⟩
      · cases h
    · rename_i hfind
      split at h
      · cases h
      · rename_i hslot
        split at h
        · cases h
        · rename_i requests hins
          split at h
          · cases h
          · rename_i hold holds hhold
            cases h
            unfold insertRequest at hins
            split at hins
            · rename_i hacc
              rw [Bool.and_eq_true] at hacc
              exact Or.inr ⟨rfl, hfind, by simpa using hslot, hres.1, hres.2, hacc.1, hacc.2,
                requests, holds, hold, hins, hhold, rfl⟩
            · cases hins

theorem saveRequest_ok {row saved : ResearchRequestRow} {s s' : ResearchState}
    (h : saveRequest row s = .ok (saved, s')) :
    saved = row ∧ ∃ stored, s.request? row.operationId = some stored ∧
      (stored.overwrite row).updateAccepted = true ∧
      s' = { s.updateRequest row.operationId (·.overwrite row) (fun _ => rfl) with
        activeSlot :=
          if row.terminal = true ∧ s.slot = some row.operationId then none else s.activeSlot } := by
  unfold saveRequest at h
  split at h
  · cases h
  · rename_i stored hst
    split at h
    · rename_i hacc
      cases h
      exact ⟨rfl, stored, hst, hacc, rfl⟩
    · cases h

theorem claimSubmission_ok {op : String} {nowMs : Int} {claimed : Option ResearchRequestRow}
    {s s' : ResearchState} (h : claimSubmission op nowMs s = .ok (claimed, s')) :
    (claimed = none ∧ s' = s) ∨
    ∃ stored, s.request? op = some stored ∧ stored.state = .admitted ∧
      claimed = some (stored.claimed nowMs) ∧ (stored.claimed nowMs).updateAccepted = true ∧
      s' = s.updateRequest op (·.claimed nowMs) fun _ => rfl := by
  unfold claimSubmission at h
  split at h
  · cases h
    exact Or.inl ⟨rfl, rfl⟩
  · rename_i stored hst
    split at h
    · cases h
      exact Or.inl ⟨rfl, rfl⟩
    · rename_i hstate
      split at h
      · rename_i hacc
        cases h
        exact Or.inr ⟨stored, hst, not_not.mp hstate, rfl, hacc, rfl⟩
      · cases h

theorem reconcileTransaction_ok {r : BudgetReconciliation} {nowMs : Int} {hold : BudgetHold}
    {s s' : ResearchState} (h : reconcileTransaction r nowMs s = .ok (hold, s')) :
    ∃ holds, reconcileHold s.holds r nowMs = .ok (hold, holds) ∧ s' = { s with holds } := by
  unfold reconcileTransaction at h
  split at h
  · cases h
  · rename_i hold' holds hr
    cases h
    exact ⟨holds, hr, rfl⟩

theorem make?_some {casefold : String → String} {documentId op question : String}
    {kind : ResearchOperationKind} {answer : ResearchAnswer} {created completed : Int}
    {document : CompletedDocument} (h : CompletedDocument.make? casefold documentId op kind question
      answer created completed = some document) :
    document.documentId = documentId ∧ document.operationId = op ∧ document.kind = kind ∧
      document.questionText = question ∧ document.answerText = answer.text ∧
      document.citations = answer.citations ∧ document.evidence = answer.evidence := by
  unfold CompletedDocument.make? at h
  split at h
  · cases h
    exact ⟨rfl, rfl, rfl, rfl, rfl, rfl, rfl⟩
  · cases h

theorem completeResult_ok {casefold : String → String} {completion : ResultCompletion}
    {nowMs : Int} {documentId recordId : String} {receipt : ResultCompletionReceipt}
    {s s' : ResearchState}
    (h : completeResult casefold completion nowMs documentId recordId s = .ok (receipt, s')) :
    ∃ request, s.request? completion.operationId = some request ∧
      ((request.recordId.isSome = true ∧ s' = s) ∨
        (request.recordId = none ∧ (request.bound recordId nowMs).updateAccepted = true ∧
          ∃ document documents ownerLoginKey records,
            CompletedDocument.make? casefold documentId completion.operationId
              request.record.kind request.record.prompt completion.answer request.createdAtMs
              (max nowMs request.createdAtMs) = some document ∧
            insertDocument s.documents document = some documents ∧
            insertRecord s.records (completionRecord request recordId ownerLoginKey document) =
              some records ∧
            s' = { s.updateRequest completion.operationId (·.bound recordId nowMs)
              (fun _ => rfl) with documents, records })) := by
  unfold completeResult at h
  simp only at h
  split at h
  · cases h
  · rename_i request hreq
    refine ⟨request, hreq, ?_⟩
    split at h
    · rename_i hbound
      cases h
      exact Or.inl ⟨hbound, rfl⟩
    · rename_i hbound
      split at h
      · cases h
      · rename_i document hdoc
        split at h
        · rename_i documents owner hins howner
          split at h
          · cases h
          · rename_i records hrec
            split at h
            · rename_i hacc
              cases h
              exact Or.inr ⟨by simpa using hbound, hacc, document, documents, owner, records, hdoc,
                hins, hrec, rfl⟩
            · cases h
        · cases h

end FrameNest.Research
