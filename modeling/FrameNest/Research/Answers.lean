import FrameNest.Research.Obedience

/-! What one effect answers and what it changes: the only facts about the ports that
the laws of interleavings use. -/
namespace FrameNest.Research
open Relational

/- The five tables, the logs apart. -/
structure SameTables (s s' : ResearchState) : Prop where
  requests : s'.requests = s.requests
  activeSlot : s'.activeSlot = s.activeSlot
  holds : s'.holds = s.holds
  documents : s'.documents = s.documents
  records : s'.records = s.records

theorem SameTables.refl (s : ResearchState) : SameTables s s := ⟨rfl, rfl, rfl, rfl, rfl⟩

theorem SameTables.request? {s s' : ResearchState} (h : SameTables s s') (op : String) :
    s'.request? op = s.request? op := congrArg (fun t : RequestTable => t.find? op) h.requests

theorem SameTables.slot {s s' : ResearchState} (h : SameTables s s') : s'.slot = s.slot :=
  congrArg (Option.map Prod.fst) h.activeSlot

/- Effects that read no table and write none. -/
def Effect.plain : Effect → Bool
  | .clockMs | .newOperationId | .submissionEnabled | .select _ | .admissionGuard _ _
  | .submit _ | .poll _ | .cancel _ | .releaseRemote _ => true
  | _ => false

theorem overwrite_operationId (row stored : ResearchRequestRow) :
    (stored.overwrite row).operationId = stored.operationId := rfl

theorem claimed_operationId (nowMs : Int) (stored : ResearchRequestRow) :
    (stored.claimed nowMs).operationId = stored.operationId := rfl

def savedState (s : ResearchState) (row : ResearchRequestRow) : ResearchState :=
  { s.updateRequest row.operationId (·.overwrite row) (overwrite_operationId row) with
    activeSlot :=
      if row.terminal = true ∧ s.slot = some row.operationId then none else s.activeSlot }

def claimedState (s : ResearchState) (op : String) (nowMs : Int) : ResearchState :=
  s.updateRequest op (·.claimed nowMs) (claimed_operationId nowMs)

def boundState (s : ResearchState) (op recordId : String) (nowMs : Int)
    (documents : DocumentTable) (records : RecordTable) : ResearchState :=
  { s.updateRequest op (·.bound recordId nowMs) (fun _ => rfl) with documents, records }

inductive Answered (casefold : String → String) (s : ResearchState) :
    (e : Effect) → Except Failure e.Result → ResearchState → Prop
  | failed (e : Effect) (x : Failure) (s' : ResearchState) (h : SameTables s s') :
    Answered casefold s e (.error x) s'
  | plain (e : Effect) (a : e.Result) (s' : ResearchState) (hp : e.plain = true)
    (h : SameTables s s') : Answered casefold s e (.ok a) s'
  | blocker : Answered casefold s .accountingBlocker (.ok s.blocker) s
  | byClient (owner client : String) :
    Answered casefold s (.findByClient owner client) (.ok (s.findByClient owner client)) s
  | request (op : String) : Answered casefold s (.getRequest op) (.ok (s.request? op)) s
  | slot : Answered casefold s .activeSlotOperationId (.ok s.slot) s
  | cleanup (limit : Int) :
    Answered casefold s (.listCleanupPending limit) (.ok (s.listCleanupPending limit)) s
  | replayed (row existing : ResearchRequestRow) (reservation : BudgetReservation)
    (hf : s.findByClient row.ownerLoginKey row.clientRequestId = some existing)
    (hfp : existing.requestFingerprint = row.requestFingerprint) :
    Answered casefold s (.admitRow row reservation) (.ok existing) s
  | admitted (row : ResearchRequestRow) (reservation : BudgetReservation) (requests : RequestTable)
    (holds : HoldTable) (hold : BudgetHold)
    (hf : s.findByClient row.ownerLoginKey row.clientRequestId = none) (hslot : s.activeSlot = none)
    (hop : reservation.operationId = row.operationId)
    (hres : reservation.reservedUsdMicros = row.record.profile.budgetReservationUsdMicros)
    (hi : row.insertAccepted = true) (hu : row.updateAccepted = true)
    (hr : s.requests.insert? row.persisted = some requests)
    (hh : reserveHold s.holds reservation true row.admittedAtMs = .ok (hold, holds)) :
    Answered casefold s (.admitRow row reservation) (.ok row)
      { s with requests, holds, activeSlot := some (row.operationId, row.admittedAtMs) }
  | saved (row stored : ResearchRequestRow) (hst : s.request? row.operationId = some stored)
    (hacc : (stored.overwrite row).updateAccepted = true) :
    Answered casefold s (.save row) (.ok row) (savedState s row)
  | unclaimed (op : String) : Answered casefold s (.claimSubmission op) (.ok none) s
  | claimed (op : String) (stored : ResearchRequestRow) (nowMs : Int)
    (hst : s.request? op = some stored) (hs : stored.state = .admitted)
    (hacc : (stored.claimed nowMs).updateAccepted = true) :
    Answered casefold s (.claimSubmission op) (.ok (some (stored.claimed nowMs)))
      (claimedState s op nowMs)
  | reconciled (r : BudgetReconciliation) (nowMs : Int) (hold : BudgetHold) (holds : HoldTable)
    (h : reconcileHold s.holds r nowMs = .ok (hold, holds)) :
    Answered casefold s (.reconcile r) (.ok hold) { s with holds }
  | bound (c : ResultCompletion) (receipt : ResultCompletionReceipt) (request : ResearchRequestRow)
    (hst : s.request? c.operationId = some request) (hb : request.recordId.isSome = true) :
    Answered casefold s (.complete c) (.ok receipt) s
  | completed (c : ResultCompletion) (receipt : ResultCompletionReceipt)
    (request : ResearchRequestRow) (nowMs : Int) (documentId recordId owner : String)
    (document : CompletedDocument) (documents : DocumentTable) (records : RecordTable)
    (hst : s.request? c.operationId = some request) (hb : request.recordId = none)
    (hacc : (request.bound recordId nowMs).updateAccepted = true)
    (hdoc : CompletedDocument.make? casefold documentId c.operationId request.record.kind
      request.record.prompt c.answer request.createdAtMs (max nowMs request.createdAtMs) =
        some document)
    (hd : insertDocument s.documents document = some documents)
    (hr : insertRecord s.records (completionRecord request recordId owner document) =
      some records) :
    Answered casefold s (.complete c) (.ok receipt)
      (boundState s c.operationId recordId nowMs documents records)

section
variable {casefold : String → String} {s : ResearchState}

/- A read that may fail instead. -/
theorem answered_read {e : Effect} {env : Env} {value : e.Result}
    (h : Answered casefold s e (.ok value) s) :
    Answered casefold s e (env.answer value s).1 (env.answer value s).2 := by
  unfold Env.answer
  split
  · exact .failed e .other s (SameTables.refl s)
  · exact h

theorem answered_plain {e : Effect} (hp : e.plain = true) {env : Env} {value : e.Result}
    {s' : ResearchState} (h : SameTables s s') :
    Answered casefold s e (env.answer value s').1 (env.answer value s').2 := by
  unfold Env.answer
  split
  · exact .failed e .other s' h
  · exact .plain e value s' hp h

theorem answered_transact {e : Effect} {env : Env} {t : Transaction e.Result}
    (h : ∀ a s', t s = .ok (a, s') → Answered casefold s e (.ok a) s') :
    Answered casefold s e (env.transact t s).1 (env.transact t s).2 := by
  cases hr : (env.transact t s).1 with
  | error x =>
    rw [Env.transact_error hr]
    exact .failed e x s (SameTables.refl s)
  | ok a => exact h a _ (Env.transact_ok hr)

end

/-- Every effect answers as `Answered` says. -/
theorem exec_answered (rt : ResearchRuntime) (env : Env) (e : Effect) (s : ResearchState) :
    Answered rt.casefold s e (rt.exec env e s).1 (rt.exec env e s).2 := by
  cases e with
  | clockMs => exact .plain _ _ s rfl (SameTables.refl s)
  | newOperationId => exact .plain _ _ _ rfl ⟨rfl, rfl, rfl, rfl, rfl⟩
  | submissionEnabled => exact .plain _ _ s rfl (SameTables.refl s)
  | select kind => exact answered_plain rfl (SameTables.refl s)
  | admissionGuard snapshot nowMs => exact answered_plain rfl (SameTables.refl s)
  | accountingBlocker => exact answered_read .blocker
  | findByClient owner client => exact answered_read (.byClient owner client)
  | getRequest op => exact answered_read (.request op)
  | activeSlotOperationId => exact answered_read .slot
  | admitRow row reservation =>
    refine answered_transact fun stored s' h => ?_
    rcases admitRequest_ok h with ⟨rfl, hf, hfp⟩ |
      ⟨hrow, hf, hslot, hop, hres, hi, hu, requests, holds, hold, hr, hh, rfl⟩
    · exact .replayed row stored reservation hf hfp
    · rw [hrow]
      exact .admitted row reservation requests holds hold hf hslot hop hres hi hu hr hh
  | save row =>
    refine answered_transact fun saved s' h => ?_
    obtain ⟨hrow, stored, hst, hacc, rfl⟩ := saveRequest_ok h
    rw [hrow]
    exact .saved row stored hst hacc
  | claimSubmission op =>
    refine answered_transact fun claimed s' h => ?_
    obtain ⟨rfl, rfl⟩ | ⟨stored, hst, hs, rfl, hacc, rfl⟩ := claimSubmission_ok h
    · exact .unclaimed op
    · exact .claimed op stored env.clockMs hst hs hacc
  | listCleanupPending limit => exact answered_read (.cleanup limit)
  | reconcile r =>
    refine answered_transact fun hold s' h => ?_
    obtain ⟨holds, hr, rfl⟩ := reconcileTransaction_ok h
    exact .reconciled r env.clockMs hold holds hr
  | complete c =>
    refine answered_transact fun receipt s' h => ?_
    obtain ⟨request, hst, ⟨hb, rfl⟩ | ⟨hb, hacc, document, documents, owner, records, hdoc, hd, hr,
      rfl⟩⟩ := completeResult_ok h
    · exact .bound c receipt request hst hb
    · exact .completed c receipt request env.clockMs env.documentId env.recordId owner document
        documents records hst hb hacc hdoc hd hr
  | submit request => exact answered_plain rfl ⟨rfl, rfl, rfl, rfl, rfl⟩
  | poll handle => exact answered_plain rfl (SameTables.refl s)
  | cancel handle => exact answered_plain rfl (SameTables.refl s)
  | releaseRemote handle => exact answered_plain rfl (SameTables.refl s)

/- What one effect appends to the logs outside the database. -/
def Effect.submits : Effect → List String
  | .submit request => [request.operationId]
  | _ => []

def Effect.issues (env : Env) : Effect → List String
  | .newOperationId => [env.operationId]
  | _ => []

theorem answer_state (env : Env) (value : α) (s : ResearchState) : (env.answer value s).2 = s := rfl

/- A transaction leaves what every commit of it leaves. -/
theorem transact_keeps (env : Env) {t : Transaction α} {s : ResearchState} (f : ResearchState → β)
    (h : ∀ a s', t s = .ok (a, s') → f s' = f s) : f (env.transact t s).2 = f s := by
  cases hr : (env.transact t s).1 with
  | error x => rw [Env.transact_error hr]
  | ok a => exact h a _ (Env.transact_ok hr)

theorem exec_logs (rt : ResearchRuntime) (env : Env) (e : Effect) (s : ResearchState) :
    (rt.exec env e s).2.submitted = s.submitted ++ e.submits ∧
      (rt.exec env e s).2.issued = s.issued ++ e.issues env := by
  -- the transactions leave both logs alone
  have hkeep : ∀ {β : Type} (t : Transaction β),
      (∀ a s', t s = .ok (a, s') → (s'.submitted, s'.issued) = (s.submitted, s.issued)) →
      (env.transact t s).2.submitted = s.submitted ++ [] ∧
        (env.transact t s).2.issued = s.issued ++ [] := by
    intro β t h
    have hlogs := transact_keeps env (fun s : ResearchState => (s.submitted, s.issued)) h
    simpa using hlogs
  cases e with
  | admitRow row reservation =>
    refine hkeep _ fun stored s' h => ?_
    obtain ⟨rfl, -, -⟩ | ⟨-, -, -, -, -, -, -, requests, holds, hold, -, -, rfl⟩ :=
      admitRequest_ok h
    · rfl
    · rfl
  | save row =>
    refine hkeep _ fun saved s' h => ?_
    obtain ⟨-, stored, -, -, rfl⟩ := saveRequest_ok h
    rfl
  | claimSubmission op =>
    refine hkeep _ fun claimed s' h => ?_
    obtain ⟨-, rfl⟩ | ⟨stored, -, -, -, -, rfl⟩ := claimSubmission_ok h
    · rfl
    · rfl
  | reconcile r =>
    refine hkeep _ fun hold s' h => ?_
    obtain ⟨holds, -, rfl⟩ := reconcileTransaction_ok h
    rfl
  | complete c =>
    refine hkeep _ fun receipt s' h => ?_
    obtain ⟨request, -, ⟨-, rfl⟩ | ⟨-, -, document, documents, owner, records, -, -, -, rfl⟩⟩ :=
      completeResult_ok h
    · rfl
    · rfl
  | _ => simp [ResearchRuntime.exec, answer_state, Effect.submits, Effect.issues]

/- What reads and writes of one request leave at every operation. -/
theorem request?_savedState (s : ResearchState) (row : ResearchRequestRow) (op : String) :
    (savedState s row).request? op = if row.operationId = op then
      (s.request? op).map (·.overwrite row) else s.request? op :=
  ResearchState.request?_updateRequest (·.overwrite row) (fun _ => rfl) op

theorem slot_savedState (s : ResearchState) (row : ResearchRequestRow) : (savedState s row).slot =
    if row.terminal = true ∧ s.slot = some row.operationId then none else s.slot := by
  unfold savedState ResearchState.slot
  split
  · rfl
  · rfl

theorem request?_claimedState (s : ResearchState) (op op' : String) (nowMs : Int) :
    (claimedState s op nowMs).request? op' = if op = op' then
      (s.request? op').map (·.claimed nowMs) else s.request? op' :=
  ResearchState.request?_updateRequest (·.claimed nowMs) (fun _ => rfl) op'

theorem request?_boundState (s : ResearchState) (op recordId op' : String) (nowMs : Int)
    (documents : DocumentTable) (records : RecordTable) :
    (boundState s op recordId nowMs documents records).request? op' = if op = op' then
      (s.request? op').map (·.bound recordId nowMs) else s.request? op' :=
  ResearchState.request?_updateRequest (·.bound recordId nowMs) (fun _ => rfl) op'

theorem request?_insert {s : ResearchState} {row : ResearchRequestRow} {requests : RequestTable}
    (h : s.requests.insert? row.persisted = some requests) (op : String) :
    requests.find? op = if row.operationId = op then some row.persisted else s.request? op :=
  Table.find?_insert h op

/-- What one effect can do to a stored request: nothing, a save of it, its claim, or
the binding of its record. -/
theorem answered_request {casefold : String → String} {s s' : ResearchState} {e : Effect}
    {r : Except Failure e.Result} (h : Answered casefold s e r s') {op : String}
    {stored : ResearchRequestRow} (hst : s.request? op = some stored) :
    s'.request? op = some stored ∨
      (∃ row, e = .save row ∧ row.operationId = op ∧
        s'.request? op = some (stored.overwrite row)) ∨
      (∃ nowMs, e = .claimSubmission op ∧ stored.state = .admitted ∧
        s'.request? op = some (stored.claimed nowMs)) ∨
      ∃ c recordId nowMs, e = .complete c ∧ c.operationId = op ∧ stored.recordId = none ∧
        s'.request? op = some (stored.bound recordId nowMs) := by
  cases h with
  | failed e x s' h => exact Or.inl (by rw [h.request?]; exact hst)
  | plain e a s' hp h => exact Or.inl (by rw [h.request?]; exact hst)
  | admitted row reservation requests holds hold hf hslot hop hres hi hu hr hh =>
    have hne : row.operationId ≠ op := by
      rintro rfl
      have hnone := (Table.insert?_some hr).1
      rw [ResearchRequestRow.persisted_operationId] at hnone
      exact absurd (hst.symm.trans hnone) (by simp)
    exact Or.inl ((request?_insert hr op).trans (by rw [if_neg hne]; exact hst))
  | saved row found hfound hacc =>
    by_cases hop : row.operationId = op
    · exact Or.inr (Or.inl ⟨row, rfl, hop, by simp [request?_savedState, hop, hst]⟩)
    · exact Or.inl (by simp [request?_savedState, hop, hst])
  | claimed op' found nowMs hfound hadm hacc =>
    by_cases hop : op' = op
    · subst hop
      cases hfound.symm.trans hst
      exact Or.inr (Or.inr (Or.inl ⟨nowMs, rfl, hadm, by simp [request?_claimedState, hst]⟩))
    · exact Or.inl (by simp [request?_claimedState, hop, hst])
  | completed c receipt request nowMs documentId recordId owner document documents records hfound hb
      hacc hdoc hd hr =>
    by_cases hop : c.operationId = op
    · rw [hop] at hfound
      cases hfound.symm.trans hst
      exact Or.inr (Or.inr (Or.inr ⟨c, recordId, nowMs, rfl, hop, hb, by
        simp [request?_boundState, hop, hst]⟩))
    · exact Or.inl (by simp [request?_boundState, hop, hst])
  | _ => exact Or.inl hst

/-- A request that was not there has been admitted. -/
theorem answered_new {casefold : String → String} {s s' : ResearchState} {e : Effect}
    {r : Except Failure e.Result} (h : Answered casefold s e r s') {op : String}
    {row : ResearchRequestRow} (hnone : s.request? op = none) (hrow : s'.request? op = some row) :
    ∃ admitted reservation, e = .admitRow admitted reservation ∧ admitted.operationId = op ∧
      row = admitted.persisted ∧
      s.findByClient admitted.ownerLoginKey admitted.clientRequestId = none := by
  have hstill : s'.request? op ≠ none := by simp [hrow]
  cases h with
  | failed e x s' h => exact absurd ((h.request? op).trans hnone) hstill
  | plain e a s' hp h => exact absurd ((h.request? op).trans hnone) hstill
  | admitted admitted reservation requests holds hold hf hslot hop hres hi hu hr hh =>
    have hfound := (request?_insert hr op).symm.trans hrow
    by_cases hk : admitted.operationId = op
    · rw [if_pos hk] at hfound
      cases hfound
      exact ⟨admitted, reservation, rfl, hk, rfl, hf⟩
    · rw [if_neg hk, hnone] at hfound
      cases hfound
  | saved row stored hst hacc => simp [request?_savedState, hnone] at hstill
  | claimed op' stored nowMs hst hadm hacc => simp [request?_claimedState, hnone] at hstill
  | completed c receipt request nowMs documentId recordId owner document documents records hst hb
      hacc hdoc hd hr => simp [request?_boundState, hnone] at hstill
  | _ => exact absurd hnone hstill

end FrameNest.Research
