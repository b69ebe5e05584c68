import FrameNest.Concurrent.Issues
import FrameNest.Uploads.Cataloging
import FrameNest.Uploads.Publishing
import FrameNest.Uploads.Transport
import FrameNest.Uploads.Validation

/-! The calls of all upload services, and which operations they ever issue. -/
namespace FrameNest.Uploads
open Concurrent

inductive UploadCall where
  | createSession (request : CreateSessionRequest)
  | getStatus (id : UploadSessionId)
  | receiveChunk (id : UploadSessionId) (uploadOffset contentLength : Int) (body : List BodyEvent)
  | complete (id : UploadSessionId)
  | cancel (id : UploadSessionId)
  | resolveDuplicate (id : UploadSessionId) (resolution : UploadDuplicateResolution)
  | validate (id : UploadSessionId)
  | recoverValidating (id : UploadSessionId)
  | publish (id : UploadSessionId)
  | catalog (id : UploadSessionId)
  | removeMedia (mediaId : MediaId)

inductive UploadOutcome where
  | snapshot (value : UploadSessionSnapshot)
  | validation (value : UploadValidationResult)
  | publication (value : UploadPublicationResult)
  | catalog (value : UploadCatalogResult)
  | removed
deriving DecidableEq

/- A program whose result is one of the outcomes. -/
def outcome {α : Type} (f : α → UploadOutcome) (p : UploadProgram α) : UploadProgram UploadOutcome :=
  p >>= fun a => .done (f a)

def UploadServices.program (S : UploadServices) : UploadCall → UploadProgram UploadOutcome
  | .createSession request => outcome .snapshot (S.createSession request)
  | .getStatus id => outcome .snapshot (getStatus id)
  | .receiveChunk id uploadOffset contentLength body =>
    outcome .snapshot (S.receiveChunk id uploadOffset contentLength body)
  | .complete id => outcome .snapshot (complete id)
  | .cancel id => outcome .snapshot (cancel id)
  | .resolveDuplicate id resolution => outcome .snapshot (resolveDuplicate id resolution)
  | .validate id => outcome .validation (S.validateOwnedBlocking id)
  | .recoverValidating id => outcome .validation (S.recoverAbandonedValidatingOwnedBlocking id)
  | .publish id => outcome .publication (S.publishOwnedBlocking id)
  | .catalog id => outcome .catalog (S.catalogOwnedBlocking id)
  | .removeMedia mediaId => outcome (fun _ => .removed) (repository (.removeMedia mediaId))

/-- The states the services move a session to by the plain transition statement. -/
def serviceTransitionTargets : List UploadSessionState :=
  [.receiving, .received, .cancelled, .expired, .failed]

/-- How the services use the repositories: sessions are created empty, plain transitions go
to few states, a session is failed only from a state that satisfies `F`, and received only
where `F` has that state too. -/
def Operation.OfService (F : UploadSessionState → Prop) : Operation → Prop
  | .create session => session.state = .created
  | .transitionState _ expected target _ _ _ => target ∈ serviceTransitionTargets ∧
    (target = .failed → F expected) ∧ (target = .received → F .received)
  | _ => True

/-- What a call may do that changes the rows of its `own` sessions alone. -/
def allowedFor (F : UploadSessionState → Prop) (own : UploadSessionId → Prop) :
    UploadEffect → Prop
  | .repository op => op.OfService F ∧ ∀ k version, op.guardedBy = some (k, version) → own k
  | _ => True

/-- An answer is about the session asked for; a loaded one satisfies `A`. -/
def Operation.AnswersWith (A : UploadSession → Prop) : (op : Operation) → op.Answer → Prop
  | .getSession id, found =>
    ∀ session : UploadSession, found = some session → session.id = id ∧ A session
  | .advanceReceivedOffset id .., session | .transitionState id .., session
  | .startValidation id .., session | .completeValidationSuccess id .., session
  | .recordDuplicateDisposition id .., session | .rejectValidation id .., session =>
    session.id = id
  | .getCandidate id, found =>
    ∀ candidate : UploadPublicationCandidate, found = some candidate → candidate.upload.id = id
  | .getOrCreateReservation reservation _, candidate => candidate.upload.id = reservation.uploadId
  | .commitVerifiedPublication id .., candidate | .markCleanupComplete id .., candidate
  | .commitCatalogedPublication id .., candidate => candidate.upload.id = id
  | .create .., _ | .recordCompletedChecksum .., _ | .getOrCreateByteIdentity .., _
  | .removeMedia .., _ => True

def answersWith (A : UploadSession → Prop) : (e : UploadEffect) → e.Answer → Prop
  | .repository op, a => op.AnswersWith A a
  | _, _ => True

section Rules
variable {A : UploadSession → Prop} {F : UploadSessionState → Prop} {own : UploadSessionId → Prop} {α : Type} {Q : α → Prop}
  {p : UploadProgram α}

theorem issues_quarantine (e : QuarantineEffect) :
    Issues (answersWith A) (allowedFor F own) (fun _ => True) (quarantine e) :=
  Issues.perform trivial fun _ _ => trivial

theorem issues_target (e : TargetEffect) :
    Issues (answersWith A) (allowedFor F own) (fun _ => True) (target e) :=
  Issues.perform trivial fun _ _ => trivial

theorem issues_readClock : Issues (answersWith A) (allowedFor F own) (fun _ => True) readClock :=
  Issues.perform trivial fun _ _ => trivial

theorem issues_demand (b : Bool) (x : UploadError) :
    Issues (answersWith A) (allowedFor F own) (fun _ => b = true) (demand b x) := by
  cases b <;> simp [demand]

theorem issues_exceptSession {handler : UploadSessionRepositoryError → UploadProgram α}
    (h : Issues (answersWith A) (allowedFor F own) Q p)
    (hx : ∀ x, Issues (answersWith A) (allowedFor F own) Q (handler x)) :
    Issues (answersWith A) (allowedFor F own) Q (exceptSession p handler) := by
  refine h.rescue fun x => ?_
  split
  · exact hx _
  · trivial

theorem issues_exceptQuarantine {handler : QuarantineError → Option (UploadProgram α)}
    (h : Issues (answersWith A) (allowedFor F own) Q p)
    (hx : ∀ x, ∀ q ∈ handler x, Issues (answersWith A) (allowedFor F own) Q q) :
    Issues (answersWith A) (allowedFor F own) Q (exceptQuarantine p handler) := by
  refine h.rescue fun x => ?_
  split
  · rename_i y
    cases hy : handler y with
    | none => trivial
    | some q => exact hx y q hy
  · trivial

theorem issues_exceptException {handler : UploadError → UploadProgram α}
    (h : Issues (answersWith A) (allowedFor F own) Q p)
    (hx : ∀ x, Issues (answersWith A) (allowedFor F own) Q (handler x)) :
    Issues (answersWith A) (allowedFor F own) Q (exceptException p handler) := by
  refine h.rescue fun x => ?_
  split
  · trivial
  · exact hx _

theorem issues_withFinally {last : UploadProgram Unit}
    (h : Issues (answersWith A) (allowedFor F own) Q p)
    (hlast : Issues (answersWith A) (allowedFor F own) (fun _ => True) last) :
    Issues (answersWith A) (allowedFor F own) Q (withFinally p last) := by
  refine Issues.bind (Issues.rescue h fun x => ?_) fun a ha => ?_
  · exact Issues.bind hlast fun _ _ => Issues.fail x
  · exact Issues.bind hlast fun _ _ => ha

end Rules

/-! The transport service. -/
section Transport
variable {A : UploadSession → Prop} {F : UploadSessionState → Prop} {own : UploadSessionId → Prop} {id : UploadSessionId}
  {session : UploadSession} {α : Type} {Q : α → Prop}

theorem issues_getSession : Issues (answersWith A) (allowedFor F own)
    (fun found : Option UploadSession => ∀ session, found = some session →
      session.id = id ∧ A session) (repository (.getSession id)) :=
  Issues.perform ⟨trivial, fun _ _ h => by cases h⟩ fun _ h => h

theorem issues_requireStorage :
    Issues (answersWith A) (allowedFor F own) (fun _ => True) requireStorage :=
  (issues_quarantine _).bind fun _ _ => (issues_demand _ _).mono (fun _ _ => trivial)
    (fun _ h => h) fun _ _ h => h

theorem issues_load : Issues (answersWith A) (allowedFor F own)
    (fun session => session.id = id ∧ A session) (load id) := by
  refine Issues.bind (issues_exceptSession issues_getSession fun _ => Issues.fail _)
    fun found hfound => ?_
  cases found with
  | none => trivial
  | some session => exact hfound session rfl

theorem issues_transition {target : UploadSessionState} {failureCode : Option String}
    (hid : session.id = id) (htarget : target ∈ serviceTransitionTargets)
    (hF : (target = .failed → F session.state) ∧ (target = .received → F .received)) :
    Issues (answersWith A) (allowedFor F (· = id)) (fun moved => moved.id = id)
      (transition session target failureCode) := by
  refine issues_exceptSession (issues_readClock.bind fun now _ => ?_) fun _ => trivial
  refine Issues.perform ⟨⟨htarget, hF⟩, fun k version h => ?_⟩ fun _ h => h.trans hid
  cases h
  exact hid

theorem issues_recordDuplicateDisposition {disposition : UploadDuplicateDisposition}
    (hid : session.id = id) : Issues (answersWith A) (allowedFor F (· = id)) (fun _ => True)
      (recordDuplicateDisposition session disposition) := by
  refine issues_exceptSession (issues_readClock.bind fun now _ => ?_) fun _ => trivial
  refine Issues.perform ⟨trivial, fun k version h => ?_⟩ fun _ _ => trivial
  cases h
  exact hid

theorem issues_expireIfNeeded (hid : session.id = id) :
    Issues (answersWith A) (allowedFor F (· = id)) (fun kept => kept = session)
      (expireIfNeeded session) := by
  unfold expireIfNeeded
  split
  · rfl
  · refine issues_readClock.bind fun now _ => ?_
    split
    · rfl
    · exact (issues_transition hid (by decide) ⟨nofun, nofun⟩).bind fun _ _ => trivial

theorem issues_failInconsistentSession (hid : session.id = id) (hF : F session.state) :
    Issues (answersWith A) (allowedFor F (· = id)) Q (failInconsistentSession session) := by
  refine Issues.bind (Q := fun _ => True) (Issues.rescue ((issues_transition hid (by decide)
    ⟨fun _ => hF, by simp⟩).mono (fun _ _ => trivial) (fun _ h => h) fun _ _ h => h) fun x => ?_)
    fun _ _ => trivial
  split <;> trivial

theorem issues_fileSize (key : UploadStorageKey) :
    Issues (answersWith A) (allowedFor F own) (fun _ => True) (fileSize key) := issues_quarantine _

theorem issues_truncate (key : UploadStorageKey) (size : Int) :
    Issues (answersWith A) (allowedFor F own) (fun _ => True) (truncate key size) :=
  (issues_quarantine _).bind fun _ _ =>
    issues_withFinally (issues_quarantine _) (issues_quarantine _)

theorem issues_reconcileFileBeforeWrite (hid : session.id = id) (hF : F session.state) :
    Issues (answersWith A) (allowedFor F (· = id)) (fun _ => True)
      (reconcileFileBeforeWrite session) := by
  refine (issues_exceptQuarantine (issues_fileSize _) fun x q hq => ?_).bind fun size _ => ?_
  · split at hq <;> cases hq <;> trivial
  · split
    · split
      · trivial
      · exact issues_failInconsistentSession hid hF
    · split
      · trivial
      · split
        · refine issues_exceptQuarantine (issues_truncate _ _) fun x q hq => ?_
          split at hq <;> cases hq
          trivial
        · exact issues_failInconsistentSession hid hF

theorem issues_cutAndFail {size : Option Nat} (hid : session.id = id) (hF : F session.state) :
    Issues (answersWith A) (allowedFor F (· = id)) Q (cutAndFail session size) := by
  unfold cutAndFail
  split
  · split
    · exact (issues_truncate _ _).bind fun _ _ => issues_failInconsistentSession hid hF
    · exact issues_failInconsistentSession hid hF
  · exact issues_failInconsistentSession hid hF

theorem issues_ensureCompleteFile (hid : session.id = id) (hF : F session.state) :
    Issues (answersWith A) (allowedFor F (· = id)) (fun _ => True) (ensureCompleteFile session) := by
  refine (issues_exceptQuarantine (issues_fileSize _) fun x q hq => ?_).bind fun size _ => ?_
  · split at hq <;> cases hq
    exact issues_failInconsistentSession hid hF
  · split
    · trivial
    · exact issues_cutAndFail hid hF

theorem issues_ensureFileMatchesReceivedSize (hid : session.id = id) (hF : F session.state) :
    Issues (answersWith A) (allowedFor F (· = id)) (fun _ => True)
      (ensureFileMatchesReceivedSize session) := by
  refine (issues_exceptQuarantine (issues_fileSize _) fun x q hq => ?_).bind fun size _ => ?_
  · split at hq <;> cases hq
    · exact issues_failInconsistentSession hid hF
    · trivial
  · split
    · trivial
    · exact issues_cutAndFail hid hF

theorem issues_removeCancelledFile :
    Issues (answersWith A) (allowedFor F own) (fun _ => True) (removeCancelledFile session) := by
  refine issues_exceptQuarantine (issues_quarantine _) fun x q hq => ?_
  split at hq <;> cases hq
  trivial

theorem issues_failSessionAfterUnverifiedRollback (hAF : ∀ session : UploadSession, session.id = id → A session → F session.state) :
    Issues (answersWith A) (allowedFor F (· = id)) (fun _ => True)
      (failSessionAfterUnverifiedRollback id) := by
  refine Issues.bind (Q := fun found : Option UploadSession => ∀ session, found = some session →
    session.id = id ∧ A session) (issues_exceptSession issues_getSession fun _ _ h => by
      cases h) fun found hfound => ?_
  cases found with
  | none => trivial
  | some current =>
    obtain ⟨hid, hA⟩ := hfound current rfl
    simp only
    split
    · trivial
    · refine Issues.rescue ((issues_transition hid (by decide) ⟨fun _ => hAF _ hid hA, by simp⟩).bind
        fun _ _ => trivial) fun x => ?_
      split <;> trivial

theorem issues_failAuthoritative (hid : session.id = id) (hF : F session.state) :
    Issues (answersWith A) (allowedFor F (· = id)) Q (failAuthoritativeInconsistentSession session) := by
  refine Issues.bind (Q := fun _ => True) (Issues.rescue ((issues_transition hid (by decide)
    ⟨fun _ => hF, by simp⟩).mono (fun _ _ => trivial) (fun _ h => h) fun _ _ h => h) fun x => ?_)
    fun _ _ => trivial
  split <;> trivial

theorem issues_closeUnless (attempted : Bool) (writer : QuarantineWriter) :
    Issues (answersWith A) (allowedFor F own) (fun _ => True) (closeUnless attempted writer) := by
  cases attempted with
  | true => trivial
  | false => exact issues_quarantine _

theorem issues_closeQuietly (attempted : Bool) (writer : QuarantineWriter) :
    Issues (answersWith A) (allowedFor F own) (fun _ => True) (closeQuietly attempted writer) :=
  issues_exceptException (issues_closeUnless _ _) fun _ => trivial

theorem issues_recoverAdvancedPatch {writer : QuarantineWriter} {attempted : Bool}
    (hid : session.id = id) (hF : F session.state) : Issues (answersWith A) (allowedFor F (· = id)) Q
      (recoverAdvancedPatch writer session attempted) := by
  refine Issues.bind (issues_closeQuietly _ _) fun _ _ => ?_
  refine Issues.bind (issues_exceptQuarantine (issues_fileSize _) fun x q hq => ?_) fun size _ => ?_
  · split at hq <;> cases hq <;> trivial
  · split
    · exact issues_failAuthoritative hid hF
    · split
      · trivial
      · split
        · exact issues_failAuthoritative hid hF
        · refine Issues.bind (issues_exceptQuarantine
            ((issues_truncate _ _).bind fun _ _ => issues_fileSize _) fun x q hq => ?_)
            fun verified _ => (issues_demand _ _).bind fun _ _ => Issues.fail _
          split at hq <;> cases hq <;> trivial

theorem issues_rollbackUnverified (hAF : ∀ session : UploadSession, session.id = id → A session → F session.state) :
    Issues (answersWith A) (allowedFor F (· = id)) Q (rollbackUnverified id) :=
  (issues_failSessionAfterUnverifiedRollback hAF).bind fun _ _ => Issues.fail _

theorem issues_cutBack {writer : QuarantineWriter} {originalOffset : Int} (hid : session.id = id) :
    Issues (answersWith A) (allowedFor F (· = id)) (fun _ => True)
      (cutBack writer session originalOffset) := by
  refine (issues_quarantine _).bind fun _ _ => (issues_fileSize _).bind fun size _ =>
    (issues_demand _ _).bind fun _ _ => ?_
  rw [hid]
  exact issues_getSession.bind fun after _ => (issues_demand _ _).mono (fun _ _ => trivial)
    (fun _ h => h) fun _ _ h => h

theorem issues_recoverFailedPatch {writer : QuarantineWriter} {originalOffset : Int}
    {x : UploadTransportError} {allowAdvanced attempted : Bool} (hAF : ∀ session : UploadSession, session.id = id → A session → F session.state)
    (hid : session.id = id) : Issues (answersWith A) (allowedFor F (· = id)) Q
      (recoverFailedPatch writer session originalOffset x allowAdvanced attempted) := by
  unfold recoverFailedPatch
  rw [hid]
  refine Issues.bind (Q := fun found : Option UploadSession => ∀ session, found = some session →
    session.id = id ∧ A session) (issues_exceptSession issues_getSession fun _ _ h => by
      cases h) fun found hfound => ?_
  split
  · exact issues_exceptException ((issues_closeUnless _ _).bind fun _ _ => Issues.fail _)
      fun _ => issues_rollbackUnverified hAF
  · rename_i current hcurrent
    obtain ⟨hcid, hA⟩ := hfound current (Option.eq_some_of_filter_eq_some hcurrent)
    split
    · exact issues_recoverAdvancedPatch hcid (hAF _ hcid hA)
    · split
      · refine issues_exceptException ((issues_closeUnless _ _).bind fun _ _ => ?_) fun y => ?_
        · split <;> trivial
        · split
          · trivial
          · exact issues_rollbackUnverified hAF
      · refine Issues.bind (issues_exceptException (issues_cutBack hid) fun _ =>
          (issues_closeQuietly _ _).bind fun _ _ => issues_rollbackUnverified hAF) fun _ _ => ?_
        exact Issues.bind (issues_exceptException (issues_quarantine _)
          fun _ => issues_rollbackUnverified hAF) fun _ _ => Issues.fail _

theorem issues_writeBody (contentLength : Int) (body : List BodyEvent) (writer : QuarantineWriter)
    (actual : Int) : Issues (answersWith A) (allowedFor F own) (fun _ => True)
      (writeBody contentLength body writer actual) := by
  induction body generalizing writer actual with
  | nil => trivial
  | cons event rest ih =>
    cases event with
    | chunk data =>
      unfold writeBody
      split
      · exact ih _ _
      · exact (issues_demand _ _).bind fun _ _ => (issues_quarantine _).bind fun _ _ =>
          (issues_demand _ _).bind fun _ _ => ih _ _
    | raised => trivial
    | cancelled => trivial

theorem issues_writePatch {contentLength : Int} {body : List BodyEvent} {writer : QuarantineWriter}
    (hid : session.id = id) : Issues (answersWith A) (allowedFor F (· = id)) (fun _ => True)
      (writePatch session contentLength body writer) := by
  refine (issues_writeBody _ _ _ _).bind fun written _ => (issues_demand _ _).bind fun _ _ =>
    (issues_quarantine _).bind fun _ _ => issues_readClock.bind fun now _ => ?_
  refine Issues.perform ⟨trivial, fun k version h => ?_⟩ fun _ _ => trivial
  cases h
  exact hid

theorem issues_patchFailed {writer : QuarantineWriter} (hAF : ∀ session : UploadSession, session.id = id → A session → F session.state)
    (hid : session.id = id) (x : UploadError) : Issues (answersWith A) (allowedFor F (· = id)) Q
      (patchFailed writer session x) := by
  unfold patchFailed
  split <;> exact issues_recoverFailedPatch hAF hid

theorem issues_patch {contentLength : Int} {body : List BodyEvent}
    (hAF : ∀ session : UploadSession, session.id = id → A session → F session.state) (hid : session.id = id) (hF : F session.state) :
    Issues (answersWith A) (allowedFor F (· = id)) (fun _ => True)
      (patch session contentLength body) := by
  refine (issues_reconcileFileBeforeWrite hid hF).bind fun _ _ => ?_
  refine Issues.bind (Q := fun _ => True) ?_ fun create _ => ?_
  · unfold mustCreate
    split
    · exact (issues_fileSize _).bind fun _ _ => trivial
    · trivial
  · refine (issues_quarantine _).bind fun writer _ => ?_
    refine Issues.bind (issues_exceptException (issues_writePatch hid)
      (issues_patchFailed hAF hid)) fun updated _ => ?_
    exact Issues.bind (issues_exceptException (issues_quarantine _) fun _ =>
      issues_recoverFailedPatch hAF hid) fun _ _ => trivial

theorem issues_startReceiving {uploadOffset : Int} (hid : session.id = id) :
    Issues (answersWith A) (allowedFor F (· = id)) (fun started => started.id = id)
      (startReceiving session uploadOffset) := by
  unfold startReceiving
  split
  · exact (issues_demand _ _).bind fun _ _ =>
      issues_transition hid (by decide) ⟨nofun, nofun⟩
  · exact hid

theorem issues_receiveLoaded {uploadOffset contentLength : Int} {body : List BodyEvent}
    (hAF : ∀ session : UploadSession, session.id = id → A session → F session.state) (hF : F .receiving) (hid : session.id = id) :
    Issues (answersWith A) (allowedFor F (· = id)) (fun _ => True)
      (receiveLoaded session uploadOffset contentLength body) := by
  refine (issues_expireIfNeeded hid).bind fun kept hkept => ?_
  rw [hkept]
  refine (issues_demand _ _).bind fun _ _ => (issues_startReceiving hid).bind fun started hstarted =>
    (issues_demand _ _).bind fun _ hstate => (issues_demand _ _).bind fun _ _ => ?_
  have hreceiving : started.state = .receiving := by simpa using hstate
  exact issues_patch hAF hstarted (by rw [hreceiving]; exact hF)

/-- A session that takes no chunk is at most expired. -/
theorem issues_receiveLoaded_shut {uploadOffset contentLength : Int} {body : List BodyEvent}
    (hid : session.id = id) (hshut : session.state ≠ .created ∧ session.state ≠ .receiving) :
    Issues (answersWith A) (allowedFor F (· = id)) (fun _ => True)
      (receiveLoaded session uploadOffset contentLength body) := by
  refine (issues_expireIfNeeded hid).bind fun kept hkept => ?_
  rw [hkept]
  refine (issues_demand _ _).bind fun _ _ => Issues.bind (Q := fun started => started = session)
    ?_ fun started hstarted => (issues_demand _ _).bind fun _ hstate => ?_
  · unfold startReceiving
    rw [if_neg hshut.1]
    rfl
  · rw [hstarted] at hstate
    exact absurd (of_decide_eq_true hstate) hshut.2

theorem issues_getStatus : Issues (answersWith A) (allowedFor F own) (fun _ => True)
    (getStatus id) :=
  issues_load.bind fun _ _ => trivial

theorem issues_complete (hreceiving : F .receiving) (hreceived : F .received) :
    Issues (answersWith A) (allowedFor F (· = id)) (fun _ => True) (complete id) := by
  refine issues_requireStorage.bind fun _ _ => issues_load.bind fun session hsession =>
    (issues_expireIfNeeded hsession.1).bind fun kept hkept => ?_
  rw [hkept]
  split
  · rename_i hstate
    exact (issues_ensureCompleteFile hsession.1 (by rw [hstate]; exact hreceived)).bind
      fun _ _ => trivial
  · refine (issues_demand _ _).bind fun _ hstate => ?_
    have hF : F session.state := by
      rw [of_decide_eq_true hstate]
      exact hreceiving
    split
    · exact (issues_ensureFileMatchesReceivedSize hsession.1 hF).bind fun _ _ => Issues.fail _
    · exact (issues_ensureCompleteFile hsession.1 hF).bind fun _ _ =>
        (issues_transition hsession.1 (by decide) ⟨nofun, fun _ => hreceived⟩).bind
          fun _ _ => trivial

theorem issues_cancel : Issues (answersWith A) (allowedFor F (· = id)) (fun _ => True) (cancel id) := by
  refine issues_requireStorage.bind fun _ _ => issues_load.bind fun session hsession => ?_
  refine Issues.bind (Q := fun _ => True) ?_ fun _ _ => trivial
  unfold cancelOwned
  split
  · exact issues_removeCancelledFile.bind fun _ _ => trivial
  · split
    · trivial
    · exact (issues_transition hsession.1 (by decide) ⟨nofun, nofun⟩).bind fun _ _ =>
        issues_removeCancelledFile.bind fun _ _ => trivial

theorem issues_resolveDuplicate {resolution : UploadDuplicateResolution} :
    Issues (answersWith A) (allowedFor F (· = id)) (fun _ => True) (resolveDuplicate id resolution) := by
  refine issues_requireStorage.bind fun _ _ => issues_load.bind fun session hsession =>
    (issues_demand _ _).bind fun _ _ => ?_
  cases resolution with
  | keepSeparate =>
    simp only
    split
    · trivial
    · exact (issues_demand _ _).bind fun _ _ =>
        (issues_recordDuplicateDisposition hsession.1).bind fun _ _ => trivial
  | discard =>
    simp only
    split
    · exact issues_removeCancelledFile.bind fun _ _ => trivial
    · exact (issues_demand _ _).bind fun _ _ =>
        (issues_recordDuplicateDisposition hsession.1).bind fun _ _ =>
          issues_removeCancelledFile.bind fun _ _ => trivial

theorem issues_ensureSpace {S : UploadServices} (requestedBytes : Int) :
    Issues (answersWith A) (allowedFor F own) (fun _ => True) (S.ensureSpace requestedBytes) := by
  refine Issues.bind (issues_exceptQuarantine (Q := fun _ => True)
    (issues_requireStorage.bind fun _ _ => issues_quarantine _) fun x q hq => ?_) fun available _ =>
      (issues_demand _ _).mono (fun _ _ => trivial) (fun _ h => h) fun _ _ h => h
  split at hq <;> cases hq <;> trivial

/- Everything of `receive_chunk` in front of the lease. -/
theorem issues_receiveChunk {S : UploadServices} {uploadOffset contentLength : Int}
    {body : List BodyEvent} (h : ∀ session : UploadSession, session.id = id → A session →
      Issues (answersWith A) (allowedFor F (· = id)) (fun _ => True)
        (receiveLoaded session uploadOffset contentLength body)) :
    Issues (answersWith A) (allowedFor F (· = id)) (fun _ => True)
      (S.receiveChunk id uploadOffset contentLength body) :=
  issues_requireStorage.bind fun _ _ => (issues_demand _ _).bind fun _ _ =>
    (issues_demand _ _).bind fun _ _ => (issues_demand _ _).bind fun _ _ =>
      (issues_ensureSpace _).bind fun _ _ => issues_load.bind fun session hsession =>
        h session hsession.1 hsession.2

theorem issues_existingSession {request : CreateSessionRequest} {filename : UploadDisplayFilename} :
    Issues (answersWith A) (allowedFor F own) (fun _ => True)
      (UploadServices.existingSession request filename) := by
  unfold UploadServices.existingSession
  split
  · refine Issues.bind (Q := fun _ => True) (issues_exceptSession (Issues.perform
      ⟨trivial, fun _ _ h => by cases h⟩ fun _ _ => trivial) fun _ => Issues.fail _) fun found _ => ?_
    split <;> trivial
  · trivial

theorem issues_createSession {S : UploadServices} {request : CreateSessionRequest} :
    Issues (answersWith A) (allowedFor F own) (fun _ => True) (S.createSession request) := by
  refine issues_requireStorage.bind fun _ _ => ?_
  split
  · trivial
  · refine (issues_demand _ _).bind fun _ _ => (issues_demand _ _).bind fun _ _ => ?_
    refine Issues.bind (Q := fun _ => True) ((Issues.perform trivial fun _ _ => trivial).bind
      fun _ _ => (issues_demand _ _).mono (fun _ _ => trivial) (fun _ h => h) fun _ _ h => h)
      fun _ _ => ?_
    refine (issues_ensureSpace _).bind fun _ _ => issues_readClock.bind fun now _ => ?_
    refine Issues.bind (Q := fun _ => True) ?_ fun newId _ => Issues.bind (Q := fun _ => True) ?_
      fun key _ => ?_
    · cases request.sessionId with
      | none => exact Issues.perform trivial fun _ _ => trivial
      | some given => trivial
    · cases request.storageKey with
      | none => exact Issues.perform trivial fun _ _ => trivial
      | some given => trivial
    · split
      · trivial
      · rename_i session hsession
        have hstate : session.state = .created := by
          rw [sessionFromRow_some hsession]
          rfl
        refine issues_exceptSession (Issues.bind (Q := fun _ => True)
          (Issues.perform ⟨hstate, fun _ _ h => by cases h⟩ fun _ _ => trivial)
          fun _ _ => trivial) fun x => ?_
        split
        · exact issues_existingSession
        · exact issues_existingSession
        · trivial

end Transport
end FrameNest.Uploads
