import FrameNest.Uploads.Services

/-! What validation, publication and cataloging issue, and with them every service call. -/
namespace FrameNest.Uploads
open Concurrent

section Validation
variable {A : UploadSession → Prop} {F : UploadSessionState → Prop} {id : UploadSessionId} {session : UploadSession}
  {S : UploadServices} {α : Type} {Q : α → Prop} {p : UploadProgram α}

theorem issues_validationExcept {handler : UploadSessionRepositoryError → UploadProgram α}
    (h : Issues (answersWith A) (allowedFor F (· = id)) Q p)
    (hx : ∀ x, Issues (answersWith A) (allowedFor F (· = id)) Q (handler x)) :
    Issues (answersWith A) (allowedFor F (· = id)) Q (validationExcept p handler) := by
  refine h.rescue fun x => ?_
  split
  · exact hx _
  · trivial

theorem issues_validationLoad : Issues (answersWith A) (allowedFor F (· = id))
    (fun session => session.id = id) (validationLoad id) := by
  refine Issues.bind (issues_validationExcept issues_getSession fun _ => Issues.fail _)
    fun found hfound => ?_
  cases found with
  | none => trivial
  | some session => exact (hfound session rfl).1

theorem issues_reloaded {accepted : UploadSession → Bool} {x : UploadValidationError} :
    Issues (answersWith A) (allowedFor F (· = id)) (fun current => current.id = id)
      (reloaded id accepted x) := by
  refine issues_validationLoad.bind fun current hcurrent => ?_
  split
  · exact hcurrent
  · trivial

theorem issues_failIfPossible {failureCode : String} (hid : session.id = id)
    (hF : F .validating) : Issues (answersWith A) (allowedFor F (· = id)) (fun _ => True)
      (failIfPossible session failureCode) := by
  unfold failIfPossible
  split
  · trivial
  · rw [hid]
    refine issues_validationExcept (issues_readClock.bind fun now _ => ?_) fun _ => ?_
    · refine Issues.bind (Q := fun _ => True) (Issues.perform ⟨⟨by decide, fun _ => hF, nofun⟩,
        fun k version h => ?_⟩ fun _ _ => trivial) fun _ _ => trivial
      cases h
      rfl
    · exact Issues.bind (issues_validationExcept issues_getSession fun _ _ h => by cases h)
        fun _ _ => trivial

theorem issues_failValidationAfter {failureCode : String} {x : UploadValidationError}
    (hid : session.id = id) (hF : F .validating) : Issues (answersWith A) (allowedFor F (· = id)) Q
      (failValidationAfter session failureCode x) :=
  (issues_failIfPossible hid hF).bind fun _ _ => Issues.fail _

theorem issues_startValidation (hid : session.id = id) (hF : F .validating) :
    Issues (answersWith A) (allowedFor F (· = id)) (fun started => started.id = id)
      (startValidation session) := by
  unfold startValidation
  rw [hid]
  refine issues_validationExcept (issues_readClock.bind fun now _ => ?_) fun x => ?_
  · refine Issues.perform ⟨trivial, fun k version h => ?_⟩ fun _ h => h
    cases h
    rfl
  · split
    · trivial
    · exact issues_failValidationAfter hid hF
    · exact issues_reloaded
    · exact issues_reloaded
    · trivial

theorem issues_openReader (hid : session.id = id) (hF : F .validating) :
    Issues (answersWith A) (allowedFor F (· = id)) (fun _ => True) (openReader session) := by
  refine Issues.rescue (issues_quarantine _) fun x => ?_
  split
  · exact issues_failValidationAfter hid hF
  · exact issues_failValidationAfter hid hF
  · trivial

theorem issues_completeSuccess {checksumHex : String} {kind : UploadValidatedMediaKind}
    {format : UploadValidatedFormat} (hid : session.id = id) (hF : F .validating) :
    Issues (answersWith A) (allowedFor F (· = id)) (fun _ => True)
      (completeSuccess session checksumHex kind format) := by
  unfold completeSuccess
  rw [hid]
  refine issues_validationExcept (issues_readClock.bind fun now _ => ?_) fun x => ?_
  · refine Issues.bind (Q := fun _ => True) (Issues.perform trivial fun _ _ => trivial)
      fun freshId _ => Issues.perform ⟨trivial, fun k version h => ?_⟩ fun _ _ => trivial
    cases h
    rfl
  · have hreload (accepted : UploadSession → Bool) (x : UploadValidationError) :
        Issues (answersWith A) (allowedFor F (· = id)) (fun _ => True) (reloaded id accepted x) :=
      issues_reloaded.mono (fun _ _ => trivial) (fun _ h => h) fun _ _ h => h
    split
    · exact issues_failValidationAfter hid hF
    · exact issues_failValidationAfter hid hF
    · exact hreload _ _
    · exact hreload _ _
    · trivial

theorem issues_reject {failureCode : String} (hid : session.id = id) :
    Issues (answersWith A) (allowedFor F (· = id)) (fun _ => True) (reject session failureCode) := by
  unfold reject
  rw [hid]
  refine issues_validationExcept (issues_readClock.bind fun now _ => ?_) fun x => ?_
  · refine Issues.perform ⟨trivial, fun k version h => ?_⟩ fun _ _ => trivial
    cases h
    rfl
  · have hreload (accepted : UploadSession → Bool) (x : UploadValidationError) :
        Issues (answersWith A) (allowedFor F (· = id)) (fun _ => True) (reloaded id accepted x) :=
      issues_reloaded.mono (fun _ _ => trivial) (fun _ h => h) fun _ _ h => h
    split
    · trivial
    · exact hreload _ _
    · exact hreload _ _
    · trivial

theorem issues_sha256OfReader (reader : QuarantineReader) (fuel position : Nat)
    (hashed : List UInt8) : Issues (answersWith A) (allowedFor F (· = id)) (fun _ => True)
      (S.sha256OfReader reader fuel position hashed) := by
  induction fuel generalizing position hashed with
  | zero => trivial
  | succ fuel ih =>
    refine Issues.bind (Q := fun _ => True) (Issues.perform trivial fun _ _ => trivial)
      fun stop _ => ?_
    split
    · trivial
    · refine (issues_quarantine _).bind fun chunk _ => ?_
      split
      · trivial
      · exact ih _ _

theorem issues_checkReader {reader : QuarantineReader} (hid : session.id = id)
    (hF : F .validating) : Issues (answersWith A) (allowedFor F (· = id)) (fun _ => True)
      (S.checkReader session reader) := by
  refine (issues_sha256OfReader _ _ _ _).bind fun checksumHex _ => (issues_quarantine _).bind
    fun _ _ => Issues.bind (Q := fun _ => True) (Issues.attempt trivial fun _ => trivial)
      fun evidence _ => ?_
  split
  · trivial
  · exact (issues_reject hid).bind fun _ _ => trivial
  · exact issues_failValidationAfter hid hF
  · exact issues_failValidationAfter hid hF
  · refine (issues_quarantine _).bind fun _ _ => (issues_sha256OfReader _ _ _ _).bind
      fun second _ => ?_
    split
    · exact issues_failValidationAfter hid hF
    · exact (issues_quarantine _).bind fun _ _ => (issues_completeSuccess hid hF).bind
        fun _ _ => trivial

theorem issues_validateFrom (hid : session.id = id) (hF : F .validating) :
    Issues (answersWith A) (allowedFor F (· = id)) (fun _ => True) (S.validateFrom session) := by
  unfold UploadServices.validateFrom
  split
  · unfold UploadServices.validateStableQuarantineObject
    split
    · exact issues_failValidationAfter hid hF
    · refine (issues_openReader hid hF).bind fun reader _ =>
        Issues.rescue (issues_checkReader hid hF) fun x => ?_
      split
      · exact issues_failValidationAfter hid hF
      · trivial
  · trivial

theorem issues_validateOwnedBlocking (hF : F .validating) :
    Issues (answersWith A) (allowedFor F (· = id)) (fun _ => True) (S.validateOwnedBlocking id) := by
  refine issues_validationLoad.bind fun session hid => ?_
  split
  · trivial
  · split
    · exact (issues_startValidation hid hF).bind fun started hstarted =>
        issues_validateFrom hstarted hF
    · exact issues_validateFrom hid hF

theorem issues_recoverAbandoned (hF : F .validating) : Issues (answersWith A) (allowedFor F (· = id))
    (fun _ => True) (S.recoverAbandonedValidatingOwnedBlocking id) := by
  refine issues_validationLoad.bind fun session hid => ?_
  split
  · trivial
  · exact issues_validateFrom hid hF

end Validation

section Publishing
variable {A : UploadSession → Prop} {F : UploadSessionState → Prop} {id : UploadSessionId} {S : UploadServices}
  {publication : UploadPublicationRow} {α : Type} {Q : α → Prop} {p : UploadProgram α}

theorem issues_candidateOf : Issues (answersWith A) (allowedFor F (· = id))
    (fun found : Option UploadPublicationCandidate => ∀ candidate, found = some candidate →
      candidate.upload.id = id) (candidateOf id) :=
  Issues.perform ⟨trivial, fun _ _ h => by cases h⟩ fun _ h => h

theorem issues_exceptInsufficientSpace {handler : UploadProgram α}
    (h : Issues (answersWith A) (allowedFor F (· = id)) Q p)
    (hx : Issues (answersWith A) (allowedFor F (· = id)) Q handler) :
    Issues (answersWith A) (allowedFor F (· = id)) Q (exceptInsufficientSpace p handler) := by
  refine h.rescue fun x => ?_
  split
  · exact hx
  · trivial

theorem issues_copyChunks (inode : Nat) (source : QuarantineReader) (expectedSizeBytes : Int)
    (fuel : Nat) (copied : List UInt8) : Issues (answersWith A) (allowedFor F (· = id)) (fun _ => True)
      (copyChunks inode source expectedSizeBytes fuel copied) := by
  induction fuel generalizing copied with
  | zero => trivial
  | succ fuel ih =>
    refine Issues.bind (Q := fun _ => True) (Issues.perform trivial fun _ _ => trivial)
      fun stop _ => (issues_demand _ _).bind fun _ _ => (issues_quarantine _).bind fun chunk _ => ?_
    split
    · trivial
    · exact (issues_demand _ _).bind fun _ _ => (issues_target _).bind fun _ _ => ih _

theorem issues_copyAndVerifySource {inode : Nat} {source : QuarantineReader} :
    Issues (answersWith A) (allowedFor F (· = id)) (fun _ => True)
      (S.copyAndVerifySource inode source publication) := by
  refine Issues.bind (Q := fun _ => True) (Issues.rescue ((issues_copyChunks _ _ _ _ _).bind
    fun _ _ => (issues_quarantine _).bind fun _ _ => (issues_target _).bind fun _ _ => trivial)
    fun x => ?_) fun copied _ => (issues_demand _ _).mono (fun _ _ => trivial) (fun _ h => h)
      fun _ _ h => h
  split <;> trivial

theorem issues_publishFromReader {source : QuarantineReader} :
    Issues (answersWith A) (allowedFor F (· = id)) (fun _ => True)
      (S.publishFromReader publication source) := by
  refine (issues_demand _ _).bind fun _ _ => (issues_target _).bind fun _ _ =>
    (issues_target _).bind fun verified _ => ?_
  split
  · exact (issues_target _).bind fun _ _ => issues_target _
  · refine (issues_demand _ _).bind fun _ _ => Issues.bind (Q := fun _ => True)
      ((issues_demand _ _).bind fun _ _ => (issues_target _).bind fun available _ =>
        (issues_demand _ _).mono (fun _ _ => trivial) (fun _ h => h) fun _ _ h => h) fun _ _ => ?_
    have hcut : Issues (answersWith A) (allowedFor F (· = id)) (fun _ => True) (do
        unlinkOwnedTemporary publication
        failTarget .insufficientSpace : UploadProgram Unit) :=
      (issues_target _).bind fun _ _ => Issues.fail _
    refine Issues.bind (issues_exceptInsufficientSpace (Q := fun _ => True) ((issues_target _).bind
      fun inode _ => issues_copyAndVerifySource.bind fun _ _ => issues_target _) hcut) fun _ _ => ?_
    refine Issues.bind (Q := fun _ => True) ?_ fun _ _ => (issues_target _).bind fun _ _ =>
      (issues_target _).bind fun _ _ => (issues_demand _ _).bind fun _ _ =>
        (issues_target _).bind fun _ _ => issues_target _
    refine Issues.bind (issues_exceptInsufficientSpace (Q := fun _ => True) (issues_target _)
      ((issues_target _).bind fun _ _ => Issues.fail _)) fun linked _ => ?_
    split
    · trivial
    · exact (issues_target _).bind fun _ _ => (issues_demand _ _).mono (fun _ _ => trivial)
        (fun _ h => h) fun _ _ h => h

theorem issues_placeTarget {upload : UploadSession} : Issues (answersWith A) (allowedFor F (· = id))
    (fun _ => True) (S.placeTarget upload publication) := by
  refine Issues.rescue (Issues.bind (Q := fun _ => True) ((issues_demand _ _).bind fun _ _ =>
    (issues_target _).bind fun _ _ => issues_target _) fun verified _ => ?_) fun x => ?_
  · split
    · trivial
    · exact (issues_quarantine _).bind fun _ _ => issues_publishFromReader
  · split <;> trivial

theorem issues_orReload {p : UploadProgram UploadPublicationCandidate}
    {accepted : UploadSession → UploadPublication → Bool}
    (h : Issues (answersWith A) (allowedFor F (· = id)) (fun candidate => candidate.upload.id = id) p) :
    Issues (answersWith A) (allowedFor F (· = id)) (fun candidate => candidate.upload.id = id)
      (UploadServices.orReload p id accepted) := by
  refine h.rescue fun x => ?_
  split
  · refine issues_candidateOf.bind fun found hfound => ?_
    split
    · rename_i current hcurrent
      exact hfound current (Option.eq_some_of_filter_eq_some hcurrent)
    · trivial
  · trivial

theorem issues_finishCleanup {candidate : UploadPublicationCandidate}
    (hid : candidate.upload.id = id) : Issues (answersWith A) (allowedFor F (· = id)) (fun _ => True)
      (UploadServices.finishCleanup candidate) := by
  unfold UploadServices.finishCleanup
  split
  · trivial
  · refine (issues_demand _ _).bind fun _ _ => ?_
    split
    · trivial
    · refine Issues.bind (Q := fun _ => True) (Issues.bind (Q := fun _ => True)
        (Issues.rescue (issues_quarantine _) fun x => ?_) fun _ _ => ?_) fun _ _ => trivial
      · split <;> trivial
      · rw [hid]
        refine (issues_orReload (issues_readClock.bind fun now _ => Issues.perform
          ⟨trivial, fun k version h => ?_⟩ fun _ h => h)).mono (fun _ _ => trivial) (fun _ h => h)
            fun _ _ h => h
        cases h

theorem issues_publishPending {candidate : UploadPublicationCandidate}
    {publication : UploadPublication} (hid : candidate.upload.id = id) :
    Issues (answersWith A) (allowedFor F (· = id)) (fun candidate => candidate.upload.id = id)
      (S.publishPending candidate publication) := by
  refine (issues_demand _ _).bind fun _ _ => issues_placeTarget.bind fun _ _ => ?_
  rw [hid]
  refine issues_orReload (issues_readClock.bind fun now _ => Issues.perform
    ⟨trivial, fun k version h => ?_⟩ fun _ h => h)
  cases h
  rfl

theorem newReservation_uploadId {upload : UploadSession} {publicationId : UploadPublicationId}
    {destinationId : LibraryId} {now : Int} {reservation : UploadPublication}
    (h : newUploadPublicationReservation upload publicationId destinationId now =
      some reservation) : reservation.uploadId = upload.id := by
  unfold newUploadPublicationReservation at h
  split at h
  · split at h
    · rw [publicationFromRow_some h]
    · cases h
  · cases h

theorem issues_ensureReservation {candidate : UploadPublicationCandidate}
    (hid : candidate.upload.id = id) : Issues (answersWith A) (allowedFor F (· = id))
      (fun candidate => candidate.upload.id = id) (S.ensureReservation candidate) := by
  unfold UploadServices.ensureReservation
  split
  · exact hid
  · refine (issues_demand _ _).bind fun _ _ => issues_readClock.bind fun now _ =>
      Issues.bind (Q := fun _ => True) (Issues.perform trivial fun _ _ => trivial)
        fun publicationId _ => ?_
    split
    · trivial
    · rename_i reservation hreservation
      exact Issues.perform ⟨trivial, fun _ _ h => by cases h⟩ fun _ h =>
        h.trans ((newReservation_uploadId hreservation).trans hid)

theorem issues_publishOwnedBlocking : Issues (answersWith A) (allowedFor F (· = id)) (fun _ => True)
    (S.publishOwnedBlocking id) := by
  refine Issues.bind (Q := fun _ => True) (Issues.perform trivial fun _ _ => trivial)
    fun stop _ => ?_
  split
  · trivial
  · refine Issues.rescue (issues_candidateOf.bind fun found hfound => ?_) fun x => Issues.fail _
    split
    · trivial
    · refine (issues_ensureReservation (hfound _ rfl)).bind fun candidate hid => ?_
      split
      · trivial
      · refine (issues_demand _ _).bind fun _ _ => ?_
        split
        · exact (issues_publishPending hid).bind fun _ h => issues_finishCleanup h
        · exact issues_finishCleanup hid

end Publishing

section Cataloging
variable {A : UploadSession → Prop} {F : UploadSessionState → Prop} {id : UploadSessionId} {S : UploadServices}

theorem issues_commitCataloged {candidate : UploadPublicationCandidate}
    {publication : UploadPublication} {media : LogicalMedia} {location : MediaLocation} {now : Int}
    {metadata : Option MediaMetadata} : Issues (answersWith A) (allowedFor F (· = id)) (fun _ => True)
      (UploadServices.commitCataloged id candidate publication media location now metadata) := by
  refine Issues.bind (Q := fun _ => True) (Issues.rescue (Issues.perform
    ⟨trivial, fun k version h => ?_⟩ fun _ _ => trivial) fun x => ?_) fun _ _ => trivial
  · cases h
    rfl
  · split
    · refine issues_candidateOf.bind fun found _ => ?_
      split <;> trivial
    · trivial

theorem issues_catalogOwnedBlocking : Issues (answersWith A) (allowedFor F (· = id)) (fun _ => True)
    (S.catalogOwnedBlocking id) := by
  refine Issues.rescue (issues_candidateOf.bind fun found _ => ?_) fun x => Issues.fail _
  split
  · trivial
  · split
    · trivial
    · refine (issues_demand _ _).bind fun _ _ => ?_
      split
      · trivial
      · refine (issues_demand _ _).bind fun _ _ => (issues_demand _ _).bind fun _ _ => ?_
        split
        · trivial
        · refine issues_readClock.bind fun now _ => Issues.bind (Q := fun _ => True)
            (Issues.perform trivial fun _ _ => trivial) fun mediaId _ => ?_
          split
          · trivial
          · refine Issues.bind (Q := fun _ => True) (Issues.perform trivial fun _ _ => trivial)
              fun locationId _ => Issues.bind (Q := fun _ => True) (Issues.bind
                (Q := fun _ => True) (Issues.perform trivial fun _ _ => trivial)
                fun classification _ => ?_) fun metadata _ => issues_commitCataloged
            split
            · trivial
            · split <;> trivial

end Cataloging
end FrameNest.Uploads
