import FrameNest.Uploads.Mutations

/-! Every transaction of the two repositories as one type of operations, and what any of
them can do to the session rows. -/
namespace FrameNest.Uploads
open Relational

inductive RepositoryError where
  | session (error : UploadSessionRepositoryError)
  | publication (error : UploadPublicationRepositoryError)
deriving DecidableEq

inductive Operation where
  | create (session : UploadSession)
  | getSession (id : UploadSessionId)
  | advanceReceivedOffset (id : UploadSessionId)
      (expectedReceivedSizeBytes acceptedSizeBytes expectedVersion updatedAtMs : Int)
  | recordCompletedChecksum (id : UploadSessionId) (expectedState : UploadSessionState)
      (expectedVersion : Int) (checksumHex : String) (updatedAtMs : Int)
  | transitionState (id : UploadSessionId) (expectedState targetState : UploadSessionState)
      (expectedVersion updatedAtMs : Int) (failureCode : Option String)
  | startValidation (id : UploadSessionId) (expectedVersion updatedAtMs : Int)
  | completeValidationSuccess (id : UploadSessionId) (expectedVersion : Int) (checksumHex : String)
      (kind : UploadValidatedMediaKind) (format : UploadValidatedFormat) (updatedAtMs : Int)
      (freshId : MediaByteIdentityId)
  | recordDuplicateDisposition (id : UploadSessionId) (expectedVersion : Int)
      (disposition : UploadDuplicateDisposition) (updatedAtMs : Int)
  | rejectValidation (id : UploadSessionId) (expectedVersion : Int) (failureCode : String)
      (updatedAtMs : Int)
  | getOrCreateByteIdentity (identity : MediaByteIdentity)
  | getCandidate (id : UploadSessionId)
  | getOrCreateReservation (reservation : UploadPublication) (expectedUploadVersion : Int)
  | commitVerifiedPublication (id : UploadSessionId) (publicationId : UploadPublicationId)
      (expectedUploadVersion expectedPublicationVersion updatedAtMs : Int)
  | markCleanupComplete (id : UploadSessionId) (publicationId : UploadPublicationId)
      (expectedPublicationVersion updatedAtMs : Int)
  | commitCatalogedPublication (id : UploadSessionId) (media : LogicalMedia)
      (location : MediaLocation)
      (expectedUploadVersion expectedPublicationVersion updatedAtMs : Int)
      (metadata : Option MediaMetadata)
  | removeMedia (mediaId : MediaId)

namespace Operation

def Answer : Operation → Type
  | create .. | removeMedia .. => Unit
  | getSession .. => Option UploadSession
  | getCandidate .. => Option UploadPublicationCandidate
  | getOrCreateByteIdentity .. => MediaByteIdentity
  | advanceReceivedOffset .. | recordCompletedChecksum .. | transitionState .. | startValidation ..
  | completeValidationSuccess .. | recordDuplicateDisposition .. | rejectValidation .. =>
    UploadSession
  | getOrCreateReservation .. | commitVerifiedPublication .. | markCleanupComplete ..
  | commitCatalogedPublication .. => UploadPublicationCandidate

/- `get`: None for an absent row, an error for one that cannot be loaded. -/
def loadSession (id : UploadSessionId) (s : UploadStore) :
    Except UploadSessionRepositoryError (Option UploadSession × UploadStore) :=
  match s.session? id with
  | none => .ok (none, s)
  | some row =>
    match sessionFromRow row with
    | some session => .ok (some session, s)
    | none => .error .failed

def perform : (op : Operation) → UploadStore → Except RepositoryError (op.Answer × UploadStore)
  | create session, s => (s.create session).mapError .session
  | getSession id, s => (loadSession id s).mapError .session
  | advanceReceivedOffset id expected accepted version now, s =>
    (s.advanceReceivedOffset id expected accepted version now).mapError .session
  | recordCompletedChecksum id expected version checksumHex now, s =>
    (s.recordCompletedChecksum id expected version checksumHex now).mapError .session
  | transitionState id expected target version now failureCode, s =>
    (s.transitionState id expected target version now failureCode).mapError .session
  | startValidation id version now, s => (s.startValidation id version now).mapError .session
  | completeValidationSuccess id version checksumHex kind format now freshId, s =>
    (s.completeValidationSuccess id version checksumHex kind format now freshId).mapError .session
  | recordDuplicateDisposition id version disposition now, s =>
    (s.recordDuplicateDisposition id version disposition now).mapError .session
  | rejectValidation id version failureCode now, s =>
    (s.rejectValidation id version failureCode now).mapError .session
  | getOrCreateByteIdentity identity, s => (s.getOrCreateByteIdentity identity).mapError .session
  | getCandidate id, s => ((s.getCandidate id).map (·, s)).mapError .publication
  | getOrCreateReservation reservation version, s =>
    (s.getOrCreateReservation reservation version).mapError .publication
  | commitVerifiedPublication id publicationId uploadVersion publicationVersion now, s =>
    (s.commitVerifiedPublication id publicationId uploadVersion publicationVersion now).mapError
      .publication
  | markCleanupComplete id publicationId publicationVersion now, s =>
    (s.markCleanupComplete id publicationId publicationVersion now).mapError .publication
  | commitCatalogedPublication id media location uploadVersion publicationVersion now metadata, s =>
    (s.commitCatalogedPublication id media location uploadVersion publicationVersion now
      metadata).mapError .publication
  | removeMedia mediaId, s => .ok ((), s.removeMedia mediaId)

/-- One transaction of a repository. -/
def exec (op : Operation) (s : UploadStore) : Except RepositoryError op.Answer × UploadStore :=
  transaction s op.perform

/- The session row and the version at which the operation's UPDATE is guarded. -/
def guardedBy : Operation → Option (UploadSessionId × Int)
  | advanceReceivedOffset id _ _ version _ | recordCompletedChecksum id _ version _ _
  | transitionState id _ _ version _ _ | startValidation id version _
  | completeValidationSuccess id version _ _ _ _ _ | recordDuplicateDisposition id version _ _
  | rejectValidation id version _ _ | commitVerifiedPublication id _ version _ _
  | commitCatalogedPublication id _ _ version _ _ _ => some (id, version)
  | create .. | getSession .. | getOrCreateByteIdentity .. | getCandidate ..
  | getOrCreateReservation .. | markCleanupComplete .. | removeMedia .. => none

end Operation

theorem mapError_eq_ok {ε ε' α : Type} {x : Except ε α} {f : ε → ε'} {a : α} :
    x.mapError f = .ok a ↔ x = .ok a := by
  cases x <;> simp [Except.mapError]

open UploadStore

/-- What one committed statement can make of a session row. -/
inductive Mutation (before : UploadSessionRow) : UploadSessionRow → Prop where
  | advanced (nextOffset time : Int) (hs : before.state = .receiving)
      (hlt : before.receivedSizeBytes < nextOffset) :
      Mutation before { before with
        receivedSizeBytes := nextOffset, updatedAtMs := time, version := before.version + 1 }
  | checksum (checksumHex : String) (time : Int) (ha : before.checksumAlgorithm = none)
      (hh : before.checksumHex = none) :
      Mutation before { before with
        checksumAlgorithm := some "sha256", checksumHex := some checksumHex, updatedAtMs := time,
        version := before.version + 1 }
  | moved (target : UploadSessionState) (time : Int) (failureCode : Option String)
      (ht : target ∈ allowedUploadSessionTransitions before.state) :
      Mutation before { before with
        state := target, updatedAtMs := time, failureCode, version := before.version + 1 }
  | validated (checksumHex : String) (kind : UploadValidatedMediaKind)
      (format : UploadValidatedFormat) (identity : MediaByteIdentityId) (canonicalExists : Bool)
      (time : Int) (hs : before.state = .validating)
      (hnone : before.checksumAlgorithm = none ∧ before.checksumHex = none ∧
        before.validatedMediaKind = none ∧ before.validatedFormat = none ∧
        before.byteIdentityId = none) :
      Mutation before (validatedRow before checksumHex kind format identity canonicalExists time)
  | disposed (disposition : UploadDuplicateDisposition) (time : Int)
      (hs : before.state = .duplicatePending) (hn : before.duplicateDisposition = none) :
      Mutation before { before with
        state := dispositionTarget disposition, duplicateDisposition := some disposition,
        updatedAtMs := time, version := before.version + 1 }
  | published (time : Int) (hs : before.state = .publishPending) :
      Mutation before (publishedRow before time)
  | cataloged (time : Int) (hs : before.state = .published) :
      Mutation before (catalogedRow before time)

namespace UploadStore

/-- Every stored row can be loaded. -/
def AllLoad (s : UploadStore) : Prop := ∀ id row, s.session? id = some row → row.Valid

/-- The only three things a committed operation can have done to the session table. -/
inductive SessionsChange (op : Operation) (s t : UploadStore) : Prop where
  | kept (h : t.sessions = s.sessions)
  | created (row : UploadSessionRow) (unguarded : op.guardedBy = none)
      (hnew : s.session? row.id = none) (hvalid : row.Valid)
      (h : ∀ id, t.session? id = if row.id = id then some row else s.session? id)
  | mutated (before after : UploadSessionRow) (found : s.session? before.id = some before)
      (guarded : op.guardedBy = some (before.id, before.version)) (hm : Mutation before after)
      (hvalid : after.Valid) (same_id : after.id = before.id)
      (h : ∀ id, t.session? id = if before.id = id then some after else s.session? id)

theorem SessionsChange.of_updated {op : Operation} {s u t : UploadStore}
    {before after : UploadSessionRow} (h : Updated u t before after)
    (hsame : u.sessions = s.sessions) (guarded : op.guardedBy = some (before.id, before.version))
    (hm : Mutation before after) : SessionsChange op s t := by
  have hfind : ∀ id, u.session? id = s.session? id := by
    intro id
    unfold session?
    rw [hsame]
  refine .mutated before after ?_ guarded hm h.valid h.same_id ?_
  · rw [← hfind]
    exact h.found
  · intro id
    rw [h.session? id, hfind]

/-- Every operation that commits changes the sessions in one of the three ways. -/
theorem perform_change {op : Operation} {s t : UploadStore} {a : op.Answer} (hs : s.AllLoad)
    (h : op.perform s = .ok (a, t)) : SessionsChange op s t := by
  have hlogin : ∀ id row, s.session? id = some row →
      row.createdByLoginKey.all isCreatedByLoginKey = true := fun id row hrow =>
    (hs id row hrow).login_key
  cases op with
  | create session =>
    obtain ⟨row, hnew, hvalid, -, -, hfind, -⟩ := create_ok (mapError_eq_ok.mp h)
    exact .created row rfl hnew hvalid hfind
  | getSession id =>
    have h' := mapError_eq_ok.mp h
    unfold Operation.loadSession at h'
    split at h'
    · cases h'
      exact .kept rfl
    · split at h'
      · cases h'
        exact .kept rfl
      · cases h'
  | advanceReceivedOffset id expected accepted version now =>
    obtain ⟨row, hrow, ⟨hstate, hoffset, hversion, hpos, -⟩, hupdated, -⟩ :=
      advanceReceivedOffset_ok (mapError_eq_ok.mp h)
    have hid := session?_id hrow
    exact .of_updated hupdated rfl (by rw [hid, hversion]; rfl)
      (.advanced (expected + accepted) now hstate (by omega))
  | recordCompletedChecksum id expected version checksumHex now =>
    obtain ⟨row, hrow, ⟨-, hversion, halg, hhex⟩, hupdated⟩ | rfl :=
      recordCompletedChecksum_ok (mapError_eq_ok.mp h)
    · have hid := session?_id hrow
      exact .of_updated hupdated rfl (by rw [hid, hversion]; rfl)
        (.checksum checksumHex now halg hhex)
    · exact .kept rfl
  | transitionState id expected target version now failureCode =>
    obtain ⟨row, hrow, ⟨hstate, hversion, hallowed⟩, hupdated, -⟩ :=
      transitionState_ok (mapError_eq_ok.mp h)
    have hid := session?_id hrow
    exact .of_updated hupdated rfl (by rw [hid, hversion]; rfl)
      (.moved target now failureCode (by rw [hstate]; exact hallowed))
  | startValidation id version now =>
    obtain ⟨row, hrow, ⟨hstate, hversion⟩, hupdated, -⟩ := startValidation_ok (mapError_eq_ok.mp h)
    have hid := session?_id hrow
    exact .of_updated hupdated rfl (by rw [hid, hversion]; rfl)
      (.moved .validating now row.failureCode (by rw [hstate]; decide))
  | completeValidationSuccess id version checksumHex kind format now freshId =>
    obtain ⟨row, identity, u, hrow, ⟨hstate, hversion, hnone⟩, hidentity, hupdated, -⟩ | ⟨rfl, -⟩ :=
      completeValidationSuccess_ok (mapError_eq_ok.mp h)
    · obtain ⟨-, -, -, hframe, -⟩ := getOrCreateByteIdentity_ok hidentity
      have hid := session?_id hrow
      exact .of_updated hupdated (by rw [hframe]) (by rw [hid, hversion]; rfl)
        (.validated checksumHex kind format identity.id _ now hstate hnone)
    · exact .kept rfl
  | recordDuplicateDisposition id version disposition now =>
    obtain ⟨row, hrow, ⟨hstate, hversion, hnone⟩, hupdated, -⟩ :=
      recordDuplicateDisposition_ok (mapError_eq_ok.mp h)
    have hid := session?_id hrow
    exact .of_updated hupdated rfl (by rw [hid, hversion]; rfl)
      (.disposed disposition now hstate hnone)
  | rejectValidation id version failureCode now =>
    obtain ⟨row, hrow, ⟨hstate, hversion⟩, hupdated, -⟩ := rejectValidation_ok (mapError_eq_ok.mp h)
    have hid := session?_id hrow
    exact .of_updated hupdated rfl (by rw [hid, hversion]; rfl)
      (.moved .rejected now (some failureCode) (by rw [hstate]; decide))
  | getOrCreateByteIdentity identity =>
    obtain ⟨-, -, -, hframe, -⟩ := getOrCreateByteIdentity_ok (mapError_eq_ok.mp h)
    exact .kept (by rw [hframe])
  | getCandidate id =>
    obtain ⟨candidate, -, heq⟩ := map_eq_ok.mp (mapError_eq_ok.mp h)
    cases heq
    exact .kept rfl
  | getOrCreateReservation reservation version =>
    obtain ⟨-, ⟨rfl, -⟩ | ⟨row, -, -, -, -, -, -, -, hframe, -⟩⟩ :=
      getOrCreateReservation_ok (mapError_eq_ok.mp h)
    · exact .kept rfl
    · exact .kept (by rw [hframe])
  | commitVerifiedPublication id publicationId uploadVersion publicationVersion now =>
    obtain ⟨row, publication, rfl, -⟩ | ⟨row, publication, u, hrow, ⟨hstate, hversion⟩, -,
        hrepublished, hupdated, -⟩ :=
      commitVerifiedPublication_ok (hlogin id) (mapError_eq_ok.mp h)
    · exact .kept rfl
    · have hid := session?_id hrow
      exact .of_updated hupdated (by rw [hrepublished.frame]) (by rw [hid, hversion]; rfl)
        (.published now hstate)
  | markCleanupComplete id publicationId publicationVersion now =>
    obtain ⟨row, publication, -, -, -, -, ⟨rfl, -⟩ | ⟨-, -, -, -, hrepublished⟩⟩ :=
      markCleanupComplete_ok (mapError_eq_ok.mp h)
    · exact .kept rfl
    · exact .kept (by rw [hrepublished.frame])
  | commitCatalogedPublication id media location uploadVersion publicationVersion now metadata =>
    obtain ⟨row, rfl, -⟩ | ⟨row, publication, ⟨hversion, -⟩, hcataloged, -⟩ :=
      commitCatalogedPublication_ok (hlogin id) (mapError_eq_ok.mp h)
    · exact .kept rfl
    · have hid := session?_id hcataloged.found
      have hfound := hcataloged.found
      rw [← hid] at hfound
      refine .mutated row (catalogedRow row now) hfound (by rw [hid, hversion]; rfl)
        (.cataloged now hcataloged.published) hcataloged.valid rfl fun k => ?_
      rw [hcataloged.session? k, hid]
  | removeMedia mediaId =>
    cases h
    exact .kept rfl

end UploadStore
end FrameNest.Uploads
