import FrameNest.Uploads.ServiceOperations
import FrameNest.Uploads.StoreDiscipline

/-! What the services' own use of the repositories can make of the session rows, and of the
places of their byte identities: one statement about every committed operation. -/
namespace FrameNest.Uploads
open Relational

namespace UploadStore

/-- The publication of the upload names a medium. -/
def Linked (s : UploadStore) (id : UploadSessionId) : Prop :=
  ∃ p, s.publication? id = some p ∧ p.mediaId.isSome = true

/-- No other session holds the place of the identity. -/
def PlaceFree (s : UploadStore) (id : UploadSessionId) (identity : MediaByteIdentityId) : Prop :=
  ∀ row, s.session? row.id = some row → row.id ≠ id → row.byteIdentityId = some identity →
    s.isCanonical row = false

/-- Cataloged sessions are given no new link. -/
def KeepsLinks (s t : UploadStore) : Prop :=
  ∀ id row, s.session? id = some row → row.state = .cataloged → t.Linked id → s.Linked id

theorem isCanonical_iff {s : UploadStore} {row : UploadSessionRow} : s.isCanonical row = true ↔
    row.state = .publishPending ∨ row.state = .published ∨
      (row.state = .cataloged ∧ s.Linked row.id) := by
  simp only [isCanonical, Bool.or_eq_true, decide_eq_true_eq, Bool.and_eq_true, or_assoc, Linked]
  cases s.publication? row.id <;> simp

theorem canonicalExists_false {s : UploadStore} {id : UploadSessionId}
    {identity : MediaByteIdentityId} (h : s.canonicalExists id identity = false) :
    s.PlaceFree id identity := by
  intro row hrow hne hidentity
  have hmem := mem_session?.mpr hrow
  have hfree := List.any_eq_false.mp h row hmem
  simpa [hne, hidentity] using hfree

theorem KeepsLinks.of_publications {s t : UploadStore} (h : t.publications = s.publications) :
    KeepsLinks s t := by
  rintro id row - - ⟨p, hp, hlinked⟩
  refine ⟨p, ?_, hlinked⟩
  unfold publication? at *
  rw [← h]
  exact hp

/-- A publication replaced by one that names no other medium. -/
theorem KeepsLinks.of_republished {s t : UploadStore} {id : UploadSessionId}
    {before after : UploadPublicationRow} (h : Republished s t id before after)
    (hmedia : after.mediaId = before.mediaId) : KeepsLinks s t := by
  rintro k row - - ⟨p, hp, hlinked⟩
  rw [h.publication?] at hp
  split at hp
  · rename_i hid
    cases hp
    exact ⟨before, by rw [← hid]; exact h.found, by rw [← hmedia]; exact hlinked⟩
  · exact ⟨p, hp, hlinked⟩

theorem KeepsLinks.trans {s t u : UploadStore} (h : KeepsLinks s t)
    (hsame : t.sessions = s.sessions) (h' : KeepsLinks t u) : KeepsLinks s u := by
  intro id row hrow hstate hlinked
  refine h id row hrow hstate (h' id row ?_ hstate hlinked)
  unfold session?
  rw [hsame]
  exact hrow

end UploadStore

open UploadStore

/-- The states that plain statements leave to validation, disposition and publication. -/
def placeStates : List UploadSessionState :=
  [.duplicatePending, .publishPending, .published, .cataloged]

/-- What a committed operation of the services makes of a session row. -/
inductive ServiceMutation (F : UploadSessionState → Prop) (s : UploadStore)
    (before : UploadSessionRow) : UploadSessionRow → Prop where
  | edited (after : UploadSessionRow) (hstate : after.state = before.state)
      (hdisposition : after.duplicateDisposition = before.duplicateDisposition)
      (hidentity : after.byteIdentityId = before.byteIdentityId) : ServiceMutation F s before after
  | moved (target : UploadSessionState) (time : Int) (failureCode : Option String)
      (allowed : target ∈ allowedUploadSessionTransitions before.state)
      (plain : target ∉ placeStates) (failed : target = .failed → F before.state)
      (received : target = .received → F .received) :
      ServiceMutation F s before { before with
        state := target, updatedAtMs := time, failureCode, version := before.version + 1 }
  | validated (checksumHex : String) (kind : UploadValidatedMediaKind)
      (format : UploadValidatedFormat) (identity : MediaByteIdentityId) (canonicalExists : Bool)
      (time : Int) (hs : before.state = .validating)
      (free : canonicalExists = false → s.PlaceFree before.id identity) :
      ServiceMutation F s before
        (validatedRow before checksumHex kind format identity canonicalExists time)
  | disposed (disposition : UploadDuplicateDisposition) (time : Int)
      (hs : before.state = .duplicatePending) (hn : before.duplicateDisposition = none) :
      ServiceMutation F s before { before with
        state := dispositionTarget disposition, duplicateDisposition := some disposition,
        updatedAtMs := time, version := before.version + 1 }
  | published (time : Int) (hs : before.state = .publishPending) :
      ServiceMutation F s before (publishedRow before time)
  | cataloged (time : Int) (hs : before.state = .published) :
      ServiceMutation F s before (catalogedRow before time)

/-- A committed operation of the services keeps the sessions, adds one that is empty, or
changes one, its own; and it links no session that is cataloged already. -/
inductive ServiceChange (F : UploadSessionState → Prop) (op : Operation) (s t : UploadStore) :
    Prop where
  | kept (h : t.sessions = s.sessions) (links : KeepsLinks s t)
  | created (row : UploadSessionRow) (hnew : s.session? row.id = none) (hvalid : row.Valid)
      (empty : row.state = .created)
      (h : ∀ id, t.session? id = if row.id = id then some row else s.session? id)
      (links : KeepsLinks s t)
  | mutated (before after : UploadSessionRow) (found : s.session? before.id = some before)
      (guarded : op.guardedBy = some (before.id, before.version))
      (hm : Mutation before after) (hs : ServiceMutation F s before after) (hvalid : after.Valid)
      (h : ∀ id, t.session? id = if before.id = id then some after else s.session? id)
      (links : KeepsLinks s t)

section Change
variable {F : UploadSessionState → Prop} {op : Operation} {s t u : UploadStore}
  {id : UploadSessionId} {before after : UploadSessionRow}

theorem ServiceChange.of_updated (h : Updated u t before after) (hsame : u.sessions = s.sessions)
    (guarded : op.guardedBy = some (id, before.version)) (hid : before.id = id)
    (hm : Mutation before after) (hs : ServiceMutation F s before after) (links : KeepsLinks s u) :
    ServiceChange F op s t := by
  have hfind : ∀ k, u.session? k = s.session? k := by
    intro k
    unfold session?
    rw [hsame]
  refine .mutated before after ?_ (by rw [hid]; exact guarded) hm hs h.valid ?_ ?_
  · rw [← hfind]
    exact h.found
  · intro k
    rw [h.session? k, hfind]
  · exact links.trans hsame (.of_publications (by rw [h.frame]))

/-- The same for a statement that touches the session table alone. -/
theorem ServiceChange.of_row (h : Updated s t before after)
    (guarded : op.guardedBy = some (id, before.version)) (hid : before.id = id)
    (hm : Mutation before after) (hs : ServiceMutation F s before after) :
    ServiceChange F op s t :=
  .of_updated h rfl guarded hid hm hs (.of_publications rfl)

theorem removeMedia_linked {mediaId : MediaId} (h : (s.removeMedia mediaId).Linked id) :
    s.Linked id := by
  obtain ⟨p, hp, hlinked⟩ := h
  have hfind : (s.removeMedia mediaId).publication? id =
      (s.publication? id).map (detached mediaId) :=
    Table.find?_updateAll (detached mediaId) (detached_uploadId mediaId) id
  rw [hfind] at hp
  obtain ⟨q, hq, rfl⟩ := Option.map_eq_some_iff.mp hp
  refine ⟨q, hq, ?_⟩
  unfold detached at hlinked
  split at hlinked
  · cases hlinked
  · exact hlinked

theorem placeStates_of_service {target : UploadSessionState}
    (h : target ∈ serviceTransitionTargets) : target ∉ placeStates := by
  revert h
  cases target <;> decide

theorem UploadStore.Cataloged.keepsLinks {media : LogicalMedia} {location : MediaLocation}
    {metadata : Option MediaMetadata} {now : Int} {publication : UploadPublicationRow}
    (h : Cataloged s t id media location metadata now before publication) : KeepsLinks s t := by
  rintro k row hrow hstate ⟨p, hp, hlinked⟩
  have hne : id ≠ k := by
    intro hk
    have hfound := h.found
    rw [hk, hrow] at hfound
    cases hfound
    rw [h.published] at hstate
    cases hstate
  rw [h.publication?, if_neg hne] at hp
  exact ⟨p, hp, hlinked⟩

theorem reservation_keepsLinks {reservation : UploadPublicationRow} {row : UploadSessionRow}
    (hrow : s.session? reservation.uploadId = some row) (hstate : row.state = .publishPending)
    (hinsert : s.publications.insert? reservation = some t.publications) : KeepsLinks s t := by
  rintro k other hother hcataloged ⟨p, hp, hlinked⟩
  have hfind : t.publication? k = if reservation.uploadId = k then some reservation
      else s.publication? k := Table.find?_insert hinsert k
  rw [hfind] at hp
  split at hp
  · rename_i hk
    rw [hk, hother] at hrow
    cases hrow
    rw [hstate] at hcataloged
    cases hcataloged
  · exact ⟨p, hp, hlinked⟩

/-- Every operation the services commit, in one of the three ways. -/
theorem perform_service {a : op.Answer} (hop : op.OfService F) (hload : s.AllLoad)
    (h : op.perform s = .ok (a, t)) : ServiceChange F op s t := by
  have hlogin : ∀ id row, s.session? id = some row →
      row.createdByLoginKey.all isCreatedByLoginKey = true := fun id row hrow =>
    (hload id row hrow).login_key
  cases op with
  | create session =>
    obtain ⟨row, hnew, hvalid, -, -, hfind, ⟨identities, hframe, -⟩, hrow, -⟩ :=
      create_ok (mapError_eq_ok.mp h)
    have hempty : row.state = .created := by
      rw [hrow]
      exact hop
    exact .created row hnew hvalid hempty hfind (.of_publications (by rw [hframe]))
  | getSession id =>
    have h' := mapError_eq_ok.mp h
    unfold Operation.loadSession at h'
    split at h'
    · cases h'
      exact .kept rfl (.of_publications rfl)
    · split at h'
      · cases h'
        exact .kept rfl (.of_publications rfl)
      · cases h'
  | advanceReceivedOffset id expected accepted version now =>
    obtain ⟨row, hrow, ⟨hstate, hoffset, hversion, hpos, -⟩, hupdated, -⟩ :=
      advanceReceivedOffset_ok (mapError_eq_ok.mp h)
    exact .of_row hupdated (by rw [hversion]; rfl) (session?_id hrow)
      (.advanced (expected + accepted) now hstate (by omega)) (.edited _ rfl rfl rfl)
  | recordCompletedChecksum id expected version checksumHex now =>
    obtain ⟨row, hrow, ⟨-, hversion, halg, hhex⟩, hupdated⟩ | rfl :=
      recordCompletedChecksum_ok (mapError_eq_ok.mp h)
    · exact .of_row hupdated (by rw [hversion]; rfl) (session?_id hrow)
        (.checksum checksumHex now halg hhex) (.edited _ rfl rfl rfl)
    · exact .kept rfl (.of_publications rfl)
  | transitionState id expected target version now failureCode =>
    obtain ⟨row, hrow, ⟨hstate, hversion, hallowed⟩, hupdated, -⟩ :=
      transitionState_ok (mapError_eq_ok.mp h)
    rw [← hstate] at hallowed
    refine .of_row hupdated (by rw [hversion]; rfl) (session?_id hrow)
      (.moved target now failureCode hallowed) (.moved target now failureCode hallowed
        (placeStates_of_service hop.1) (fun hfailed => ?_) hop.2.2)
    rw [hstate]
    exact hop.2.1 hfailed
  | startValidation id version now =>
    obtain ⟨row, hrow, ⟨hstate, hversion⟩, hupdated, -⟩ := startValidation_ok (mapError_eq_ok.mp h)
    have hallowed : .validating ∈ allowedUploadSessionTransitions row.state := by
      rw [hstate]
      decide
    exact .of_row hupdated (by rw [hversion]; rfl) (session?_id hrow)
      (.moved .validating now row.failureCode hallowed)
      (.moved .validating now row.failureCode hallowed (by decide) nofun nofun)
  | completeValidationSuccess id version checksumHex kind format now freshId =>
    obtain ⟨row, identity, u, hrow, ⟨hstate, hversion, hnone⟩, hidentity, hupdated, -⟩ | ⟨rfl, -⟩ :=
      completeValidationSuccess_ok (mapError_eq_ok.mp h)
    · obtain ⟨-, -, -, hframe, -⟩ := getOrCreateByteIdentity_ok hidentity
      have hsessions : u.sessions = s.sessions := by rw [hframe]
      have hpublications : u.publications = s.publications := by rw [hframe]
      have hid := session?_id hrow
      refine .of_updated hupdated hsessions (by rw [hversion]; rfl) hid
        (.validated checksumHex kind format identity.id _ now hstate hnone)
        (.validated checksumHex kind format identity.id _ now hstate fun hfree => ?_)
        (.of_publications hpublications)
      rw [hid]
      -- the lookup ran in the same transaction, on the same sessions and publications
      intro other hother hne hplace
      have hcanonical := canonicalExists_false hfree other (by
        unfold session?
        rw [hsessions]
        exact hother) hne hplace
      unfold isCanonical publication? at *
      rw [← hpublications]
      exact hcanonical
    · exact .kept rfl (.of_publications rfl)
  | recordDuplicateDisposition id version disposition now =>
    obtain ⟨row, hrow, ⟨hstate, hversion, hnone⟩, hupdated, -⟩ :=
      recordDuplicateDisposition_ok (mapError_eq_ok.mp h)
    exact .of_row hupdated (by rw [hversion]; rfl) (session?_id hrow)
      (.disposed disposition now hstate hnone) (.disposed disposition now hstate hnone)
  | rejectValidation id version failureCode now =>
    obtain ⟨row, hrow, ⟨hstate, hversion⟩, hupdated, -⟩ := rejectValidation_ok (mapError_eq_ok.mp h)
    have hallowed : .rejected ∈ allowedUploadSessionTransitions row.state := by
      rw [hstate]
      decide
    exact .of_row hupdated (by rw [hversion]; rfl) (session?_id hrow)
      (.moved .rejected now (some failureCode) hallowed)
      (.moved .rejected now (some failureCode) hallowed (by decide) nofun nofun)
  | getOrCreateByteIdentity identity =>
    obtain ⟨-, -, -, hframe, -⟩ := getOrCreateByteIdentity_ok (mapError_eq_ok.mp h)
    exact .kept (by rw [hframe]) (.of_publications (by rw [hframe]))
  | getCandidate id =>
    obtain ⟨candidate, -, heq⟩ := map_eq_ok.mp (mapError_eq_ok.mp h)
    cases heq
    exact .kept rfl (.of_publications rfl)
  | getOrCreateReservation reservation version =>
    obtain ⟨-, ⟨rfl, -⟩ | ⟨row, hrow, -, hstate, -, -, -, -, hframe, hinsert, -⟩⟩ :=
      getOrCreateReservation_ok (mapError_eq_ok.mp h)
    · exact .kept rfl (.of_publications rfl)
    · exact .kept (by rw [hframe]) (reservation_keepsLinks hrow hstate hinsert)
  | commitVerifiedPublication id publicationId uploadVersion publicationVersion now =>
    obtain ⟨row, publication, rfl, -⟩ | ⟨row, publication, u, hrow, ⟨hstate, hversion⟩, -,
        hrepublished, hupdated, -⟩ :=
      commitVerifiedPublication_ok (hlogin id) (mapError_eq_ok.mp h)
    · exact .kept rfl (.of_publications rfl)
    · exact .of_updated hupdated (by rw [hrepublished.frame]) (by rw [hversion]; rfl)
        (session?_id hrow) (.published now hstate) (.published now hstate)
        (.of_republished hrepublished rfl)
  | markCleanupComplete id publicationId publicationVersion now =>
    obtain ⟨row, publication, -, -, -, -, ⟨rfl, -⟩ | ⟨-, -, -, -, hrepublished⟩⟩ :=
      markCleanupComplete_ok (mapError_eq_ok.mp h)
    · exact .kept rfl (.of_publications rfl)
    · exact .kept (by rw [hrepublished.frame]) (.of_republished hrepublished rfl)
  | commitCatalogedPublication id media location uploadVersion publicationVersion now metadata =>
    obtain ⟨row, rfl, -⟩ | ⟨row, publication, ⟨hversion, -⟩, hcataloged, -⟩ :=
      commitCatalogedPublication_ok (hlogin id) (mapError_eq_ok.mp h)
    · exact .kept rfl (.of_publications rfl)
    · have hid := session?_id hcataloged.found
      have hfound := hcataloged.found
      rw [← hid] at hfound
      refine .mutated row (catalogedRow row now) hfound (by rw [hid, hversion]; rfl)
        (.cataloged now hcataloged.published) (.cataloged now hcataloged.published)
        hcataloged.valid (fun k => ?_) hcataloged.keepsLinks
      rw [hcataloged.session? k, hid]
  | removeMedia mediaId =>
    cases h
    exact .kept rfl fun id row _ _ hlinked => removeMedia_linked hlinked

end Change
end FrameNest.Uploads

/-! All calls of the upload services beside each other: every transaction is an operation
the services use, on a session of its own. -/
namespace FrameNest.Uploads
open Relational Concurrent UploadStore

section Answers
variable {A : UploadSession → Prop} {s t : UploadStore}

theorem loadSession_ok {id : UploadSessionId} {found : Option UploadSession}
    (h : Operation.loadSession id s = .ok (found, t)) :
    t = s ∧ s.session? id = found.map UploadSession.toUploadSessionRow := by
  unfold Operation.loadSession at h
  split at h
  · rename_i hnone
    cases h
    exact ⟨rfl, hnone⟩
  · rename_i row hrow
    split at h
    · rename_i session hsession
      cases h
      refine ⟨rfl, ?_⟩
      rw [hrow, Option.map_some, sessionFromRow_some hsession]
    · cases h

theorem answered_id {id : UploadSessionId} {row after : UploadSessionRow} {session : UploadSession}
    (hrow : s.session? id = some row) (hupdated : Updated s t row after)
    (hsession : session.toUploadSessionRow = after) : session.id = id := by
  have hid := hupdated.same_id
  rw [← hsession, session?_id hrow] at hid
  exact hid

/-- Operations answer about the row they were asked for. -/
theorem perform_answers {op : Operation} {a : op.Answer} (hload : s.AllLoad)
    (h : op.perform s = .ok (a, t))
    (hA : ∀ id (session : UploadSession), op = .getSession id →
      s.session? id = some session.toUploadSessionRow → A session) :
    op.AnswersWith A a := by
  have hlogin : ∀ id row, s.session? id = some row →
      row.createdByLoginKey.all isCreatedByLoginKey = true := fun id row hrow =>
    (hload id row hrow).login_key
  cases op with
  | getSession id =>
    rintro session rfl
    obtain ⟨-, hrow⟩ := loadSession_ok (mapError_eq_ok.mp h)
    exact ⟨session?_id hrow, hA id _ rfl hrow⟩
  | advanceReceivedOffset id expected accepted version now =>
    obtain ⟨row, hrow, -, hupdated, hsession⟩ := advanceReceivedOffset_ok (mapError_eq_ok.mp h)
    exact answered_id hrow hupdated hsession
  | transitionState id expected target version now failureCode =>
    obtain ⟨row, hrow, -, hupdated, hsession⟩ := transitionState_ok (mapError_eq_ok.mp h)
    exact answered_id hrow hupdated hsession
  | startValidation id version now =>
    obtain ⟨row, hrow, -, hupdated, hsession⟩ := startValidation_ok (mapError_eq_ok.mp h)
    exact answered_id hrow hupdated hsession
  | completeValidationSuccess id version checksumHex kind format now freshId =>
    obtain ⟨row, identity, u, hrow, -, -, hupdated, hsession⟩ | ⟨-, hrow⟩ :=
      completeValidationSuccess_ok (mapError_eq_ok.mp h)
    · have hid := hupdated.same_id
      rw [← hsession, session?_id hrow] at hid
      exact hid
    · exact session?_id hrow
  | recordDuplicateDisposition id version disposition now =>
    obtain ⟨row, hrow, -, hupdated, hsession⟩ := recordDuplicateDisposition_ok (mapError_eq_ok.mp h)
    exact answered_id hrow hupdated hsession
  | rejectValidation id version failureCode now =>
    obtain ⟨row, hrow, -, hupdated, hsession⟩ := rejectValidation_ok (mapError_eq_ok.mp h)
    exact answered_id hrow hupdated hsession
  | getCandidate id =>
    rintro candidate rfl
    obtain ⟨found, hfound, hsame⟩ := map_eq_ok.mp (mapError_eq_ok.mp h)
    cases hsame
    obtain ⟨row, hloaded⟩ := getCandidate_ok hfound
    exact hloaded.upload_id
  | getOrCreateReservation reservation version =>
    obtain ⟨⟨row, hloaded⟩, -⟩ := getOrCreateReservation_ok (mapError_eq_ok.mp h)
    exact hloaded.upload_id
  | commitVerifiedPublication id publicationId uploadVersion publicationVersion now =>
    obtain ⟨row, publication, rfl, hloaded, -⟩ | ⟨row, publication, u, -, -, -, -, -, hloaded⟩ :=
      commitVerifiedPublication_ok (hlogin id) (mapError_eq_ok.mp h)
    · exact hloaded.upload_id
    · exact hloaded.upload_id
  | markCleanupComplete id publicationId publicationVersion now =>
    obtain ⟨row, publication, hloaded, -⟩ := markCleanupComplete_ok (mapError_eq_ok.mp h)
    exact hloaded.upload_id
  | commitCatalogedPublication id media location uploadVersion publicationVersion now metadata =>
    obtain ⟨row, rfl, hloaded, -⟩ | ⟨row, publication, -, -, hloaded⟩ :=
      commitCatalogedPublication_ok (hlogin id) (mapError_eq_ok.mp h)
    · exact hloaded.upload_id
    · exact hloaded.upload_id
  | create | recordCompletedChecksum | getOrCreateByteIdentity | removeMedia => trivial

end Answers

/-! Which calls hold the lease of a session, and what they issue under it. -/
section Calls
variable {A : UploadSession → Prop} {F : UploadSessionState → Prop} {S : UploadServices}

/- The session whose lease a call holds. -/
def UploadCall.lease : UploadCall → Option UploadSessionId
  | .createSession _ | .getStatus _ | .removeMedia _ => none
  | .receiveChunk id .. | .complete id | .cancel id | .resolveDuplicate id _ | .validate id
  | .recoverValidating id | .publish id | .catalog id => some id

def UploadCall.isReceive : UploadCall → Bool
  | .receiveChunk .. => true
  | _ => false

def owns (lease : Option UploadSessionId) (id : UploadSessionId) : Prop := lease = some id

theorem issues_outcome {own : UploadSessionId → Prop} {α : Type} {f : α → UploadOutcome}
    {p : UploadProgram α} (h : Issues (answersWith A) (allowedFor F own) (fun _ => True) p) :
    Issues (answersWith A) (allowedFor F own) (fun _ => True) (outcome f p) :=
  h.bind fun _ _ => trivial

theorem issues_leased {id : UploadSessionId} {α : Type} {f : α → UploadOutcome}
    {p : UploadProgram α} (h : Issues (answersWith A) (allowedFor F (· = id)) (fun _ => True) p) :
    Issues (answersWith A) (allowedFor F (owns (some id))) (fun _ => True) (outcome f p) := by
  refine (issues_outcome h).mono (fun _ _ => trivial) (fun e he => ?_) fun _ _ ha => ha
  cases e with
  | repository op => exact ⟨he.1, fun k version hk => by rw [he.2 k version hk]; rfl⟩
  | _ => trivial

/-- Every call but `receive_chunk`, whatever it loads. -/
theorem issues_program (c : UploadCall) (hc : c.isReceive = false) (hvalidating : F .validating)
    (hreceiving : F .receiving) (hreceived : F .received) :
    Issues (answersWith A) (allowedFor F (owns c.lease)) (fun _ => True) (S.program c) := by
  cases c with
  | createSession request => exact issues_outcome issues_createSession
  | getStatus id => exact issues_outcome issues_getStatus
  | receiveChunk id uploadOffset contentLength body => cases hc
  | complete id => exact issues_leased (issues_complete hreceiving hreceived)
  | cancel id => exact issues_leased issues_cancel
  | resolveDuplicate id resolution => exact issues_leased issues_resolveDuplicate
  | validate id => exact issues_leased (issues_validateOwnedBlocking hvalidating)
  | recoverValidating id => exact issues_leased (issues_recoverAbandoned hvalidating)
  | publish id => exact issues_leased issues_publishOwnedBlocking
  | catalog id => exact issues_leased issues_catalogOwnedBlocking
  | removeMedia mediaId =>
    exact issues_outcome (Issues.perform ⟨trivial, fun _ _ h => by cases h⟩ fun _ _ => trivial)

/-- Every call, when sessions may be failed in any state. -/
theorem issues_program_any (c : UploadCall) : Issues (answersWith fun _ => True)
    (allowedFor (fun _ => True) (owns c.lease)) (fun _ => True) (S.program c) := by
  cases hc : c.isReceive with
  | false => exact issues_program c hc trivial trivial trivial
  | true =>
    cases c with
    | receiveChunk id uploadOffset contentLength body =>
      exact issues_leased (issues_receiveChunk fun session hid _ =>
        issues_receiveLoaded (fun _ _ _ => trivial) trivial hid)
    | _ => cases hc

end Calls
end FrameNest.Uploads
