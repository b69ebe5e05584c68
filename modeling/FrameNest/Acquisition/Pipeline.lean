import FrameNest.Relational.Ordering
import FrameNest.Uploads.Store

/-! Upload sessions as the acquisition coordinators see them: one row for each session with
the bytes it has received and its catalog link, the four transport calls, and what the
validation, publication and catalog services make of a session between two calls. -/
namespace FrameNest.Acquisition
open Relational Uploads

/-- The medium and the location that cataloging an upload made. -/
structure CatalogLink where
  mediaId : MediaId
  mediaLocationId : MediaLocationId
deriving DecidableEq

/-- A session row, the bytes its quarantine file holds and its publication's link. -/
structure Upload where
  id : UploadSessionId
  storageKey : String
  displayFilename : String
  declaredSizeBytes : Nat
  createdByLoginKey : Option String
  duplicateResolutionMode : UploadDuplicateResolutionMode
  state : UploadSessionState
  content : List UInt8
  byteIdentityId : Option MediaByteIdentityId
  duplicateDisposition : Option UploadDuplicateDisposition
  link : Option CatalogLink
  updatedAtMs : Nat
deriving DecidableEq

def Upload.receivedSizeBytes (u : Upload) : Nat := u.content.length

/-- The uploads, the live catalog media with their locations, and every media identity that
cataloging has drawn. -/
structure Pipeline where
  uploads : Table Upload.id
  media : List CatalogLink
  drawn : List MediaId

/-- What `create_session` is asked for by a coordinator. -/
structure SessionRequest where
  sessionId : UploadSessionId
  storageKey : String
  displayFilename : String
  declaredSizeBytes : Nat
  createdByLoginKey : Option String
  duplicateResolutionMode : UploadDuplicateResolutionMode
deriving DecidableEq

/-- The part of an `UploadSessionSnapshot` that the coordinators read. -/
structure UploadSnapshot where
  state : UploadSessionState
  receivedSizeBytes : Nat
deriving DecidableEq

/- A session that still takes bytes. -/
def UploadSnapshot.isOpen (snapshot : UploadSnapshot) : Bool :=
  snapshot.state = .created || snapshot.state = .receiving

def Upload.snapshot (u : Upload) : UploadSnapshot := ⟨u.state, u.receivedSizeBytes⟩

/-- How a transport call goes wrong: before anything was committed, because the session is
out of time or its file is not what its row says, once the session has begun to receive, or
after its last commit. -/
inductive TransportFault where
  | refused | expired | inconsistent | started | late
deriving DecidableEq

inductive DuplicateResolution where
  | keepSeparate | discard
deriving DecidableEq

def DuplicateResolution.disposition : DuplicateResolution → UploadDuplicateDisposition
  | .keepSeparate => .keepSeparate
  | .discard => .discard

namespace SessionRequest

/- The row of a new session. -/
def row (request : SessionRequest) (now : Nat) : Upload :=
  { id := request.sessionId
    storageKey := request.storageKey
    displayFilename := request.displayFilename
    declaredSizeBytes := request.declaredSizeBytes
    createdByLoginKey := request.createdByLoginKey
    duplicateResolutionMode := request.duplicateResolutionMode
    state := .created
    content := []
    byteIdentityId := none
    duplicateDisposition := none
    link := none
    updatedAtMs := now }

/- The existing session is the one the request would have made. -/
def sameAs (request : SessionRequest) (u : Upload) : Bool :=
  u.storageKey = request.storageKey && u.displayFilename = request.displayFilename &&
    u.declaredSizeBytes = request.declaredSizeBytes &&
    u.createdByLoginKey = request.createdByLoginKey &&
    u.duplicateResolutionMode = request.duplicateResolutionMode

end SessionRequest

namespace Pipeline

def empty : Pipeline := ⟨.empty, [], []⟩

def upload? (p : Pipeline) (id : UploadSessionId) : Option Upload := p.uploads.find? id

/- UPDATE of one session. -/
def update (p : Pipeline) (id : UploadSessionId) (set : Upload → Upload)
    (hset : ∀ u, (set u).id = u.id) : Pipeline :=
  { p with uploads := p.uploads.update id set hset }

/- A plain transition, where the table of transitions has it. -/
def leave (p : Pipeline) (u : Upload) (target : UploadSessionState) (now : Nat) : Pipeline :=
  if target ∈ allowedUploadSessionTransitions u.state then
    p.update u.id (fun u => { u with state := target, updatedAtMs := now }) fun _ => rfl
  else p

/-- `create_session` with both identities given; `none` stands for an `UploadTransportError`. -/
def createSession (fault : Option TransportFault) (now : Nat) (request : SessionRequest)
    (p : Pipeline) : Option UploadSnapshot × Pipeline :=
  if fault = some .refused || request.declaredSizeBytes = 0 then (none, p)
  else
    match p.upload? request.sessionId with
    | some u => if request.sameAs u then (some u.snapshot, p) else (none, p)
    | none =>
      if p.uploads.rows.any fun u => u.storageKey = request.storageKey then (none, p)
      else
        match p.uploads.insert? (request.row now) with
        | none => (none, p)
        | some uploads =>
          if fault = some .late then (none, { p with uploads })
          else (some (request.row now).snapshot, { p with uploads })

/-- `receive_chunk`: the bytes are durable before the offset moves, so a chunk is taken
whole or not at all. -/
def receiveChunk (fault : Option TransportFault) (now : Nat) (id : UploadSessionId)
    (uploadOffset : Nat) (chunk : List UInt8) (p : Pipeline) : Option UploadSnapshot × Pipeline :=
  match p.upload? id with
  | none => (none, p)
  | some u =>
    if fault = some .refused || chunk = [] then (none, p)
    else if fault = some .expired then (none, p.leave u .expired now)
    else if u.receivedSizeBytes ≠ uploadOffset then (none, p)
    else if u.state ≠ .created ∧ u.state ≠ .receiving then (none, p)
    else
      let receiving := p.update id
        (fun u => { u with state := .receiving, updatedAtMs := now }) fun _ => rfl
      if fault = some .started || uploadOffset + chunk.length > u.declaredSizeBytes then
        (none, receiving)
      else if fault = some .inconsistent then
        (none, p.update id (fun u => { u with state := .failed, updatedAtMs := now }) fun _ => rfl)
      else
        let taken := p.update id (fun u => { u with
          state := .receiving, content := u.content ++ chunk, updatedAtMs := now }) fun _ => rfl
        if fault = some .late then (none, taken)
        else (some ⟨.receiving, uploadOffset + chunk.length⟩, taken)

/-- `complete`. -/
def complete (fault : Option TransportFault) (now : Nat) (id : UploadSessionId) (p : Pipeline) :
    Option UploadSnapshot × Pipeline :=
  match p.upload? id with
  | none => (none, p)
  | some u =>
    if fault = some .refused then (none, p)
    else if fault = some .expired then (none, p.leave u .expired now)
    else if u.state ≠ .received ∧ u.state ≠ .receiving then (none, p)
    else if fault = some .inconsistent then (none, p.leave u .failed now)
    else if u.state = .received then (some u.snapshot, p)
    else if u.receivedSizeBytes ≠ u.declaredSizeBytes then (none, p)
    else
      let received := p.update id
        (fun u => { u with state := .received, updatedAtMs := now }) fun _ => rfl
      if fault = some .late then (none, received)
      else (some ⟨.received, u.receivedSizeBytes⟩, received)

/- What `record_duplicate_disposition` writes. -/
def dispose (p : Pipeline) (id : UploadSessionId) (disposition : UploadDuplicateDisposition)
    (now : Nat) : Pipeline :=
  p.update id (fun u => { u with
    state := UploadStore.dispositionTarget disposition
    duplicateDisposition := some disposition
    updatedAtMs := now }) fun _ => rfl

/-- A row that holds the place of its byte identity. -/
def isCanonical (u : Upload) : Bool :=
  u.state = .publishPending || u.state = .published || (u.state = .cataloged && u.link.isSome)

/- `canonical_exists` of `complete_validation_success`. -/
def canonicalExists (p : Pipeline) (id : UploadSessionId) (identity : MediaByteIdentityId) : Bool :=
  p.uploads.rows.any fun u =>
    u.id ≠ id && u.byteIdentityId = some identity && isCanonical u

end Pipeline

/-- What other parties do to the uploads, one transaction each. -/
inductive PipelineMove where
  /-- Another client's session, received in full. -/
  | arrive (upload : Upload)
  | startValidation (id : UploadSessionId) (now : Nat)
  | completeValidation (id : UploadSessionId) (identity : MediaByteIdentityId) (now : Nat)
  /-- Rejected, failed, expired or cancelled. -/
  | leave (id : UploadSessionId) (target : UploadSessionState) (now : Nat)
  | dispose (id : UploadSessionId) (resolution : DuplicateResolution) (now : Nat)
  | publish (id : UploadSessionId) (now : Nat)
  | catalog (id : UploadSessionId) (link : CatalogLink) (now : Nat)
deriving DecidableEq

def PipelineMove.target : PipelineMove → UploadSessionId
  | arrive upload => upload.id
  | startValidation id _ | completeValidation id _ _ | leave id _ _ | dispose id _ _
  | publish id _ | catalog id _ _ => id

/- The states a session is left in by the plain transitions of other parties. -/
def leavingStates : List UploadSessionState := [.rejected, .failed, .expired, .cancelled]

namespace Pipeline

/- A session changed where it is found in the given state. -/
def changeFrom (p : Pipeline) (id : UploadSessionId) (state : UploadSessionState)
    (set : Upload → Upload) (hset : ∀ u, (set u).id = u.id) : Pipeline :=
  match p.upload? id with
  | some u => if u.state = state then p.update id set hset else p
  | none => p

def move (p : Pipeline) : PipelineMove → Pipeline
  | .arrive upload =>
    if upload.state = .received && upload.content.length = upload.declaredSizeBytes &&
        upload.byteIdentityId.isNone && upload.duplicateDisposition.isNone &&
        upload.link.isNone && !(p.uploads.rows.any fun u => u.storageKey = upload.storageKey) then
      match p.uploads.insert? upload with
      | some uploads => { p with uploads }
      | none => p
    else p
  | .startValidation id now =>
    p.changeFrom id .received (fun u => { u with state := .validating, updatedAtMs := now })
      fun _ => rfl
  | .completeValidation id identity now =>
    let exists_ := p.canonicalExists id identity
    p.changeFrom id .validating (fun u => { u with
      state := (UploadStore.validationOutcome u.duplicateResolutionMode exists_).1
      duplicateDisposition := (UploadStore.validationOutcome u.duplicateResolutionMode exists_).2
      byteIdentityId := some identity
      updatedAtMs := now }) fun _ => rfl
  | .leave id target now =>
    match p.upload? id with
    | some u => if target ∈ leavingStates then p.leave u target now else p
    | none => p
  | .dispose id resolution now =>
    match p.upload? id with
    | some u =>
      if u.state = .duplicatePending ∧ u.duplicateDisposition = none then
        p.dispose id resolution.disposition now
      else p
    | none => p
  | .publish id now =>
    p.changeFrom id .publishPending (fun u => { u with state := .published, updatedAtMs := now })
      fun _ => rfl
  | .catalog id link now =>
    match p.upload? id with
    | some u =>
      -- the identities of a new medium and its location have never been used
      if u.state = .published ∧ u.link = none ∧ link.mediaId ∉ p.drawn then
        { p.update id (fun u => { u with
            state := .cataloged, link := some link, updatedAtMs := now }) (fun _ => rfl) with
          media := p.media ++ [link]
          drawn := p.drawn ++ [link.mediaId] }
      else p
    | none => p

/- A removed medium leaves no upload linked to it. -/
def detach (mediaId : MediaId) (u : Upload) : Upload :=
  if u.link.any fun link => link.mediaId = mediaId then { u with link := none } else u

theorem detach_id (mediaId : MediaId) (u : Upload) : (detach mediaId u).id = u.id := by
  unfold detach
  split <;> rfl

/-- What a catalog removal does to these tables. -/
def removeMedia (p : Pipeline) (mediaId : MediaId) : Pipeline :=
  { p with
    uploads := p.uploads.updateAll (detach mediaId) (detach_id mediaId)
    media := p.media.filter fun link => link.mediaId ≠ mediaId }

end Pipeline
end FrameNest.Acquisition
