import FrameNest.Concurrent.System
import FrameNest.X.ClaimRepository

/-! What the X services call: the claim repository, the staging, the extractor, the upload
transport and the upload repositories, each call settled by one moment. -/
namespace FrameNest.X
open Concurrent Relational Uploads Acquisition

/-- What a download reports of the asset it has staged. -/
structure XAssetAcquisition where
  sizeBytes : Int
  sha256 : String
deriving DecidableEq

/-- An opened artifact: its key and the bytes behind the held descriptor. -/
structure StagedArtifactReader where
  stageKey : String
  content : List UInt8

variable {X : XDomain}

inductive XOperation (X : XDomain) where
  | createOrGetActive (claim : XPostClaim X)
  | getPost (id : XPostClaimId)
  | getOwnedPost (id : XPostClaimId) (createdByLoginKey : String)
  | findActiveByPostId (postId : List Char) (createdByLoginKey : String)
  | findOwnedSuccessfulByPostId (postId : List Char) (createdByLoginKey : String)
  | countActiveForRequester (createdByLoginKey : String)
  | countGlobalActiveOrdinary
  | countSubmitsSince (createdByLoginKey : String) (sinceMs : Int)
  | countFailedTransitionsSince (createdByLoginKey : String) (sinceMs : Int)
  | listRecoveryCandidates (limit : Nat)
  | listCleanupCandidates (limit : Nat)
  | listAssetsForPost (id : XPostClaimId)
  | createAssets (assets : List (XAsset X))
  | selectPost (claim : XPostClaim X) (expectedState : XAcquisitionState) (expectedVersion : Nat)
  | updatePost (claim : XPostClaim X) (expectedVersion : Nat)
  | selectAsset (asset : XAsset X) (expectedState : XAssetState) (expectedVersion : Nat)
  | updateAsset (asset : XAsset X) (expectedVersion : Nat)
  | removeCatalogMedia (mediaId : MediaId)

namespace XOperation

def Answer : XOperation X → Type
  | createOrGetActive _ => XPostClaim X × Bool
  | getPost _ | getOwnedPost .. | findActiveByPostId .. | findOwnedSuccessfulByPostId .. =>
    Option (XPostClaim X)
  | countActiveForRequester _ | countGlobalActiveOrdinary | countSubmitsSince ..
  | countFailedTransitionsSince .. => Nat
  | listRecoveryCandidates _ | listCleanupCandidates _ => List (XPostClaim X)
  | listAssetsForPost _ => List (XAsset X)
  | createAssets _ | selectPost .. | updatePost .. | selectAsset .. | updateAsset ..
  | removeCatalogMedia _ => Unit

/-- One statement, or one transaction. -/
def perform : (op : XOperation X) → XStore X → Except XError (op.Answer × XStore X)
  | createOrGetActive claim, s => s.createOrGetActive claim
  | getPost id, s => .ok (s.getPost id, s)
  | getOwnedPost id login, s => .ok (s.getOwnedPost id login, s)
  | findActiveByPostId postId login, s => .ok (s.findActiveByPostId postId (some login), s)
  | findOwnedSuccessfulByPostId postId login, s =>
    .ok (s.findOwnedSuccessfulByPostId postId login, s)
  | countActiveForRequester login, s => .ok (s.countActiveForRequester login, s)
  | countGlobalActiveOrdinary, s => .ok (s.countGlobalActiveOrdinary, s)
  | countSubmitsSince login since, s => .ok (s.countSubmitsSince login since, s)
  | countFailedTransitionsSince login since, s => .ok (s.countFailedTransitionsSince login since, s)
  | listRecoveryCandidates limit, s => .ok (s.listRecoveryCandidates limit, s)
  | listCleanupCandidates limit, s => .ok (s.listCleanupCandidates limit, s)
  | listAssetsForPost id, s => .ok (s.listAssetsForPost id, s)
  | createAssets assets, s => s.createAssets assets
  | selectPost claim state version, s => s.selectPost claim state version
  | updatePost claim version, s => s.updatePost claim version
  | selectAsset asset state version, s => s.selectAsset asset state version
  | updateAsset asset version, s => s.updateAsset asset version
  | removeCatalogMedia mediaId, s => s.removeCatalogMedia mediaId

end XOperation

inductive XEffect (X : XDomain) where
  | claims (op : XOperation X)
  | nowMs
  | newClaimId
  | newAssetId
  | freeSpaceBytes
  /-- Which of these media records of somebody else are bound to. -/
  | hiddenMedia (login : String) (media : List MediaId)
  | mediaCategory (id : MediaId)
  /-- A call of the alias overlay, which never touches a claim. -/
  | overlay
  | inspect (postId submittedUrl : List Char)
  | download (postId submittedUrl : List Char) (asset : XAsset X)
  | clear (stageKey : String)
  | openArtifact (stageKey : String) (expectedSizeBytes : Nat)
  | verifyStillConsistent (reader : StagedArtifactReader)
  | read (reader : StagedArtifactReader) (offset size : Nat)
  | createSession (request : SessionRequest)
  | receiveChunk (id : UploadSessionId) (uploadOffset : Nat) (chunk : List UInt8)
  | complete (id : UploadSessionId)
  | getUpload (id : UploadSessionId)
  | getCandidate (id : UploadSessionId)
  /-- Another coordinator is woken. -/
  | notify
  /-- What another party does to the uploads. -/
  | pipeline (move : PipelineMove)

def XEffect.Answer : XEffect X → Type
  | claims op => op.Answer
  | nowMs => Nat
  | newClaimId => XPostClaimId
  | newAssetId => XAssetId
  | freeSpaceBytes => Option Nat
  | hiddenMedia .. => List MediaId
  | mediaCategory _ => Option ContentCategory
  | overlay | clear _ | verifyStillConsistent _ | notify | pipeline _ => Unit
  | inspect .. => XNormalizedInspection
  | download .. => XAssetAcquisition
  | openArtifact .. => StagedArtifactReader
  | read .. => List UInt8
  | createSession _ | receiveChunk .. | complete _ => UploadSnapshot
  | getUpload _ | getCandidate _ => Option Upload

/-- What the surroundings make of one call. -/
structure XMoment where
  nowMs : Nat
  newClaimId : XPostClaimId
  newAssetId : XAssetId
  repositoryFails : Bool := false
  freeSpaceBytes : Except XError (Option Nat) := .ok none
  hidden : MediaId → Bool := fun _ => false
  /-- `none` where the category is not persisted, or nothing keeps categories. -/
  mediaCategory : Except XError (Option ContentCategory) := .ok none
  overlay : Except XError Unit := .ok ()
  inspection : Except XError XNormalizedInspection := .error .other
  /-- The artifact that a download leaves, whether it reports success or not. -/
  leaves : Option (List UInt8) := none
  download : Except XError XAssetAcquisition := .error .other
  clearFails : Bool := false
  /-- A clearing that raises may have removed the artifact before. -/
  clearRemoves : Bool := false
  stagingFails : Bool := false
  /-- A read of bytes that are there may return fewer of them. -/
  readLimit : Option Nat := none
  transportFault : Option TransportFault := none
  uploadsFail : Bool := false
  notifyFails : Bool := false

/-- The tables and the staging area. -/
structure XWorld (X : XDomain) where
  store : XStore X
  staging : String → Option (List UInt8)

def XWorld.empty (X : XDomain) : XWorld X := ⟨⟨.empty, .empty, .empty⟩, fun _ => none⟩

namespace XWorld

def withPipeline (w : XWorld X) (pipeline : Pipeline) : XWorld X :=
  { w with store := { w.store with pipeline } }

/- An answer of the transport, whose `none` is an `UploadTransportError`. -/
def transported (w : XWorld X) (answer : Option UploadSnapshot × Pipeline) :
    Except XError UploadSnapshot × XWorld X :=
  (match answer.1 with
    | some snapshot => .ok snapshot
    | none => .error .transport, w.withPipeline answer.2)

end XWorld

def exec (i : XMoment) : (e : XEffect X) → XWorld X → Except XError e.Answer × XWorld X
  | .claims op, w =>
    if i.repositoryFails then (.error (.repository .failed), w)
    else
      let (answer, store) := transaction w.store op.perform
      (answer, { w with store })
  | .nowMs, w => (.ok i.nowMs, w)
  | .newClaimId, w => (.ok i.newClaimId, w)
  | .newAssetId, w => (.ok i.newAssetId, w)
  | .freeSpaceBytes, w => (i.freeSpaceBytes, w)
  | .hiddenMedia _ media, w =>
    (if i.repositoryFails then .error (.repository .failed) else .ok (media.filter i.hidden), w)
  | .mediaCategory _, w => (i.mediaCategory, w)
  | .overlay, w => (i.overlay, w)
  | .inspect .., w => (i.inspection, w)
  | .download _ _ asset, w =>
    (i.download, { w with staging := Function.update w.staging asset.stageKey i.leaves })
  | .clear stageKey, w =>
    let removed := { w with staging := Function.update w.staging stageKey none }
    if i.clearFails then (.error .staging, if i.clearRemoves then removed else w)
    else (.ok (), removed)
  | .openArtifact stageKey expectedSizeBytes, w =>
    (match w.staging stageKey with
      | some content =>
        if i.stagingFails || content.length ≠ expectedSizeBytes then .error .staging
        else .ok ⟨stageKey, content⟩
      | none => .error .staging, w)
  | .verifyStillConsistent _, w => (if i.stagingFails then .error .staging else .ok (), w)
  | .read reader offset size, w =>
    (if i.stagingFails then .error .staging
      else .ok ((reader.content.drop offset).take (min size (i.readLimit.getD size))), w)
  | .createSession request, w =>
    w.transported (w.store.pipeline.createSession i.transportFault i.nowMs request)
  | .receiveChunk id uploadOffset chunk, w =>
    w.transported (w.store.pipeline.receiveChunk i.transportFault i.nowMs id uploadOffset chunk)
  | .complete id, w => w.transported (w.store.pipeline.complete i.transportFault i.nowMs id)
  | .getUpload id, w | .getCandidate id, w =>
    (if i.uploadsFail then .error .other else .ok (w.store.pipeline.upload? id), w)
  | .notify, w => (if i.notifyFails then .error .other else .ok (), w)
  | .pipeline move, w => (.ok (), w.withPipeline (w.store.pipeline.move move))

abbrev XProgram (X : XDomain) := Program (XEffect X) XEffect.Answer XError

/-! The calls as programs of one effect. -/

def readClock : XProgram X Nat := Program.perform XEffect.nowMs

def claims (op : XOperation X) : XProgram X op.Answer := Program.perform (XEffect.claims op)

def getPost (id : XPostClaimId) : XProgram X (Option (XPostClaim X)) := claims (.getPost id)

def getOwnedPost (id : XPostClaimId) (login : String) : XProgram X (Option (XPostClaim X)) :=
  claims (.getOwnedPost id login)

def listAssetsForPost (id : XPostClaimId) : XProgram X (List (XAsset X)) :=
  claims (.listAssetsForPost id)

/- `save_post` and `save_asset`: the SELECT with its checks, then the UPDATE. -/
def savePostRow (claim : XPostClaim X) (expectedState : XAcquisitionState)
    (expectedVersion : Nat) : XProgram X (XPostClaim X) := do
  claims (.selectPost claim expectedState expectedVersion)
  claims (.updatePost claim expectedVersion)
  .done claim

def saveAssetRow (asset : XAsset X) (expectedState : XAssetState) (expectedVersion : Nat) :
    XProgram X (XAsset X) := do
  claims (.selectAsset asset expectedState expectedVersion)
  claims (.updateAsset asset expectedVersion)
  .done asset

/- `_save` and `_save_asset`, of the coordinator as of the request service. -/
def save (previous updated : XPostClaim X) : XProgram X (XPostClaim X) :=
  savePostRow updated previous.state previous.version

def saveAssetOver (previous updated : XAsset X) : XProgram X (XAsset X) :=
  saveAssetRow updated previous.state previous.version

/- What a constructor or a move refuses raises `FrameNestXAcquisitionError`. -/
def built {α : Type} (value : Option α) : XProgram X α :=
  match value with
  | some a => .done a
  | none => .fail .acquisition

/- `if not b: raise x`. -/
def demand (b : Bool) (x : XError) : XProgram X Unit := if b then .done () else .fail x

/- `claim.advance(..)` at the time read, saved over `previous`. -/
def advanceAndSave (previous : XPostClaim X) (target : XAcquisitionState)
    (changes : XPostClaimRow → XPostClaimRow := id) : XProgram X (XPostClaim X) := do
  let now ← readClock
  let updated ← built (previous.advance target now changes)
  save previous updated

def advanceAssetAndSave (previous : XAsset X) (target : XAssetState)
    (changes : XAssetRow → XAssetRow := id) : XProgram X (XAsset X) := do
  let now ← readClock
  let updated ← built (previous.advance target now changes)
  saveAssetOver previous updated

end FrameNest.X
