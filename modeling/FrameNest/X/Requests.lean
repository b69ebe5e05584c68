import FrameNest.X.Surroundings

/-! The request service: submission with its admission limits, the snapshot of a claim with its
retry flag, and the retry. -/
namespace FrameNest.X
open Concurrent Uploads
variable {X : XDomain}

def msPerHour : Int := 3600000
def msPerDay : Int := 86400000

/-- `XRequestLimits`; whether free space is probed is the surroundings' answer. -/
structure XRequestLimits where
  maxActivePerRequester : Int := 1
  maxGlobalActive : Int := 8
  maxSubmitsPerHour : Int := 6
  maxFailedPer24h : Int := 10
  minFreeSpaceReserveBytes : Int := 67108864

/- `_normalize_requester`. -/
def normalizeRequester (login : String) : XProgram X String :=
  match X.normalizeLogin login with
  | some requester => .done requester
  | none => .fail .invalidRequester

/- `_hidden_media_ids`. -/
def hiddenMediaIds (login : String) (media : List MediaId) : XProgram X (List MediaId) :=
  if media.isEmpty then .done [] else Program.perform (XEffect.hiddenMedia login media)

def overlay : XProgram X Unit := Program.perform XEffect.overlay

/-! The snapshot. -/

structure XAssetSnapshot (X : XDomain) where
  asset : XAsset X
  mediaId : Option MediaId

structure XClaimSnapshot (X : XDomain) where
  claim : XPostClaim X
  canRetry : Bool
  assets : List (XAssetSnapshot X)

/- `_asset_retryable`. -/
def assetRetryable (a : XAsset X) : Bool :=
  if a.state = .failed then isRetryableXFailure a.failureCode else a.state ∈ activeXAssetStates

/- `_retry_eligible`. -/
def retryEligible (claim : XPostClaim X) (assets : List (XAsset X)) : Bool :=
  match claim.state with
  | .completedPartial => 0 < claim.failureCount && assets.any assetRetryable
  | .failed => assets.isEmpty || assets.any assetRetryable
  | _ => false

/- `_administration_snapshot`. -/
def administrationSnapshot (claim : XPostClaim X) (assets : List (XAsset X)) : XClaimSnapshot X :=
  ⟨claim, retryEligible claim assets, assets.map fun a => ⟨a, a.mediaId⟩⟩

/- `_requester_snapshot`. -/
def requesterSnapshot (claim : XPostClaim X) : XProgram X (XClaimSnapshot X) := do
  let assets ← listAssetsForPost claim.id
  let hidden ← hiddenMediaIds (claim.createdByLoginKey.getD "") (assets.filterMap (·.mediaId))
  let snapshot := administrationSnapshot claim assets
  .done { snapshot with
    assets := snapshot.assets.map fun a => { a with mediaId := a.mediaId.filter (· ∉ hidden) } }

namespace XAcquisitionAdministrationService

/-- `get`. -/
def get (id : XPostClaimId) : XProgram X (XClaimSnapshot X) := do
  match ← getPost id with
  | none => .fail .notFound
  | some claim => do
    let assets ← listAssetsForPost claim.id
    .done (administrationSnapshot claim assets)

end XAcquisitionAdministrationService

namespace XAcquisitionRequestService

/- A count that has reached its limit refuses the request. -/
def below (count : Nat) (limit : Int) (code : String) : XProgram X Unit :=
  demand (count < limit) (.limit code)

/- The requester's own active claims, where they are limited. -/
def enforceActiveLimit (limits : XRequestLimits) (requester : String) : XProgram X Unit :=
  if 0 ≤ limits.maxActivePerRequester then do
    let active ← claims (.countActiveForRequester requester)
    below active limits.maxActivePerRequester "X_REQUEST_ACTIVE_LIMIT"
  else .done ()

/-- `_enforce_admission_limits`: one count after another, each a statement of its own. -/
def enforceAdmissionLimits (limits : XRequestLimits) (requester : String) : XProgram X Unit := do
  enforceActiveLimit limits requester
  let globalActive ← claims .countGlobalActiveOrdinary
  below globalActive limits.maxGlobalActive "X_REQUEST_GLOBAL_QUEUE_FULL"
  let now ← readClock
  let submits ← claims (.countSubmitsSince requester (now - msPerHour))
  below submits limits.maxSubmitsPerHour "X_REQUEST_RATE_LIMIT"
  let now ← readClock
  let failed ← claims (.countFailedTransitionsSince requester (now - msPerDay))
  below failed limits.maxFailedPer24h "X_REQUEST_FAILED_24H_LIMIT"
  let available ← Program.perform XEffect.freeSpaceBytes
  demand (Option.all (fun bytes : Nat => limits.minFreeSpaceReserveBytes < bytes) available)
    .insufficientStorage

/- The categories of the media that are live; `none` where one cannot be confirmed. -/
def mediaCategories (hidden : List MediaId) :
    List (XAsset X) → XProgram X (Option (List ContentCategory))
  | [] => .done (some [])
  | a :: rest =>
    match a.mediaId.filter fun id => a.state = .cataloged && id ∉ hidden with
    | none => mediaCategories hidden rest
    | some id => do
      match ← Program.perform (XEffect.mediaCategory id) with
      | none => .done none
      | some category => do
        let others ← mediaCategories hidden rest
        .done (others.map (category :: ·))

/- `_live_catalog_categories`. -/
def liveCatalogCategories (claim : XPostClaim X) : XProgram X (Option (List ContentCategory)) := do
  let assets ← listAssetsForPost claim.id
  let hidden ← hiddenMediaIds (claim.createdByLoginKey.getD "") (assets.filterMap (·.mediaId))
  match ← mediaCategories hidden assets with
  | none => .done none
  | some [] => .done (claim.requestedContentCategory.map ([·]))
  | some live => .done (some live)

/- `_reject_category_conflict`. -/
def rejectCategoryConflict (claim : XPostClaim X) (requested : Option ContentCategory)
    (liveCatalog : Bool) : XProgram X Unit :=
  match requested with
  | none => .done ()
  | some category =>
    if liveCatalog then do
      let live ← liveCatalogCategories claim
      demand (live.any fun l => !l.isEmpty && l.all (· = category)) .categoryConflict
    else demand (claim.requestedContentCategory = some category) .categoryConflict

/- `_store_submit_alias`, where there is an alias. -/
def storeSubmitAlias (withAlias : Bool) : XProgram X Unit := if withAlias then overlay else .done ()

/- The alias of each medium that is there and not hidden. -/
def applyAliases (hidden : List MediaId) : List (XAsset X) → XProgram X Unit
  | [] => .done ()
  | a :: rest => do
    (if a.state = .cataloged ∧ a.mediaId.any (· ∉ hidden) then overlay else .done ())
    applyAliases hidden rest

/- `_apply_alias_to_successful_assets`. -/
def applyAliasToSuccessfulAssets (claim : XPostClaim X) (requester : String) : XProgram X Unit := do
  let _ ← readClock
  let assets ← listAssetsForPost claim.id
  let hidden ← hiddenMediaIds requester (assets.filterMap (·.mediaId))
  applyAliases hidden assets

/- `XPostClaim.new` with a drawn identity. -/
def newClaim (url : List Char) (requester : String) (category : Option ContentCategory) :
    XProgram X (XPostClaim X) := do
  let now ← readClock
  let id ← Program.perform XEffect.newClaimId
  built (XPostClaim.new X id url now (some requester) category)

/- A submission for which the requester has no claim yet. -/
def createClaim (limits : XRequestLimits) (url : List Char) (requester : String)
    (category : Option ContentCategory) (withAlias : Bool) : XProgram X (XPostClaim X × String) := do
  enforceAdmissionLimits limits requester
  let claim ← newClaim url requester category
  let (claim, created) ← claims (.createOrGetActive claim)
  (if created then .done () else rejectCategoryConflict claim category false)
  storeSubmitAlias withAlias
  .done (claim, if created then "new" else "active_reuse")

/-- `submit`. -/
def submit (limits : XRequestLimits) (url : List Char) (login : String)
    (category : Option ContentCategory) (withAlias : Bool) : XProgram X (XPostClaim X × String) := do
  let identity ← built (acceptXPostUrl X.tables url).toOption
  let requester ← normalizeRequester login
  storeSubmitAlias withAlias
  match ← claims (.findOwnedSuccessfulByPostId identity.postId requester) with
  | some owned => do
    rejectCategoryConflict owned category true
    storeSubmitAlias withAlias
    (if withAlias then applyAliasToSuccessfulAssets owned requester else .done ())
    .done (owned, "reuse")
  | none => do
    match ← claims (.findActiveByPostId identity.postId requester) with
    | some active => do
      rejectCategoryConflict active category false
      storeSubmitAlias withAlias
      .done (active, "active_reuse")
    | none => createClaim limits url requester category withAlias

/-- `get_owned`. -/
def getOwned (id : XPostClaimId) (login : String) : XProgram X (XClaimSnapshot X) := do
  let requester ← normalizeRequester login
  match ← getOwnedPost id requester with
  | none => .fail .notFound
  | some claim => requesterSnapshot claim

/- The columns of a failure, emptied. -/
def cleared (row : XPostClaimRow) : XPostClaimRow :=
  { row with completedAtMs := none, failureStage := none, failureCode := none }

def clearedAsset (row : XAssetRow) : XAssetRow := { row with failureStage := none, failureCode := none }

/-- The retryable assets, reset to pending one after another. -/
def resetAssets : List (XAsset X) → XProgram X Unit
  | [] => .done ()
  | a :: rest => do
    let _ ← advanceAssetAndSave a .pending clearedAsset
    resetAssets rest

/- The retry of a claim with these assets. Without assets the extraction itself has failed. -/
def retryClaim (claim : XPostClaim X) (assets : List (XAsset X)) : XProgram X (XClaimSnapshot X) :=
  if assets.isEmpty ∧ claim.state = .failed then do
    let queued ← advanceAndSave claim .queued cleared
    requesterSnapshot queued
  else if (assets.filter assetRetryable).isEmpty then .fail .noRetryableAssets
  else do
    resetAssets (assets.filter assetRetryable)
    let resumed ← advanceAndSave claim .acquiring cleared
    requesterSnapshot resumed

/- The claims that may be retried at all. -/
def mayRetry (claim : XPostClaim X) : Bool :=
  claim.state = .failed || (claim.state = .completedPartial && 0 < claim.failureCount)

/-- `retry`. -/
def retry (id : XPostClaimId) (login : String) : XProgram X (XClaimSnapshot X) := do
  let requester ← normalizeRequester login
  match ← getOwnedPost id requester with
  | none => .fail .notFound
  | some claim =>
    if mayRetry claim then do
      let assets ← listAssetsForPost claim.id
      retryClaim claim assets
    else .fail .notRetryable

end XAcquisitionRequestService
end FrameNest.X
