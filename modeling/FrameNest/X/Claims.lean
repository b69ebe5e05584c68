import FrameNest.Text.Normalization
import FrameNest.Uploads.Publications
import FrameNest.X.Urls

/-! Acquisition claims of public X posts and the assets within them: their durable states, the
moves between them and what the constructors ask of a row before it can exist. -/
namespace FrameNest.X
open Plain Uploads

abbrev XPostClaimId := Identity .xPostClaim
abbrev XAssetId := Identity .xAsset

inductive XAcquisitionState where
  | submitted | queued | extracting | acquiring | handingOff | completed | completedPartial
  | failed | duplicateResolved | catalogRemoved
deriving DecidableEq

inductive XAssetState where
  | pending | extracted | acquiring | staged | handingOff | cataloged | failed
deriving DecidableEq

def activeXAcquisitionStates : List XAcquisitionState :=
  [.submitted, .queued, .extracting, .acquiring, .handingOff]

def terminalXAcquisitionStates : List XAcquisitionState :=
  [.completed, .completedPartial, .failed, .duplicateResolved, .catalogRemoved]

def liveCatalogXAcquisitionStates : List XAcquisitionState := [.completed, .completedPartial]

/- `_ALLOWED_POST_TRANSITIONS`. -/
def allowedPostTransitions : XAcquisitionState → List XAcquisitionState
  | .submitted => [.queued, .duplicateResolved, .failed]
  | .queued => [.extracting, .failed]
  | .extracting => [.acquiring, .failed]
  | .acquiring => [.handingOff, .failed]
  | .handingOff => [.completed, .completedPartial, .duplicateResolved, .failed]
  | .completed => [.catalogRemoved]
  | .completedPartial => [.catalogRemoved, .queued, .acquiring]
  | .duplicateResolved => [.catalogRemoved]
  | .failed => [.queued, .acquiring]
  | .catalogRemoved => []

/- `_ALLOWED_ASSET_TRANSITIONS`; an eligible failed asset is reset to pending by a retry. -/
def allowedAssetTransitions : XAssetState → List XAssetState
  | .pending => [.extracted, .failed]
  | .extracted => [.acquiring, .failed]
  | .acquiring => [.staged, .failed]
  | .staged => [.handingOff, .failed]
  | .handingOff => [.cataloged, .failed]
  | .cataloged => []
  | .failed => [.pending]

def activeXAssetStates : List XAssetState := [.pending, .extracted, .acquiring, .staged, .handingOff]

/-- No state may follow itself. -/
theorem post_not_self (s : XAcquisitionState) : s ∉ allowedPostTransitions s := by
  cases s <;> decide

theorem asset_not_self (s : XAssetState) : s ∉ allowedAssetTransitions s := by
  cases s <;> decide

inductive XStagingCleanupState where
  | pending | complete
deriving DecidableEq

inductive XFailureStage where
  | configuration | extraction | acquisition | staging | handoff | downstream | cleanup | internal
deriving DecidableEq

inductive XMediaType where
  | video | animatedGif | image
deriving DecidableEq

/- `_X_FAILURE_RETRYABLE`. -/
def retryableXFailures : List String :=
  ["X_RATE_LIMITED", "X_EXTRACTOR_UNAVAILABLE", "X_EXTRACTOR_FAILED", "X_DOWNLOAD_TIMEOUT",
    "X_STAGING_FAILED", "X_INSUFFICIENT_DISK", "X_CLEANUP_FAILED", "X_CATALOG_HANDOFF_FAILED"]

/- `CLAIM_WIDE_X_FAILURE_CODES`. -/
def claimWideXFailures : List String :=
  ["X_URL_UNSUPPORTED", "X_URL_INVALID_POST_ID", "X_HOST_UNSUPPORTED", "X_POST_UNAVAILABLE",
    "X_POST_DELETED", "X_POST_PROTECTED", "X_AUTHENTICATION_REQUIRED", "X_EXTRACTOR_MALFORMED",
    "X_EXTERNAL_LINK_DENIED", "X_NO_SUPPORTED_MEDIA", "X_TOO_MANY_ASSETS", "X_CLAIM_TOO_LARGE",
    "X_DUPLICATE_CLAIM", "X_PARTIAL_MULTI_ASSET", "X_MULTI_ASSET_FAILED"]

def isRetryableXFailure (code : Option String) : Bool := code.any (· ∈ retryableXFailures)
def isClaimWideXFailure (code : String) : Bool := code ∈ claimWideXFailures

/-- What the domain takes from Unicode and from the login rules. -/
structure XDomain where
  tables : Url.Tables
  text : Normalizer
  normalizeLogin : String → Option String

def maxPostTextCodePoints : Nat := 500
def maxAuthorStableIdCodePoints : Nat := 128
def maxAuthorDisplayNameCodePoints : Nat := 128
def maxSourceMediaKeyCodePoints : Nat := 300
def maxSelectedVariantCodePoints : Nat := 4096
def maxDisplayTitleCodePoints : Nat := 240
def maxAssetsPerPost : Nat := 4
def maxVideoDurationSeconds : Int := 300

/- `_validate_advisory` of a text that is there. -/
def isAdvisory (X : XDomain) (maximum : Nat) (allowNewline : Bool) (s : List Char) : Bool :=
  s ≠ [] && trim s = s && s.length ≤ maximum && X.text.nfc s = s &&
    s.all fun c => !isControl c || (allowNewline && c = '\n')

/- The further checks of an author's handle. -/
def isAuthorHandle (X : XDomain) (s : List Char) : Bool :=
  isAdvisory X maxHandleCodePoints false s && !('@' ∈ s) && X.tables.lower s = s

/- `_validate_display_url`. -/
def isDisplayUrl (X : XDomain) (value postId : List Char) : Bool :=
  match splitUrl X.tables value with
  | none => false
  | some parts => !('i' ∈ parts.handle.head?) && parts.postId = postId

/- `[A-Za-z0-9][A-Za-z0-9._+-]{0,63}`. -/
def isVersionToken (s : List Char) : Bool :=
  match s with
  | [] => false
  | first :: rest => first.isAlphanum && rest.length ≤ 63 &&
      rest.all fun c => c.isAlphanum || c = '.' || c = '_' || c = '+' || c = '-'

/- `[A-Za-z0-9.+-]+/[A-Za-z0-9.+-]+`. -/
def isMime (s : List Char) : Bool :=
  let part := fun p : List Char =>
    p ≠ [] && p.all fun c => c.isAlphanum || c = '.' || c = '+' || c = '-'
  '/' ∈ s && part (s.takeWhile (· ≠ '/')) && part ((s.dropWhile (· ≠ '/')).drop 1)

/- `[0-9a-f]{32}`. -/
def isStagingKey (s : String) : Bool := s.toList.length = 32 && s.toList.all isLowerHex

/-- One row of `x_post_claims`. The source and the extractor have one value only. -/
structure XPostClaimRow where
  id : XPostClaimId
  state : XAcquisitionState
  submittedUrl : List Char
  canonicalUrl : List Char
  xPostId : List Char
  createdAtMs : Nat
  updatedAtMs : Nat
  createdByLoginKey : Option String := none
  retryOfClaimId : Option XPostClaimId := none
  resolvedClaimId : Option XPostClaimId := none
  sourceAuthorStableId : Option (List Char) := none
  sourceAuthorHandle : Option (List Char) := none
  sourceAuthorDisplayName : Option (List Char) := none
  sourcePostText : Option (List Char) := none
  sourcePostedAtMs : Option Int := none
  title : Option (List Char) := none
  extractorVersion : Option (List Char) := none
  discoveredAssetCount : Nat := 0
  successCount : Nat := 0
  failureCount : Nat := 0
  completedAtMs : Option Nat := none
  catalogRemovedAtMs : Option Nat := none
  failureStage : Option XFailureStage := none
  failureCode : Option String := none
  cleanupState : XStagingCleanupState := .pending
  cleanupCompletedAtMs : Option Nat := none
  requestedContentCategory : Option ContentCategory := none
  version : Nat := 0
deriving DecidableEq

namespace XPostClaimRow
variable (X : XDomain) (c : XPostClaimRow)

/- The post that the submitted URL names, and the canonical URL's. -/
def sourceValid : Bool :=
  (match acceptXPostUrl X.tables c.submittedUrl with
    | .ok identity => identity.postId = c.xPostId
    | .error _ => false) && isDisplayUrl X c.canonicalUrl c.xPostId

def ownershipValid : Bool :=
  c.createdAtMs ≤ c.updatedAtMs && c.retryOfClaimId ≠ some c.id && c.resolvedClaimId ≠ some c.id &&
    c.createdByLoginKey.all fun login =>
      login ≠ "" && login.toList.length ≤ maxLoginLength && X.normalizeLogin login = some login

/- The texts taken over from the post. -/
def advisoryValid : Bool :=
  c.sourceAuthorStableId.all (isAdvisory X maxAuthorStableIdCodePoints false) &&
    c.sourceAuthorDisplayName.all (isAdvisory X maxAuthorDisplayNameCodePoints false) &&
    c.sourceAuthorHandle.all (isAuthorHandle X) &&
    c.sourcePostText.all (isAdvisory X maxPostTextCodePoints true) &&
    c.title.all (isAdvisory X maxDisplayTitleCodePoints false)

def extractionValid : Bool :=
  c.sourcePostedAtMs.all (0 ≤ ·) && c.extractorVersion.all isVersionToken &&
    c.discoveredAssetCount ≤ maxAssetsPerPost && c.successCount ≤ maxAssetsPerPost &&
    c.failureCount ≤ maxAssetsPerPost && c.successCount + c.failureCount ≤ c.discoveredAssetCount

def outcomeValid : Bool :=
  c.failureStage.isSome = c.failureCode.isSome && c.failureCode.all isFailureCode &&
    (c.cleanupState = .complete) = c.cleanupCompletedAtMs.isSome &&
    (c.state ∈ terminalXAcquisitionStates ||
      (c.completedAtMs.isNone && c.failureCode.isNone && c.catalogRemovedAtMs.isNone))

/-- What `XPostClaim.__post_init__` checks, beyond the types of the fields. -/
def isValid : Bool :=
  c.sourceValid X && c.ownershipValid X && c.advisoryValid X && c.extractionValid && c.outcomeValid

end XPostClaimRow

/-- A claim that its constructor has accepted. -/
structure XPostClaim (X : XDomain) extends XPostClaimRow where
  valid : toXPostClaimRow.isValid X = true
deriving DecidableEq

/-- One row of `x_assets`. -/
structure XAssetRow where
  id : XAssetId
  claimId : XPostClaimId
  ordinal : Int
  mediaType : XMediaType
  expectedMime : List Char
  stageKey : String
  createdAtMs : Nat
  updatedAtMs : Nat
  sourceMediaKey : Option (List Char) := none
  width : Option Int := none
  height : Option Int := none
  durationSeconds : Option Int := none
  selectedVariant : Option (List Char) := none
  state : XAssetState := .pending
  acquiredBytes : Option Nat := none
  acquiredSha256 : Option String := none
  mediaId : Option MediaId := none
  mediaLocationId : Option MediaLocationId := none
  uploadAssetKey : Option UploadSessionId := none
  completedAtMs : Option Nat := none
  failureStage : Option XFailureStage := none
  failureCode : Option String := none
  cleanupState : XStagingCleanupState := .pending
  cleanupCompletedAtMs : Option Nat := none
  version : Nat := 0
deriving DecidableEq

namespace XAssetRow
variable (X : XDomain) (a : XAssetRow)

def sourceValid : Bool :=
  0 ≤ a.ordinal && a.ordinal < maxAssetsPerPost && isAdvisory X 120 false a.expectedMime &&
    isMime a.expectedMime && isStagingKey a.stageKey && a.createdAtMs ≤ a.updatedAtMs &&
    a.sourceMediaKey.all (isAdvisory X maxSourceMediaKeyCodePoints false) &&
    a.width.all (0 ≤ ·) && a.height.all (0 ≤ ·) &&
    a.durationSeconds.all (fun d => 0 ≤ d && d ≤ maxVideoDurationSeconds) &&
    a.selectedVariant.all (isAdvisory X maxSelectedVariantCodePoints false)

def acquiredValid : Bool :=
  a.acquiredBytes.all (0 < ·) && a.acquiredSha256.all isLowerHex64 &&
    a.mediaId.isSome = a.mediaLocationId.isSome

def outcomeValid : Bool :=
  a.failureStage.isSome = a.failureCode.isSome && a.failureCode.all isFailureCode &&
    (a.cleanupState = .complete) = a.cleanupCompletedAtMs.isSome &&
    (a.state ≠ .cataloged || (a.mediaId.isSome && a.acquiredBytes.isSome &&
      a.acquiredSha256.isSome && a.completedAtMs.isSome && a.failureCode.isNone)) &&
    (a.state ≠ .failed || a.failureCode.isSome)

/-- What `XAsset.__post_init__` checks, beyond the types of the fields. -/
def isValid : Bool := a.sourceValid X && a.acquiredValid && a.outcomeValid

end XAssetRow

/-- An asset that its constructor has accepted. -/
structure XAsset (X : XDomain) extends XAssetRow where
  valid : toXAssetRow.isValid X = true
deriving DecidableEq

variable {X : XDomain}

/- The constructors. -/
def constructPost (X : XDomain) (row : XPostClaimRow) : Option (XPostClaim X) :=
  if h : row.isValid X = true then some ⟨row, h⟩ else none

def constructAsset (X : XDomain) (row : XAssetRow) : Option (XAsset X) :=
  if h : row.isValid X = true then some ⟨row, h⟩ else none

theorem constructPost_some {row : XPostClaimRow} {c : XPostClaim X}
    (h : constructPost X row = some c) : c.toXPostClaimRow = row := by
  unfold constructPost at h
  split at h
  · cases h
    rfl
  · cases h

theorem constructAsset_some {row : XAssetRow} {a : XAsset X}
    (h : constructAsset X row = some a) : a.toXAssetRow = row := by
  unfold constructAsset at h
  split at h
  · cases h
    rfl
  · cases h

/- `default_x_title`. -/
def defaultXTitle (postId : List Char) : List Char := "X post ".toList ++ postId

namespace XPostClaim

/-- `XPostClaim.new`, for the identity drawn. -/
def new (X : XDomain) (id : XPostClaimId) (submittedUrl : List Char) (nowMs : Nat)
    (createdByLoginKey : Option String) (requestedContentCategory : Option ContentCategory) :
    Option (XPostClaim X) := do
  let identity ← (acceptXPostUrl X.tables submittedUrl).toOption
  let owner ← match createdByLoginKey with
    | none => some none
    | some login => (X.normalizeLogin login).map some
  constructPost X
    { id
      state := .submitted
      submittedUrl
      canonicalUrl := identity.canonicalUrl
      xPostId := identity.postId
      createdAtMs := nowMs
      updatedAtMs := nowMs
      createdByLoginKey := owner
      title := some (defaultXTitle identity.postId)
      requestedContentCategory }

/-- `advance`: a move of the transition graph, with the columns it changes. -/
def advance (c : XPostClaim X) (target : XAcquisitionState) (updatedAtMs : Nat)
    (changes : XPostClaimRow → XPostClaimRow := id) : Option (XPostClaim X) :=
  if target ∈ allowedPostTransitions c.state then
    constructPost X { changes c.toXPostClaimRow with
      state := target, updatedAtMs, version := c.version + 1 }
  else none

/-- `evolve`: a change within a state. -/
def evolve (c : XPostClaim X) (updatedAtMs : Nat) (changes : XPostClaimRow → XPostClaimRow) :
    Option (XPostClaim X) :=
  constructPost X { changes c.toXPostClaimRow with
    state := c.state, updatedAtMs, version := c.version + 1 }

theorem advance_some {c d : XPostClaim X} {target : XAcquisitionState} {now : Nat}
    {changes : XPostClaimRow → XPostClaimRow} (h : c.advance target now changes = some d) :
    target ∈ allowedPostTransitions c.state ∧ d.toXPostClaimRow =
      { changes c.toXPostClaimRow with
        state := target, updatedAtMs := now, version := c.version + 1 } := by
  unfold advance at h
  split at h
  · rename_i hallowed
    exact ⟨hallowed, constructPost_some h⟩
  · cases h

theorem evolve_some {c d : XPostClaim X} {now : Nat} {changes : XPostClaimRow → XPostClaimRow}
    (h : c.evolve now changes = some d) : d.toXPostClaimRow =
      { changes c.toXPostClaimRow with
        state := c.state, updatedAtMs := now, version := c.version + 1 } := constructPost_some h

end XPostClaim

namespace XAsset

/-- `XAsset.new`, for the identity drawn. -/
def new (X : XDomain) (id : XAssetId) (claimId : XPostClaimId) (ordinal : Int)
    (mediaType : XMediaType) (expectedMime : List Char) (nowMs : Nat)
    (sourceMediaKey : Option (List Char)) (width height durationSeconds : Option Int)
    (selectedVariant : Option (List Char)) : Option (XAsset X) :=
  constructAsset X
    { id, claimId, ordinal, mediaType, expectedMime
      stageKey := id.hex
      createdAtMs := nowMs
      updatedAtMs := nowMs
      sourceMediaKey, width, height, durationSeconds, selectedVariant }

def advance (a : XAsset X) (target : XAssetState) (updatedAtMs : Nat)
    (changes : XAssetRow → XAssetRow := id) : Option (XAsset X) :=
  if target ∈ allowedAssetTransitions a.state then
    constructAsset X { changes a.toXAssetRow with
      state := target, updatedAtMs, version := a.version + 1 }
  else none

def evolve (a : XAsset X) (updatedAtMs : Nat) (changes : XAssetRow → XAssetRow) :
    Option (XAsset X) :=
  constructAsset X { changes a.toXAssetRow with
    state := a.state, updatedAtMs, version := a.version + 1 }

theorem advance_some {a b : XAsset X} {target : XAssetState} {now : Nat}
    {changes : XAssetRow → XAssetRow} (h : a.advance target now changes = some b) :
    target ∈ allowedAssetTransitions a.state ∧ b.toXAssetRow =
      { changes a.toXAssetRow with
        state := target, updatedAtMs := now, version := a.version + 1 } := by
  unfold advance at h
  split at h
  · rename_i hallowed
    exact ⟨hallowed, constructAsset_some h⟩
  · cases h

theorem evolve_some {a b : XAsset X} {now : Nat} {changes : XAssetRow → XAssetRow}
    (h : a.evolve now changes = some b) : b.toXAssetRow =
      { changes a.toXAssetRow with
        state := a.state, updatedAtMs := now, version := a.version + 1 } := constructAsset_some h

end XAsset

end FrameNest.X
