import FrameNest.Relational.Table
import FrameNest.Uploads.Sessions

/-! Acquisition claims of public videos: their durable states, the moves between them and
what the constructor asks of a claim before it can exist. -/
namespace FrameNest.YouTube
open Plain Uploads

inductive YouTubeAcquisitionState where
  | claimed | inspecting | downloadPending | downloading | downloaded | handoff | handedOff
  | duplicateResolved | cataloged | catalogRemoved | failed
deriving DecidableEq

def liveCatalogYouTubeAcquisitionStates : List YouTubeAcquisitionState :=
  [.duplicateResolved, .cataloged]

def allowedTransitions : YouTubeAcquisitionState → List YouTubeAcquisitionState
  | .claimed => [.inspecting, .duplicateResolved, .failed]
  | .inspecting => [.claimed, .downloadPending, .failed]
  | .downloadPending => [.claimed, .downloading, .failed]
  | .downloading => [.claimed, .downloadPending, .downloaded, .failed]
  | .downloaded => [.handoff, .failed]
  | .handoff => [.handedOff, .failed]
  | .handedOff => [.duplicateResolved, .cataloged, .failed]
  | .duplicateResolved | .cataloged => [.catalogRemoved]
  | .catalogRemoved | .failed => []

inductive YouTubeConfirmationMethod where
  | interactive | yesFlag
deriving DecidableEq

inductive YouTubeStagingCleanupState where
  | pending | complete
deriving DecidableEq

inductive YouTubeFailureStage where
  | configuration | inspection | download | staging | handoff | downstream | cleanup | internal
deriving DecidableEq

structure YouTubeSourceIdentity where
  videoId : String
  canonicalUrl : String
  extractorKey : String
deriving DecidableEq

/-- What the domain takes from URL parsing and from Unicode. -/
structure YouTubeDomain where
  canonicalizeYoutubeUrl : String → Option YouTubeSourceIdentity
  nfc : String → String
  normalizeLogin : String → Option String

def maxUpstreamTitleCodePoints : Nat := 500
def maxUpstreamChannelCodePoints : Nat := 200
def maxUpstreamChannelIdCodePoints : Nat := 128
def maxRemoteFilenameCodePoints : Nat := 500

/- `[0-9a-f]{32}`. -/
def isStagingKey (s : String) : Bool := s.toList.length = 32 && s.toList.all isLowerHex

/- `[A-Za-z0-9][A-Za-z0-9._+-]{0,119}`, of versions and of format ids. -/
def isToken (s : String) : Bool :=
  let alnum := fun c : Char =>
    ('a' ≤ c && c ≤ 'z') || ('A' ≤ c && c ≤ 'Z') || ('0' ≤ c && c ≤ '9')
  match s.toList with
  | [] => false
  | first :: rest => alnum first && rest.length ≤ 119 &&
      rest.all fun c => alnum c || c = '.' || c = '_' || c = '+' || c = '-'

/- `\d{4}-\d{2}-\d{2}` of ASCII digits, as the column's CHECK asks for. -/
def isSourceDate (s : String) : Bool :=
  s.toList.length = 10 && s.toList.zipIdx.all fun (c, i) =>
    if i = 4 || i = 7 then c = '-' else '0' ≤ c && c ≤ '9'

/- `_validate_advisory` with `allow_newline=False`. -/
def isAdvisory (X : YouTubeDomain) (maximum : Nat) (s : String) : Bool :=
  s ≠ "" && strip s = s && s.toList.length ≤ maximum && X.nfc s = s &&
    s.toList.all fun c => !isControl c

/-- One row of `youtube_acquisition_claims`. `acquisition_source` has one value only. -/
structure YouTubeClaimRow where
  id : YouTubeAcquisitionClaimId
  state : YouTubeAcquisitionState
  submittedUrl : String
  canonicalUrl : String
  youtubeVideoId : String
  extractorKey : String
  confirmationMethod : YouTubeConfirmationMethod
  confirmedAtMs : Nat
  stagingKey : String
  generatedFilename : String
  createdAtMs : Nat
  updatedAtMs : Nat
  retryOfClaimId : Option YouTubeAcquisitionClaimId := none
  resolvedClaimId : Option YouTubeAcquisitionClaimId := none
  uploadId : Option UploadSessionId := none
  mediaId : Option MediaId := none
  mediaLocationId : Option MediaLocationId := none
  upstreamTitle : Option String := none
  upstreamChannel : Option String := none
  upstreamChannelId : Option String := none
  upstreamSourceDate : Option String := none
  downloaderName : Option String := none
  downloaderVersion : Option String := none
  extractorVersion : Option String := none
  selectedVideoFormatId : Option String := none
  selectedAudioFormatId : Option String := none
  remoteFilename : Option String := none
  downloadedSizeBytes : Option Nat := none
  downloadedAtMs : Option Nat := none
  completedAtMs : Option Nat := none
  catalogRemovedAtMs : Option Nat := none
  failureStage : Option YouTubeFailureStage := none
  failureCode : Option String := none
  cleanupState : YouTubeStagingCleanupState := .pending
  cleanupCompletedAtMs : Option Nat := none
  version : Nat := 0
  createdByLoginKey : Option String := none
deriving DecidableEq

namespace YouTubeClaimRow

/- The identity that the submitted URL has. -/
def sourceValid (X : YouTubeDomain) (c : YouTubeClaimRow) : Bool :=
  X.canonicalizeYoutubeUrl c.submittedUrl =
    some ⟨c.youtubeVideoId, c.canonicalUrl, c.extractorKey⟩

def ownershipValid (X : YouTubeDomain) (c : YouTubeClaimRow) : Bool :=
  c.createdAtMs ≤ c.confirmedAtMs && c.createdAtMs ≤ c.updatedAtMs &&
    isStagingKey c.stagingKey &&
    c.generatedFilename = "youtube-" ++ c.youtubeVideoId ++ ".mp4" &&
    c.retryOfClaimId ≠ some c.id && c.resolvedClaimId ≠ some c.id &&
    c.mediaId.isSome = c.mediaLocationId.isSome &&
    c.createdByLoginKey.all fun login =>
      login ≠ "" && login.toList.length ≤ maxLoginLength && X.normalizeLogin login = some login

def upstreamValid (X : YouTubeDomain) (c : YouTubeClaimRow) : Bool :=
  c.upstreamTitle.all (isAdvisory X maxUpstreamTitleCodePoints) &&
    c.upstreamChannel.all (isAdvisory X maxUpstreamChannelCodePoints) &&
    c.upstreamChannelId.all (isAdvisory X maxUpstreamChannelIdCodePoints) &&
    c.upstreamSourceDate.all isSourceDate &&
    c.downloaderName.all isToken && c.downloaderVersion.all isToken &&
    c.extractorVersion.all isToken && c.selectedVideoFormatId.all isToken &&
    c.selectedAudioFormatId.all isToken &&
    c.remoteFilename.all (isAdvisory X maxRemoteFilenameCodePoints) &&
    c.downloadedSizeBytes.all (0 < ·)

def cleanupValid (c : YouTubeClaimRow) : Bool :=
  (c.cleanupState = .complete) = c.cleanupCompletedAtMs.isSome &&
    c.failureStage.isSome = c.failureCode.isSome && c.failureCode.all isFailureCode

/- `_validate_state_payload`: what each state asks of the row. -/
def payloadValid (c : YouTubeClaimRow) : Bool :=
  let downloaded := c.downloadedSizeBytes.isSome && c.downloadedAtMs.isSome
  let live := c.mediaId.isSome && c.completedAtMs.isSome && c.failureCode.isNone &&
    c.catalogRemovedAtMs.isNone
  let unfinished := c.completedAtMs.isNone && c.failureCode.isNone && c.catalogRemovedAtMs.isNone
  match c.state with
  | .claimed | .inspecting | .downloadPending | .downloading => unfinished
  | .downloaded | .handoff => downloaded && unfinished
  | .handedOff => downloaded && c.uploadId.isSome && unfinished
  | .cataloged => downloaded && c.uploadId.isSome && live
  | .duplicateResolved => live
  | .catalogRemoved => c.mediaId.isNone && c.mediaLocationId.isNone && c.failureCode.isNone &&
      c.completedAtMs.any fun completed => c.catalogRemovedAtMs.any fun removed =>
        completed ≤ removed
  | .failed => c.failureCode.isSome && c.completedAtMs.isSome && c.catalogRemovedAtMs.isNone

/-- What `YouTubeAcquisitionClaim.__post_init__` checks, beyond the types of the fields. -/
def isValid (X : YouTubeDomain) (c : YouTubeClaimRow) : Bool :=
  c.sourceValid X && c.ownershipValid X && c.upstreamValid X && c.cleanupValid && c.payloadValid

end YouTubeClaimRow

/-- A claim that its constructor has accepted. -/
structure YouTubeAcquisitionClaim (X : YouTubeDomain) extends YouTubeClaimRow where
  valid : toYouTubeClaimRow.isValid X = true
deriving DecidableEq

/-- The constructor. -/
def construct (X : YouTubeDomain) (row : YouTubeClaimRow) : Option (YouTubeAcquisitionClaim X) :=
  if h : row.isValid X = true then some ⟨row, h⟩ else none

namespace YouTubeAcquisitionClaim
variable {X : YouTubeDomain}

theorem construct_some {row : YouTubeClaimRow} {c : YouTubeAcquisitionClaim X}
    (h : construct X row = some c) : c.toYouTubeClaimRow = row := by
  unfold construct at h
  split at h
  · cases h
    rfl
  · cases h

/-- `advance`: a move of the transition graph, with the columns it changes. -/
def advance (c : YouTubeAcquisitionClaim X) (target : YouTubeAcquisitionState) (updatedAtMs : Nat)
    (changes : YouTubeClaimRow → YouTubeClaimRow := id) : Option (YouTubeAcquisitionClaim X) :=
  if target ∈ allowedTransitions c.state then
    construct X { changes c.toYouTubeClaimRow with
      state := target, updatedAtMs, version := c.version + 1 }
  else none

def markCatalogRemoved (c : YouTubeAcquisitionClaim X) (nowMs : Nat) :
    Option (YouTubeAcquisitionClaim X) :=
  if c.state ∈ liveCatalogYouTubeAcquisitionStates && c.mediaId.isSome &&
      c.mediaLocationId.isSome && c.completedAtMs.all (· ≤ nowMs) then
    c.advance .catalogRemoved nowMs fun row => { row with
      mediaId := none, mediaLocationId := none, catalogRemovedAtMs := some nowMs }
  else none

theorem advance_some {c c' : YouTubeAcquisitionClaim X} {target : YouTubeAcquisitionState}
    {now : Nat} {changes : YouTubeClaimRow → YouTubeClaimRow}
    (h : c.advance target now changes = some c') : target ∈ allowedTransitions c.state ∧
      c'.toYouTubeClaimRow = { changes c.toYouTubeClaimRow with
        state := target, updatedAtMs := now, version := c.version + 1 } := by
  unfold advance at h
  split at h
  · exact ⟨‹_›, construct_some h⟩
  · cases h

theorem markCatalogRemoved_some {c c' : YouTubeAcquisitionClaim X} {now : Nat}
    (h : c.markCatalogRemoved now = some c') : c.state ∈ liveCatalogYouTubeAcquisitionStates ∧
      c'.toYouTubeClaimRow = { c.toYouTubeClaimRow with
        state := .catalogRemoved, updatedAtMs := now, version := c.version + 1
        mediaId := none, mediaLocationId := none, catalogRemovedAtMs := some now } := by
  unfold markCatalogRemoved at h
  split at h
  · rename_i hlive
    simp only [Bool.and_eq_true, decide_eq_true_eq] at hlive
    exact ⟨hlive.1.1.1, (advance_some h).2⟩
  · cases h

end YouTubeAcquisitionClaim

section Removal
variable {X : YouTubeDomain}

abbrev ClaimTable (X : YouTubeDomain) := Relational.Table fun c : YouTubeAcquisitionClaim X => c.id

namespace ClaimStore

/- `_transition_youtube_claims` of a catalog removal: every claim of the medium, or none. -/
def markedRemoved (mediaId : MediaId) (nowMs : Nat) (c : YouTubeAcquisitionClaim X) :
    YouTubeAcquisitionClaim X :=
  if c.mediaId = some mediaId then (c.markCatalogRemoved nowMs).getD c else c

theorem markedRemoved_id (mediaId : MediaId) (nowMs : Nat) (c : YouTubeAcquisitionClaim X) :
    (markedRemoved mediaId nowMs c).id = c.id := by
  unfold markedRemoved
  split
  · cases h : c.markCatalogRemoved nowMs with
    | none => rfl
    | some c' =>
      have hrow := (YouTubeAcquisitionClaim.markCatalogRemoved_some h).2
      rw [Option.getD_some, hrow]
  · rfl

end ClaimStore
end Removal
end FrameNest.YouTube
