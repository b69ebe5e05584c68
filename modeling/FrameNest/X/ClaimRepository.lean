import FrameNest.Acquisition.Pipeline
import FrameNest.X.Extraction

/-! The tables of X claims and their assets, one definition for each statement of their
repository. A save is two of them: its SELECT and its UPDATE are apart, and nothing looks at how
many rows the UPDATE has matched. -/
namespace FrameNest.X
open Plain Relational Uploads Acquisition

inductive XClaimRepositoryError where
  | alreadyExists | notFound | concurrencyConflict | failed
deriving DecidableEq

/-- Everything that can leave a call of the X services as an exception. -/
inductive XError where
  | repository (error : XClaimRepositoryError)
  /-- `FrameNestXAcquisitionError`: a constructor or a transition has refused. -/
  | acquisition
  | extraction (code : String)
  | interrupted
  | configuration
  | transport
  | tooLarge
  | infrastructure
  | staging
  | invalidRequester
  | notFound
  | notRetryable
  | noRetryableAssets
  | categoryConflict
  | limit (code : String)
  | insufficientStorage
  | other
deriving DecidableEq

abbrev PostTable (X : XDomain) := Table fun c : XPostClaim X => c.id
abbrev AssetTable (X : XDomain) := Table fun a : XAsset X => a.id

/-- The claims and their assets beside the uploads and media they refer to. -/
structure XStore (X : XDomain) where
  posts : PostTable X
  assets : AssetTable X
  pipeline : Pipeline

variable {X : XDomain}

/- `length(..) >= 1 AND length(..) <= 2048`. -/
def isUrlColumn (s : List Char) : Bool := 1 ≤ s.length && s.length ≤ 2048

/- The CHECK of a handle; `lower` folds the ASCII letters only. -/
def isHandleColumn (s : List Char) : Bool :=
  1 ≤ s.length && s.length ≤ 64 && s.all (fun c => !('A' ≤ c && c ≤ 'Z')) && s.head? ≠ some '@'

namespace XPostClaim

def isActive (c : XPostClaim X) : Bool := c.state ∈ activeXAcquisitionStates

/- The columns' own CHECKs, where the constructor asks for less. -/
def columnsValid (c : XPostClaim X) : Bool :=
  c.createdByLoginKey.all isLoginKeyColumn && isUrlColumn c.submittedUrl &&
    isUrlColumn c.canonicalUrl && c.sourceAuthorHandle.all isHandleColumn &&
    c.completedAtMs.all (c.createdAtMs ≤ ·) &&
    c.catalogRemovedAtMs.all fun removed => c.completedAtMs.all (· ≤ removed)

/- Two rows that `uq_x_post_claims_active_requester` keeps apart. -/
def clashes (c d : XPostClaim X) : Bool :=
  c.isActive && d.isActive && c.xPostId = d.xPostId && c.createdByLoginKey.isSome &&
    c.createdByLoginKey = d.createdByLoginKey

end XPostClaim

namespace XAsset

def columnsValid (a : XAsset X) : Bool := a.completedAtMs.all (a.createdAtMs ≤ ·)

def clashes (a b : XAsset X) : Bool :=
  a.stageKey = b.stageKey || (a.claimId = b.claimId && a.ordinal = b.ordinal)

end XAsset

/- UPDATE of the row with the same key and the version expected. -/
def replacePost (c : XPostClaim X) (expectedVersion : Nat) (row : XPostClaim X) : XPostClaim X :=
  if row.id = c.id ∧ row.version = expectedVersion then c else row

def replaceAsset (a : XAsset X) (expectedVersion : Nat) (row : XAsset X) : XAsset X :=
  if row.id = a.id ∧ row.version = expectedVersion then a else row

theorem replacePost_id (c : XPostClaim X) (expectedVersion : Nat) (row : XPostClaim X) :
    (replacePost c expectedVersion row).id = row.id := by
  unfold replacePost
  split
  · rename_i h
    exact h.1.symm
  · rfl

theorem replaceAsset_id (a : XAsset X) (expectedVersion : Nat) (row : XAsset X) :
    (replaceAsset a expectedVersion row).id = row.id := by
  unfold replaceAsset
  split
  · rename_i h
    exact h.1.symm
  · rfl

namespace XStore

def getPost (s : XStore X) (id : XPostClaimId) : Option (XPostClaim X) := s.posts.find? id
def getAsset (s : XStore X) (id : XAssetId) : Option (XAsset X) := s.assets.find? id

/- The FOREIGN KEYs of a claim and of an asset. -/
def postRefers (s : XStore X) (c : XPostClaim X) : Bool :=
  c.retryOfClaimId.all (fun id => (s.getPost id).isSome) &&
    c.resolvedClaimId.all fun id => (s.getPost id).isSome

def assetRefers (s : XStore X) (a : XAsset X) : Bool :=
  (s.getPost a.claimId).isSome &&
    a.mediaId.all (fun id => s.pipeline.media.any fun link => link.mediaId = id) &&
    a.mediaLocationId.all fun id => s.pipeline.media.any fun link => link.mediaLocationId = id

/-- The table takes the row: what else would be an IntegrityError. -/
def acceptsPost (s : XStore X) (c : XPostClaim X) : Bool :=
  c.columnsValid && s.postRefers c && !(s.posts.rows.any fun d => d.id ≠ c.id && c.clashes d)

def acceptsAsset (s : XStore X) (a : XAsset X) : Bool :=
  a.columnsValid && s.assetRefers a && !(s.assets.rows.any fun b => b.id ≠ a.id && a.clashes b)

def findActiveByPostId (s : XStore X) (postId : List Char) (createdByLoginKey : Option String) :
    Option (XPostClaim X) :=
  s.posts.rows.find? fun c => c.xPostId = postId && c.isActive &&
    c.createdByLoginKey = createdByLoginKey

def createOrGetActive (c : XPostClaim X) (s : XStore X) :
    Except XError ((XPostClaim X × Bool) × XStore X) := do
  require (c.state = .submitted) (.repository .failed)
  require (s.getPost c.id).isNone (.repository .alreadyExists)
  match s.findActiveByPostId c.xPostId c.createdByLoginKey with
  | some active => .ok ((active, false), s)
  | none =>
    match if s.acceptsPost c then s.posts.insert? c else none with
    | some posts => .ok ((c, true), { s with posts })
    | none => .error (.repository .failed)

def getOwnedPost (s : XStore X) (id : XPostClaimId) (createdByLoginKey : String) :
    Option (XPostClaim X) :=
  (s.getPost id).filter fun c => c.createdByLoginKey = some createdByLoginKey

/- `_SUCCESS_POST_VALUES`. -/
def successPostStates : List XAcquisitionState := [.completed, .completedPartial, .duplicateResolved]

/- ORDER BY updated_at_ms DESC LIMIT 1. -/
def latest (rows : List (XPostClaim X)) : Option (XPostClaim X) :=
  rows.foldl (fun best c => match best with
    | some b => if b.updatedAtMs < c.updatedAtMs then some c else some b
    | none => some c) none

def findOwnedSuccessfulByPostId (s : XStore X) (postId : List Char) (createdByLoginKey : String) :
    Option (XPostClaim X) :=
  latest (s.posts.rows.filter fun c => c.xPostId = postId &&
    c.createdByLoginKey = some createdByLoginKey && c.state ∈ successPostStates)

def countActiveForRequester (s : XStore X) (createdByLoginKey : String) : Nat :=
  s.posts.rows.countP fun c => c.createdByLoginKey = some createdByLoginKey && c.isActive

def countGlobalActiveOrdinary (s : XStore X) : Nat :=
  s.posts.rows.countP fun c => c.createdByLoginKey.isSome && c.isActive

def countSubmitsSince (s : XStore X) (createdByLoginKey : String) (sinceMs : Int) : Nat :=
  s.posts.rows.countP fun c => c.createdByLoginKey = some createdByLoginKey &&
    sinceMs ≤ c.createdAtMs

def countFailedTransitionsSince (s : XStore X) (createdByLoginKey : String) (sinceMs : Int) : Nat :=
  s.posts.rows.countP fun c => c.createdByLoginKey = some createdByLoginKey &&
    c.state = .failed && c.completedAtMs.any fun completed => sinceMs ≤ completed

/- ORDER BY updated_at_ms, id. -/
def byUpdate (c : XPostClaim X) : Nat × String := (c.updatedAtMs, c.id.value)

def listRecoveryCandidates (s : XStore X) (limit : Nat) : List (XPostClaim X) :=
  (orderBy byUpdate (s.posts.rows.filter XPostClaim.isActive)).take limit

/- The join with the assets whose clean-up is pending; the statement has no ORDER BY. -/
def listCleanupCandidates (s : XStore X) (limit : Nat) : List (XPostClaim X) :=
  (s.posts.rows.filter fun c => c.state ∈ liveCatalogXAcquisitionStates &&
    s.assets.rows.any fun a => a.claimId = c.id && a.cleanupState = .pending).take limit

/- ORDER BY ordinal, which no two assets of a claim share. -/
def byOrdinal (a : XAsset X) : Nat × String := (a.ordinal.toNat, a.id.value)

def listAssetsForPost (s : XStore X) (id : XPostClaimId) : List (XAsset X) :=
  orderBy byOrdinal (s.assets.rows.filter fun a => a.claimId = id)

/-- The SELECT of `save_post` and the checks on the row it finds. -/
def selectPost (c : XPostClaim X) (expectedState : XAcquisitionState) (expectedVersion : Nat)
    (s : XStore X) : Except XError (Unit × XStore X) :=
  match s.getPost c.id with
  | none => .error (.repository .notFound)
  | some row =>
    if row.state ≠ expectedState ∨ row.version ≠ expectedVersion then
      .error (.repository .concurrencyConflict)
    else if c.state ∈ allowedPostTransitions row.state then .ok ((), s)
    else .error .acquisition

/-- Its UPDATE, which may match nothing. -/
def updatePost (c : XPostClaim X) (expectedVersion : Nat) (s : XStore X) :
    Except XError (Unit × XStore X) :=
  if (s.getPost c.id).any (·.version = expectedVersion) then
    if s.acceptsPost c then
      let posts :=
        s.posts.update c.id (replacePost c expectedVersion) (replacePost_id c expectedVersion)
      .ok ((), { s with posts })
    else .error (.repository .failed)
  else .ok ((), s)

def selectAsset (a : XAsset X) (expectedState : XAssetState) (expectedVersion : Nat)
    (s : XStore X) : Except XError (Unit × XStore X) :=
  match s.getAsset a.id with
  | none => .error (.repository .notFound)
  | some row =>
    if row.state ≠ expectedState ∨ row.version ≠ expectedVersion then
      .error (.repository .concurrencyConflict)
    else if a.state ∈ allowedAssetTransitions row.state then .ok ((), s)
    else .error .acquisition

def updateAsset (a : XAsset X) (expectedVersion : Nat) (s : XStore X) :
    Except XError (Unit × XStore X) :=
  if (s.getAsset a.id).any (·.version = expectedVersion) then
    if s.acceptsAsset a then
      let assets :=
        s.assets.update a.id (replaceAsset a expectedVersion) (replaceAsset_id a expectedVersion)
      .ok ((), { s with assets })
    else .error (.repository .failed)
  else .ok ((), s)

/-- `create_assets`: all of them or none. -/
def createAssets : List (XAsset X) → XStore X → Except XError (Unit × XStore X)
  | [], s => .ok ((), s)
  | a :: rest, s =>
    match if a.state = .pending ∧ s.acceptsAsset a then s.assets.insert? a else none with
    | some assets => createAssets rest { s with assets }
    | none => .error (.repository .failed)

/- A catalog removal; a medium that an asset refers to stays. -/
def removeCatalogMedia (mediaId : MediaId) (s : XStore X) : Except XError (Unit × XStore X) := do
  require (s.assets.rows.all fun a => a.mediaId ≠ some mediaId) (.repository .failed)
  .ok ((), { s with pipeline := s.pipeline.removeMedia mediaId })

section Selected
variable {s store : XStore X} {version : Nat} {u : Unit}

/-- The SELECT of a save writes nothing and lets only moves of the transition graph pass. -/
theorem selectPost_ok {c : XPostClaim X} {state : XAcquisitionState}
    (h : s.selectPost c state version = .ok (u, store)) :
    store = s ∧ c.state ∈ allowedPostTransitions state := by
  unfold selectPost at h
  split at h
  · cases h
  · split at h
    · cases h
    · rename_i row _ hexpected
      split at h
      · rename_i hallowed
        cases h
        simp only [not_or, not_not] at hexpected
        exact ⟨rfl, hexpected.1 ▸ hallowed⟩
      · cases h

theorem selectAsset_ok {a : XAsset X} {state : XAssetState}
    (h : s.selectAsset a state version = .ok (u, store)) :
    store = s ∧ a.state ∈ allowedAssetTransitions state := by
  unfold selectAsset at h
  split at h
  · cases h
  · split at h
    · cases h
    · rename_i row _ hexpected
      split at h
      · rename_i hallowed
        cases h
        simp only [not_or, not_not] at hexpected
        exact ⟨rfl, hexpected.1 ▸ hallowed⟩
      · cases h

end Selected
end XStore
end FrameNest.X
