import FrameNest.Concurrent.CrashLogic
import FrameNest.Uploads.Operations
import FrameNest.Uploads.StoragePorts

/-! What the upload services call: the repositories, the two storages, the clock, the
identity factories and the media validator, each call settled by one moment. -/
namespace FrameNest.Uploads
open Concurrent

inductive UploadTransportError where
  | capabilityNotConfigured | sessionNotFound | invalidMetadata | tooLarge | chunkTooLarge
  | invalidOffset
  | offsetConflict (currentOffset : Int)
  | stateConflict
  | expired (state : UploadSessionState)
  | insufficientStorage | bodyLengthMismatch | quarantineUnavailable | quarantineStateInconsistent
  | concurrencyConflict
deriving DecidableEq

inductive UploadValidationError where
  | notFound | stateConflict | quarantineInconsistent | unavailable | concurrency | interrupted
deriving DecidableEq

inductive UploadPublicationError where
  | notFound | state | configuration | source | infrastructure | insufficientSpace | cleanupPending
deriving DecidableEq

inductive UploadCatalogError where
  | notFound | state | inconsistency | infrastructure
deriving DecidableEq

/- What the media validator raises. -/
inductive ValidatorError where
  | interrupted
  | rejected (failureCode : String)
  | infrastructure (failureCode : String)
  | raised
deriving DecidableEq

/-- Everything that can leave one of these calls as an exception. `cancelled` is no
`Exception`, so no handler sees it. -/
inductive UploadError where
  | repository (error : RepositoryError)
  | quarantine (error : QuarantineError)
  | target (error : PublishedMediaError)
  | validator (error : ValidatorError)
  | transport (error : UploadTransportError)
  | validation (error : UploadValidationError)
  | publication (error : UploadPublicationError)
  | catalog (error : UploadCatalogError)
  | other
  | cancelled
deriving DecidableEq

inductive UploadEffect where
  | repository (op : Operation)
  | nowMs
  | newIdentity (kind : IdentityKind)
  | newStorageKey
  | rootsSeparated
  | quarantine (effect : QuarantineEffect)
  | target (effect : TargetEffect)
  | stopRequested
  | validate (reader : QuarantineReader)
  | classify (id : UploadSessionId)

def UploadEffect.Answer : UploadEffect → Type
  | repository op => op.Answer
  | nowMs => Int
  | newIdentity kind => Identity kind
  | newStorageKey => UploadStorageKey
  | rootsSeparated | stopRequested => Bool
  | quarantine effect => effect.Answer
  | target effect => effect.Answer
  | validate .. => UploadValidatedMediaKind × UploadValidatedFormat
  | classify .. => Option CatalogUploadClassification

/- A repository call that raises although, or because, its transaction did not commit. -/
inductive RepositoryFault where
  | before (error : RepositoryError)
  | after (error : RepositoryError)

/-- What the surroundings make of one call. -/
structure Moment where
  nowMs : Int
  identity : (kind : IdentityKind) → Identity kind
  storageKey : UploadStorageKey
  rootsSeparated : Option Bool
  freeBytes : Int
  repositoryFault : Option RepositoryFault
  quarantineFault : Option QuarantineFault
  targetFault : Option TargetFault
  stopRequested : Bool
  verdict : Except ValidatorError (UploadValidatedMediaKind × UploadValidatedFormat)
  classification : Option (Option CatalogUploadClassification)

structure UploadWorld where
  store : UploadStore
  quarantine : Quarantine
  destination : Destination

structure UploadTransportLimits where
  maxTotalBytes : Int
  maxPatchBytes : Int
  sessionTtlSeconds : Int
  minFreeSpaceReserveBytes : Int

/- The Unicode functions that creator names pass through. -/
structure Unicode where
  nfc : String → String
  lower : String → String

/-- How the services are set up. -/
structure UploadServices where
  limits : UploadTransportLimits
  destinationId : LibraryId
  publishedReserveBytes : Int
  sha256 : List UInt8 → String
  unicode : Unicode

/- One call of a repository, with the fault it may meet on either side of its commit. -/
def repositoryExec (fault : Option RepositoryFault) (op : Operation) (s : UploadStore) :
    Except UploadError op.Answer × UploadStore :=
  match fault with
  | none => ((op.exec s).1.mapError .repository, (op.exec s).2)
  | some (.before x) => (.error (.repository x), s)
  | some (.after x) => (.error (.repository x), (op.exec s).2)

/-- Nothing happened, or the operation committed, whatever its caller was told. -/
theorem repositoryExec_cases (fault : Option RepositoryFault) (op : Operation) (s : UploadStore) :
    (∃ x, repositoryExec fault op s = (.error x, s)) ∨
    ∃ a t, op.perform s = .ok (a, t) ∧ (repositoryExec fault op s = (.ok a, t) ∨
      ∃ x, repositoryExec fault op s = (.error x, t)) := by
  cases hperform : op.perform s with
  | error x =>
    left
    have hexec : op.exec s = (.error x, s) := Relational.transaction_of_error hperform
    cases fault with
    | none => exact ⟨.repository x, by simp [repositoryExec, hexec, Except.mapError]⟩
    | some fault =>
      cases fault with
      | before y => exact ⟨.repository y, rfl⟩
      | after y => exact ⟨.repository y, by simp [repositoryExec, hexec]⟩
  | ok answer =>
    obtain ⟨a, t⟩ := answer
    have hexec : op.exec s = (.ok a, t) := Relational.transaction_of_ok hperform
    cases fault with
    | none => exact Or.inr ⟨a, t, rfl, Or.inl (by simp [repositoryExec, hexec, Except.mapError])⟩
    | some fault =>
      cases fault with
      | before y => exact Or.inl ⟨.repository y, rfl⟩
      | after y => exact Or.inr ⟨a, t, rfl, Or.inr ⟨.repository y, by simp [repositoryExec, hexec]⟩⟩

def UploadServices.exec (S : UploadServices) (m : Moment) :
    (e : UploadEffect) → UploadWorld → Except UploadError e.Answer × UploadWorld
  | .repository op, w =>
    let (answer, store) := repositoryExec m.repositoryFault op w.store
    (answer, { w with store })
  | .nowMs, w => (.ok m.nowMs, w)
  | .newIdentity kind, w => (.ok (m.identity kind), w)
  | .newStorageKey, w => (.ok m.storageKey, w)
  | .rootsSeparated, w =>
    match m.rootsSeparated with
    | some separated => (.ok separated, w)
    | none => (.error .other, w)
  | .quarantine effect, w =>
    let (answer, quarantine) := effect.exec m.quarantineFault m.freeBytes w.quarantine
    (answer.mapError .quarantine, { w with quarantine })
  | .target effect, w =>
    let (answer, destination) := effect.exec S.sha256 m.targetFault m.freeBytes w.destination
    (answer.mapError .target, { w with destination })
  | .stopRequested, w => (.ok m.stopRequested, w)
  | .validate _, w => (m.verdict.mapError .validator, w)
  | .classify _, w =>
    match m.classification with
    | some classification => (.ok classification, w)
    | none => (.error .other, w)

section Exec
variable {S : UploadServices} {m : Moment} {op : Operation} {w : UploadWorld}

/-- An operation that answers has committed. -/
theorem exec_repository_ok {a : op.Answer} (h : (S.exec m (.repository op) w).1 = .ok a) :
    op.perform w.store = .ok (a, (S.exec m (.repository op) w).2.store) := by
  obtain ⟨x, hx⟩ | ⟨b, t, hperform, hb | ⟨x, hx⟩⟩ :=
    repositoryExec_cases m.repositoryFault op w.store
  · simp [UploadServices.exec, hx] at h
  · simp only [UploadServices.exec, hb] at h ⊢
    cases h
    exact hperform
  · simp [UploadServices.exec, hx] at h

/-- The world after a repository call: as it was, or with one operation committed. -/
theorem exec_repository_world : (S.exec m (.repository op) w).2 = w ∨
    ∃ a t, op.perform w.store = .ok (a, t) ∧
      (S.exec m (.repository op) w).2 = { w with store := t } := by
  obtain ⟨x, hx⟩ | ⟨b, t, hperform, hb | ⟨x, hx⟩⟩ :=
    repositoryExec_cases m.repositoryFault op w.store
  · left
    simp [UploadServices.exec, hx]
  · right
    exact ⟨b, t, hperform, by simp [UploadServices.exec, hb]⟩
  · right
    exact ⟨b, t, hperform, by simp [UploadServices.exec, hx]⟩

/-- Only a repository call that commits touches the store. -/
theorem exec_store_cases (e : UploadEffect) : (S.exec m e w).2.store = w.store ∨
    ∃ op a t, e = .repository op ∧ op.perform w.store = .ok (a, t) ∧
      (S.exec m e w).2.store = t := by
  cases e with
  | repository op =>
    obtain hsame | ⟨a, t, hperform, hworld⟩ := (exec_repository_world :
        (S.exec m (.repository op) w).2 = w ∨ _)
    · left
      rw [hsame]
    · exact Or.inr ⟨op, a, t, rfl, hperform, by rw [hworld]⟩
  | rootsSeparated =>
    left
    simp only [UploadServices.exec]
    split <;> rfl
  | classify id =>
    left
    simp only [UploadServices.exec]
    split <;> rfl
  | nowMs | newIdentity | newStorageKey | quarantine | target | stopRequested | validate =>
    exact Or.inl rfl

end Exec

abbrev UploadProgram := Program UploadEffect UploadEffect.Answer UploadError

/- The calls as programs of one effect. -/
def repository (op : Operation) : UploadProgram op.Answer := Program.perform (UploadEffect.repository op)

def readClock : UploadProgram Int := Program.perform UploadEffect.nowMs

def stopRequested : UploadProgram Bool := Program.perform UploadEffect.stopRequested

def newIdentity (kind : IdentityKind) : UploadProgram (Identity kind) :=
  Program.perform (UploadEffect.newIdentity kind)

def quarantine (effect : QuarantineEffect) : UploadProgram effect.Answer :=
  Program.perform (UploadEffect.quarantine effect)

def target (effect : TargetEffect) : UploadProgram effect.Answer := Program.perform (UploadEffect.target effect)

/- `if not b: raise x`. -/
def demand (b : Bool) (x : UploadError) : UploadProgram Unit := if b then .done () else .fail x

/-- `try: p finally: last`. -/
def withFinally {α : Type} (p : UploadProgram α) (last : UploadProgram Unit) : UploadProgram α :=
  (p.rescue fun x => do
    last
    .fail x) >>= fun a => do
  last
  .done a

theorem obeys_demand {σ γ β : Type}
    {P : Protocol Moment UploadEffect UploadEffect.Answer UploadError σ γ}
    {Q : γ → Except UploadError β → Prop} {b : Bool} {x : UploadError}
    {f : Unit → UploadProgram β} {g : γ} (herror : Q g (.error x))
    (h : b = true → Obeys P Q (f ()) g) : Obeys P Q (demand b x >>= f) g := by
  cases b with
  | true => exact h rfl
  | false => exact herror

end FrameNest.Uploads
