import FrameNest.Relational.Named
import FrameNest.Text.Parsed
import Mathlib.Data.List.Sort
import Mathlib.Data.String.Basic

/-! Backup bundles: a directory with a manifest and a catalog artifact, and what
verification says of one. -/
namespace FrameNest.Backups
open Relational

abbrev Bytes := List UInt8

/-- A moment of the wall clock with whole seconds, in UTC. -/
structure Utc where
  year : Nat
  month : Nat
  day : Nat
  hour : Nat
  minute : Nat
  second : Nat
deriving DecidableEq

namespace Utc

def isLeap (year : Nat) : Bool := year % 4 = 0 && (year % 100 ≠ 0 || year % 400 = 0)

def daysIn (year month : Nat) : Nat :=
  if month = 2 then (if isLeap year then 29 else 28)
  else if month = 4 ∨ month = 6 ∨ month = 9 ∨ month = 11 then 30 else 31

/- What the constructor of `datetime` accepts. -/
def isDate (u : Utc) : Bool :=
  1 ≤ u.year && u.year ≤ 9999 && 1 ≤ u.month && u.month ≤ 12 && 1 ≤ u.day &&
    u.day ≤ daysIn u.year u.month && u.hour ≤ 23 && u.minute ≤ 59 && u.second ≤ 59

def digit (n : Nat) : Char := Char.ofNat (48 + n % 10)

def two (n : Nat) : List Char := [digit (n / 10), digit n]

def four (n : Nat) : List Char := [digit (n / 1000), digit (n / 100), digit (n / 10), digit n]

/- `_format_utc`. -/
def format (u : Utc) : String :=
  String.ofList (four u.year ++ '-' :: two u.month ++ '-' :: two u.day ++ 'T' :: two u.hour ++
    ':' :: two u.minute ++ ':' :: two u.second ++ ['Z'])

/- `strftime("%Y%m%dT%H%M%SZ")`. -/
def stamp (u : Utc) : String :=
  String.ofList (four u.year ++ two u.month ++ two u.day ++ 'T' :: two u.hour ++
    two u.minute ++ two u.second ++ ['Z'])

def value (digits : List Char) : Nat := digits.foldl (fun n c => 10 * n + (c.toNat - 48)) 0

def ofText (s : String) : Utc :=
  let l := s.toList
  let field (start count : Nat) := value ((l.drop start).take count)
  ⟨field 0 4, field 5 2, field 8 2, field 11 2, field 14 2, field 17 2⟩

end Utc

/- `_is_canonical_utc_timestamp`: the text of one moment and no other spelling of it. -/
def isCanonicalUtcTimestamp (s : String) : Bool :=
  (Utc.ofText s).isDate && (Utc.ofText s).format = s

inductive ErrorCode where
  | invalidPath | unsafePath | outputExists | outputPublishFailed | backupFailed
  | sqliteBackupFailed | sqliteIntegrityFailed | sqliteForeignKeyFailed
  | catalogRevisionUnavailable | manifestWriteFailed | manifestMalformed | manifestUnsupported
  | incompleteBundle | unexpectedBundleState | catalogSizeMismatch | catalogChecksumMismatch
  | catalogRevisionMismatch | permissionFailed | destinationExists | restoreChecksumMismatch
  | restoreRevisionMismatch | restoreTempCleanupFailed | notEligible | expireFailed
  | backupOpsBusy | backupOpsFailed | pendingCleanup | semanticReadbackFailed
  | statusMalformed | statusUnsupported | statusWriteFailed | eventWriteFailed
  | scheduledSourceUnavailable | scheduledSourceInvalid | scheduledSourceNotLedgered
  | scheduledSourceMissing | scheduledSourceEvidenceMismatch
deriving DecidableEq

/-- What leaves a call as an exception: a `CatalogBackupOpsError`, another `BackupError`, a
`FileExistsError`, another `OSError` or anything else. -/
inductive Failure where
  | operations (code : ErrorCode)
  | backup (code : ErrorCode)
  | fileExists
  | osError
  | other
deriving DecidableEq

/- `except BackupError`. -/
def Failure.isBackupError : Failure → Bool
  | .operations _ | .backup _ => true
  | _ => false

/- `except OSError`. -/
def Failure.isOSError : Failure → Bool
  | .fileExists | .osError => true
  | _ => false

/-- A name in a bundle directory. -/
inductive Node where
  | file (content : Bytes)
  | directory
  | symlink
deriving DecidableEq

abbrev Children := Named Node

/-- A name in the backup root; a symbolic link leads to another name there or out of it. -/
inductive Entry where
  | bundle (children : Children)
  | file
  | symlink (target : Option String)

abbrev Root := Named Entry

/-- Reading of file content that the standard library and SQLite do. -/
structure Readers where
  loads : Bytes → Parsed.Loaded
  dumps : Parsed → Bytes
  sha256 : Bytes → String
  /-- `PRAGMA integrity_check` answers the one row `ok`. -/
  integrityCheck : Bytes → Bool
  /-- `PRAGMA foreign_key_check` answers no row. -/
  foreignKeyCheck : Bytes → Bool
  /-- `SELECT version_num FROM alembic_version`, when it is a nonempty text. -/
  catalogRevision : Bytes → Option String
  /-- The rows of the optional tables, by count name. -/
  semanticCounts : Bytes → Option (List (String × Nat))
  /-- A Unicode decimal digit, `\d` of a pattern. -/
  isDecimal : Char → Bool
  decimal_digits : ∀ c ∈ "0123456789".toList, isDecimal c = true
  separators_undecimal : ∀ c ∈ ['/', '\\'], isDecimal c = false
  applicationVersion : String

/- `str.startswith` and `str.endswith`. -/
def startsWith (s start : String) : Bool := start.toList.isPrefixOf s.toList
def endsWith (s tail : String) : Bool := tail.toList.isSuffixOf s.toList

def manifestName : String := "manifest.json"
def catalogName : String := "catalog.sqlite3"
def tempPrefix : String := ".framenest-backup-"

def formatVersion : Int := 1
def maxCatalogSizeBytes : Int := 16 * 1024 * 1024 * 1024 * 1024

structure BackupResult where
  catalogSizeBytes : Nat
  catalogSha256 : String
  alembicRevision : String
deriving DecidableEq

section Manifest

def isApplicationVersion (s : String) : Bool :=
  let alnum (c : Char) := ('A' ≤ c && c ≤ 'Z') || ('a' ≤ c && c ≤ 'z') || ('0' ≤ c && c ≤ '9')
  match s.toList with
  | [] => false
  | c :: rest => alnum c && rest.length ≤ 79 &&
    rest.all fun c => alnum c || c ∈ ['.', '_', '+', '!', '-']

def isSha256 (s : String) : Bool :=
  s.toList.length = 64 && s.toList.all fun c => ('0' ≤ c && c ≤ '9') || ('a' ≤ c && c ≤ 'f')

def isAlembicRevision (s : String) : Bool :=
  s.toList.length = 4 && s.toList.all fun c => '0' ≤ c && c ≤ '9'

def acceptedApplicationNames : List String := ["framenest", "kronika"]

def includedState : List String := ["catalog_database"]

def excludedState : List String :=
  ["gallery_preview_cache", "original_media", "secrets", "non_secret_ai_configuration"]

def malformed {α : Type} : Except Failure α := .error (.backup .manifestMalformed)

def demand (b : Bool) (x : Failure) : Except Failure Unit := if b then .ok () else .error x

def member (members : List (String × Parsed)) (key : String) : Parsed :=
  (members.lookup key).getD .null

/-- The part of a valid manifest that its readers use. -/
structure Manifest where
  createdAtUtc : String
  sizeBytes : Nat
  sha256 : String
  alembicRevision : String

/- `_validate_manifest`, in the order of its checks. -/
def validateManifest (payload : List (String × Parsed)) : Except Failure Manifest := do
  demand (Parsed.keysAre ["schema_version", "created_at_utc", "application", "algorithms",
      "catalog", "included_state", "excluded_state"] payload &&
    (member payload "schema_version").equalsInt formatVersion) (.backup .manifestUnsupported)
  let .str createdAtUtc := member payload "created_at_utc" | malformed
  demand (isCanonicalUtcTimestamp createdAtUtc) (.backup .manifestMalformed)
  let .obj application := member payload "application" | malformed
  demand (Parsed.keysAre ["name", "version"] application) (.backup .manifestMalformed)
  let .str name := member application "name" | malformed
  let .str version := member application "version" | malformed
  demand (name ∈ acceptedApplicationNames) (.backup .manifestMalformed)
  demand (isApplicationVersion version) (.backup .manifestMalformed)
  let .obj algorithms := member payload "algorithms" | malformed
  demand (Parsed.keysAre ["digest", "sqlite_integrity"] algorithms &&
    (member algorithms "digest").isStr "sha256" &&
    (member algorithms "sqlite_integrity").isStr "pragma_integrity_check")
    (.backup .manifestMalformed)
  let .obj catalog := member payload "catalog" | malformed
  demand (Parsed.keysAre ["logical_name", "size_bytes", "sha256", "alembic_revision"] catalog &&
    (member catalog "logical_name").isStr catalogName) (.backup .manifestMalformed)
  let some size := (member catalog "size_bytes").asInt | malformed
  demand (0 < size && size ≤ maxCatalogSizeBytes) (.backup .manifestMalformed)
  let .str sha256 := member catalog "sha256" | malformed
  demand (isSha256 sha256) (.backup .manifestMalformed)
  let .str alembicRevision := member catalog "alembic_revision" | malformed
  demand (isAlembicRevision alembicRevision) (.backup .manifestMalformed)
  demand ((member payload "included_state").isStrs includedState) (.backup .manifestMalformed)
  demand ((member payload "excluded_state").isStrs excludedState) (.backup .manifestMalformed)
  return ⟨createdAtUtc, size.toNat, sha256, alembicRevision⟩

variable (readers : Readers)

/- `_load_manifest`: a decoding that raises anything but the two expected errors is not
   turned into a `BackupError`. -/
def loadManifest (content : Bytes) : Except Failure Manifest :=
  match readers.loads content with
  | .value (.obj payload) => validateManifest payload
  | .value _ | .notJson => malformed
  | .unreadable => .error .other

/- `_build_manifest`. -/
def buildManifest (applicationVersion : String) (now : Utc) (result : BackupResult) : Parsed :=
  .obj [("schema_version", .int formatVersion),
    ("created_at_utc", .str now.format),
    ("application", .obj [("name", .str "framenest"), ("version", .str applicationVersion)]),
    ("algorithms", .obj [("digest", .str "sha256"),
      ("sqlite_integrity", .str "pragma_integrity_check")]),
    ("catalog", .obj [("logical_name", .str catalogName),
      ("size_bytes", .int result.catalogSizeBytes), ("sha256", .str result.catalogSha256),
      ("alembic_revision", .str result.alembicRevision)]),
    ("included_state", .arr (includedState.map .str)),
    ("excluded_state", .arr (excludedState.map .str))]

end Manifest

section Verification
variable (readers : Readers)

/- `_reject_unexpected_bundle_state`. -/
def rejectUnexpectedBundleState (children : Children) : Except Failure Unit := do
  demand (!(Named.names children).any fun name => startsWith name tempPrefix || endsWith name ".tmp")
    (.backup .incompleteBundle)
  demand ((Named.names children).all fun name => name = manifestName || name = catalogName)
    (.backup .unexpectedBundleState)

/- `_existing_regular_file`. -/
def existingRegularFile (children : Children) (name : String) : Except Failure Bytes :=
  match Named.get? children name with
  | some (.file content) => .ok content
  | some .symlink => .error (.backup .unsafePath)
  | some .directory | none => .error (.backup .invalidPath)

/- `_verify_sqlite_integrity`. -/
def verifySqliteIntegrity (content : Bytes) : Except Failure Unit := do
  demand (readers.integrityCheck content) (.backup .sqliteIntegrityFailed)
  demand (readers.foreignKeyCheck content) (.backup .sqliteForeignKeyFailed)

def catalogRevision (content : Bytes) : Except Failure String :=
  match readers.catalogRevision content with
  | some revision => .ok revision
  | none => .error (.backup .catalogRevisionUnavailable)

/- `verify_catalog_backup` of the children of a bundle directory. -/
def verifyChildren (children : Children) : Except Failure BackupResult := do
  rejectUnexpectedBundleState children
  let manifestContent ← existingRegularFile children manifestName
  let catalog ← existingRegularFile children catalogName
  let manifest ← loadManifest readers manifestContent
  demand (catalog.length = manifest.sizeBytes) (.backup .catalogSizeMismatch)
  demand (readers.sha256 catalog = manifest.sha256) (.backup .catalogChecksumMismatch)
  verifySqliteIntegrity readers catalog
  let observed ← catalogRevision readers catalog
  demand (observed = manifest.alembicRevision) (.backup .catalogRevisionMismatch)
  return ⟨manifest.sizeBytes, manifest.sha256, manifest.alembicRevision⟩

/- `verify_catalog_backup` of a name in the backup root. -/
def verifyCatalogBackup : Option Entry → Except Failure BackupResult
  | some (.bundle children) => verifyChildren readers children
  | some (.symlink _) => .error (.backup .unsafePath)
  | some .file | none => .error (.backup .invalidPath)

/- `is_automatic_bundle_name`: `auto-(\d{8}T\d{6}Z)-([0-9a-f]{8})`. -/
def isAutomaticBundleName (name : String) : Bool :=
  let l := name.toList
  l.length = 30 && l.take 5 = "auto-".toList && ((l.drop 5).take 8).all readers.isDecimal &&
    l[13]? = some 'T' && ((l.drop 14).take 6).all readers.isDecimal && l[20]? = some 'Z' &&
    l[21]? = some '-' &&
    (l.drop 22).all fun c => ('0' ≤ c && c ≤ '9') || ('a' ≤ c && c ≤ 'f')

/- `_bundle_looks_complete`. -/
def bundleLooksComplete (names : List String) : Bool :=
  !(names.any fun name => startsWith name tempPrefix || endsWith name ".tmp") &&
    manifestName ∈ names && catalogName ∈ names &&
    names.all fun name => name = manifestName || name = catalogName

inductive BundleClass where
  | automatic | pinned
deriving DecidableEq

def classify (name : String) : BundleClass :=
  if isAutomaticBundleName readers name then .automatic else .pinned

structure BundleSummary where
  bundleId : String
  classification : BundleClass
  complete : Bool
  verificationEligible : Bool
  retentionEligible : Bool
  createdAtUtc : Option String
  alembicRevision : Option String
deriving DecidableEq

/- `_bundle_sort_key`. -/
def bundleSortKey (summary : BundleSummary) : String × String :=
  (summary.createdAtUtc.getD "", summary.bundleId)

/-- Not behind when the newest come first: `sort(key=.., reverse=True)`. -/
def notBehind {α : Type} (key : α → String × String) (a b : α) : Prop :=
  (key b).1 < (key a).1 ∨ (key b).1 = (key a).1 ∧ (key b).2 ≤ (key a).2

instance {α : Type} (key : α → String × String) : DecidableRel (notBehind key) :=
  fun _ _ => inferInstanceAs (Decidable (_ ∨ _))

end Verification
end FrameNest.Backups
