import FrameNest.Durable.Directory
import FrameNest.Uploads.Publications

/-! The quarantine of uploaded bytes: one file for each storage key, reached through system
calls that can fail at any point. -/
namespace FrameNest.Uploads
open Durable

inductive QuarantineError where
  | unavailable | insufficientSpace | stateInconsistent | writeFailed
deriving DecidableEq

abbrev Quarantine := UploadStorageKey → Option (File UInt8)

/- `_QuarantineFileWriter`: the open file and the position of its descriptor. -/
structure QuarantineWriter where
  storageKey : UploadStorageKey
  position : Int

structure QuarantineReader where
  storageKey : UploadStorageKey
  sizeBytes : Nat

inductive QuarantineEffect where
  | rootAvailable
  | availableBytes
  | fileSize (key : UploadStorageKey)
  | openWriter (key : UploadStorageKey) (offset : Int) (create : Bool)
  | write (writer : QuarantineWriter) (data : List UInt8)
  | truncateAndFsync (writer : QuarantineWriter) (size : Int)
  | flushAndFsync (writer : QuarantineWriter)
  | closeWriter (writer : QuarantineWriter)
  | remove (key : UploadStorageKey)
  | openReader (key : UploadStorageKey) (expectedSizeBytes : Int)
  | read (reader : QuarantineReader) (position limit : Nat)
  | verifyStillConsistent (reader : QuarantineReader)

/-- How a system call goes wrong: before it did anything, with part of its work done, or by
moving fewer bytes than asked. -/
inductive QuarantineFault where
  | unavailable | stateInconsistent | refused | broken
  | short (count : Nat)
deriving DecidableEq

namespace QuarantineEffect

def Answer : QuarantineEffect → Type
  | rootAvailable => Bool
  | availableBytes => Int
  | fileSize .. => Option Nat
  | openWriter .. => QuarantineWriter
  | write .. => Nat
  | truncateAndFsync .. | flushAndFsync .. | closeWriter .. | remove ..
  | verifyStillConsistent .. => Unit
  | openReader .. => QuarantineReader
  | read .. => List UInt8

/- How many bytes of `n` a call moves. -/
def moved (fault : Option QuarantineFault) (n : Nat) : Nat :=
  match fault with
  | some (.short count) => min count n
  | _ => n

def exec (fault : Option QuarantineFault) (freeBytes : Int) :
    (e : QuarantineEffect) → Quarantine → Except QuarantineError e.Answer × Quarantine
  | rootAvailable, q => (.ok (fault != some .unavailable), q)
  | availableBytes, q =>
    if fault = some .unavailable then (.error .unavailable, q) else (.ok freeBytes, q)
  | fileSize key, q =>
    if fault = some .unavailable then (.error .unavailable, q)
    else if fault = some .stateInconsistent then (.error .stateInconsistent, q)
    else (.ok ((q key).map File.size), q)
  | openWriter key offset create, q =>
    if fault = some .unavailable then (.error .unavailable, q)
    else if fault = some .refused || create = (q key).isSome then (.error .writeFailed, q)
    else
      -- the file is there before its descriptor is positioned
      let opened := if create then Function.update q key (some File.empty) else q
      if fault = some .broken || offset < 0 then (.error .writeFailed, opened)
      else (.ok ⟨key, offset⟩, opened)
  | write writer data, q =>
    match fault, q writer.storageKey with
    | some .refused, _ | _, none => (.error .writeFailed, q)
    | fault, some file =>
      let written := data.take (moved fault data.length)
      (.ok written.length, Function.update q writer.storageKey
        (some (file.writeAt writer.position.toNat written)))
  | truncateAndFsync writer size, q =>
    match fault, q writer.storageKey with
    | some .refused, _ | _, none => (.error .writeFailed, q)
    | fault, some file =>
      if size < 0 then (.error .writeFailed, q)
      else
        let truncated := file.truncate size.toNat
        if fault = some .broken then
          (.error .writeFailed, Function.update q writer.storageKey (some truncated))
        else (.ok (), Function.update q writer.storageKey (some truncated.sync))
  | flushAndFsync writer, q =>
    match fault, q writer.storageKey with
    | some .refused, _ | some .broken, _ | _, none => (.error .writeFailed, q)
    | _, some file => (.ok (), Function.update q writer.storageKey (some file.sync))
  | closeWriter _, q => if fault = some .refused then (.error .writeFailed, q) else (.ok (), q)
  | remove key, q =>
    if fault = some .unavailable then (.error .unavailable, q)
    else if fault = some .refused then (.error .writeFailed, q)
    else (.ok (), Function.update q key none)
  | openReader key expected, q =>
    if fault = some .unavailable then (.error .unavailable, q)
    else
      match fault, q key with
      | some .stateInconsistent, _ | _, none => (.error .stateInconsistent, q)
      | _, some file =>
        if (file.size : Int) = expected then (.ok ⟨key, file.size⟩, q)
        else (.error .stateInconsistent, q)
  | read reader position limit, q =>
    match fault, q reader.storageKey with
    | some .stateInconsistent, _ | _, none => (.error .stateInconsistent, q)
    | fault, some file =>
      -- a read of bytes that are there returns at least one of them
      (.ok ((file.content.drop position).take (max 1 (moved fault limit))), q)
  | verifyStillConsistent _, q =>
    if fault = some .stateInconsistent then (.error .stateInconsistent, q) else (.ok (), q)

end QuarantineEffect
end FrameNest.Uploads

/-! The destination of published originals: one directory, reached through system calls
that can fail at any point. -/
namespace FrameNest.Uploads
open Durable

/-- The errors of the storage port, and an `OSError` that no handler translates. -/
inductive PublishedMediaError where
  | storageUnavailable | insufficientSpace | targetCollision | verification | write | osError
deriving DecidableEq

abbrev Destination := Directory String UInt8

/- `_temporary_name`. -/
def temporaryName (publication : UploadPublicationRow) : String :=
  "." ++ publication.publicationId.hex ++ ".publish.tmp"

inductive TargetEffect where
  | openRoot
  | availableBytes
  | verifyFinal (publication : UploadPublicationRow)
  | openOwnedTemporary (name : String)
  | writeAll (inode position : Nat) (data : List UInt8)
  | sizeOf (inode : Nat)
  | fsyncFile (inode : Nat)
  | link (temporary final : String)
  | fsyncDirectory
  | unlinkOwnedTemporary (name : String)

inductive TargetFault where
  | unavailable | refused | full | broken
  /-- Some bytes are written when the disk fails or is full. -/
  | wrote (count : Nat) (full : Bool)
deriving DecidableEq

/- `_descriptor_matches`, of a regular file. -/
def contentMatches (sha256 : List UInt8 → String) (publication : UploadPublicationRow)
    (file : File UInt8) : Bool :=
  (file.size : Int) = publication.expectedSizeBytes && sha256 file.content = publication.checksumHex

namespace TargetEffect

def Answer : TargetEffect → Type
  | openRoot | writeAll .. | fsyncFile .. | fsyncDirectory | unlinkOwnedTemporary .. => Unit
  | availableBytes => Int
  | verifyFinal .. | link .. => Bool
  | openOwnedTemporary .. | sizeOf .. => Nat

def exec (sha256 : List UInt8 → String) (fault : Option TargetFault) (freeBytes : Int) :
    (e : TargetEffect) → Destination → Except PublishedMediaError e.Answer × Destination
  | openRoot, d =>
    if fault = some .unavailable then (.error .storageUnavailable, d) else (.ok (), d)
  | availableBytes, d =>
    if fault = some .unavailable then (.error .storageUnavailable, d) else (.ok freeBytes, d)
  | verifyFinal publication, d =>
    match fault, d.file? publication.relativePath with
    | some .refused, _ => (.error .targetCollision, d)
    | _, none => (.ok false, d)
    | some .broken, some _ => (.error .verification, d)
    | _, some file =>
      if contentMatches sha256 publication file then (.ok true, d) else (.error .targetCollision, d)
  | openOwnedTemporary name, d =>
    match fault, d.lookup name with
    | some .refused, _ => (.error .write, d)
    | some .full, none => (.error .insufficientSpace, d)
    | some .broken, none => (.error .osError, d.create name)
    | _, none => (.ok d.nextInode, d.create name)
    | some .broken, some _ => (.error .osError, d)
    | _, some inode =>
      -- a name whose inode is linked elsewhere may be the published original itself
      if d.links inode = 1 then (.ok inode, d.setInode inode ((d.inodes inode).truncate 0))
      else (.error .write, d)
  | writeAll inode position data, d =>
    match fault with
    | some (.wrote count full) =>
      (.error (if full then .insufficientSpace else .write),
        d.setInode inode ((d.inodes inode).writeAt position (data.take count)))
    | _ => (.ok (), d.setInode inode ((d.inodes inode).writeAt position data))
  | sizeOf inode, d =>
    if fault = some .refused then (.error .osError, d) else (.ok (d.inodes inode).size, d)
  | fsyncFile inode, d =>
    if fault = some .refused then (.error .write, d)
    else if fault = some .full then (.error .insufficientSpace, d)
    else (.ok (), d.setInode inode (d.inodes inode).sync)
  | link temporary final, d =>
    match fault, d.lookup temporary, d.lookup final with
    | some .refused, _, _ | _, none, _ => (.error .write, d)
    | some .full, _, _ => (.error .insufficientSpace, d)
    | _, some _, some _ => (.ok false, d)
    | _, some inode, none => (.ok true, d.link inode final)
  | fsyncDirectory, d => if fault = some .refused then (.error .write, d) else (.ok (), d.sync)
  | unlinkOwnedTemporary name, d =>
    if fault = some .refused then (.error .write, d)
    else if (d.lookup name).isSome then (.ok (), d.unlink name)
    else (.ok (), d)

end TargetEffect
end FrameNest.Uploads
