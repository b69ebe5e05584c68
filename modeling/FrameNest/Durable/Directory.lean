import Mathlib.Data.List.Basic

/-! Files over a crash. A write, a truncation and a sync act on what a reader sees; a
crash is sure to leave only what was synced and not touched since. -/
namespace Durable
variable {β : Type}

structure File (β : Type) where
  content : List β
  /-- How many of the leading bytes a crash is sure to leave. -/
  synced : Nat
  synced_le : synced ≤ content.length

/- The first `n` bytes of a file, the gap beyond its end filled. -/
def padTo [Inhabited β] (n : Nat) (l : List β) : List β := l.take n ++ List.replicate (n - l.length) default

theorem padTo_length [Inhabited β] (n : Nat) (l : List β) : (padTo n l).length = n := by
  simp only [padTo, List.length_append, List.length_take, List.length_replicate]
  omega

namespace File

def empty : File β := ⟨[], 0, Nat.le_refl _⟩

def size (f : File β) : Nat := f.content.length

/-- `pwrite`. -/
def writeAt [Inhabited β] (f : File β) (position : Nat) (data : List β) : File β where
  content := padTo position f.content ++ data ++ f.content.drop (position + data.length)
  synced := min f.synced position
  synced_le := by
    simp only [List.length_append, padTo_length]
    omega

/-- `ftruncate`. -/
def truncate [Inhabited β] (f : File β) (n : Nat) : File β where
  content := padTo n f.content
  synced := min f.synced n
  synced_le := by
    rw [padTo_length]
    omega

/-- `fsync`. -/
def sync (f : File β) : File β := ⟨f.content, f.content.length, Nat.le_refl _⟩

end File
end Durable

/-! One directory over a crash. Names point to inodes; a name changed since the last sync
of the directory may come back from a crash with any value it has had since. -/
namespace Durable
variable {ν β : Type} [DecidableEq ν]

structure Directory (ν β : Type) where
  inodes : Nat → File β
  nextInode : Nat
  entries : List (ν × Nat)
  /-- The values a crash may leave in a name. -/
  survivors : ν → List (Option Nat)

namespace Directory

def lookup (d : Directory ν β) (name : ν) : Option Nat :=
  (d.entries.find? fun entry => entry.1 = name).map Prod.snd

/- `st_nlink`. -/
def links (d : Directory ν β) (inode : Nat) : Nat :=
  (d.entries.filter fun entry => entry.2 = inode).length

def file? (d : Directory ν β) (name : ν) : Option (File β) := (d.lookup name).map d.inodes

def setInode (d : Directory ν β) (inode : Nat) (f : File β) : Directory ν β :=
  { d with inodes := Function.update d.inodes inode f }

/- `open(O_CREAT | O_EXCL)` of a free name. -/
def create (d : Directory ν β) (name : ν) : Directory ν β :=
  { inodes := Function.update d.inodes d.nextInode File.empty
    nextInode := d.nextInode + 1
    entries := (name, d.nextInode) :: d.entries
    survivors := Function.update d.survivors name (some d.nextInode :: d.survivors name) }

/- `link` of an inode under a free name. -/
def link (d : Directory ν β) (inode : Nat) (name : ν) : Directory ν β :=
  { d with
    entries := (name, inode) :: d.entries
    survivors := Function.update d.survivors name (some inode :: d.survivors name) }

def unlink (d : Directory ν β) (name : ν) : Directory ν β :=
  { d with
    entries := d.entries.filter fun entry => entry.1 ≠ name
    survivors := Function.update d.survivors name (none :: d.survivors name) }

/- `fsync` of the directory. -/
def sync (d : Directory ν β) : Directory ν β := { d with survivors := fun name => [d.lookup name] }

variable {d : Directory ν β} {name other : ν}

theorem lookup_unlink : (d.unlink name).lookup other =
    if name = other then none else d.lookup other := by
  unfold lookup unlink
  simp only [List.find?_filter]
  by_cases h : name = other
  · subst h
    simp
  · have hsame (entry : ν × Nat) :
        (entry.1 ≠ name ∧ entry.1 = other) ↔ entry.1 = other := by
      refine ⟨And.right, fun ho => ⟨?_, ho⟩⟩
      rw [ho]
      exact Ne.symm h
    simp only [if_neg h, decide_eq_true_eq, hsame]

end Directory
end Durable
