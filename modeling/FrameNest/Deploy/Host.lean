import FrameNest.Deploy.Paths
import FrameNest.Relational.Named
import FrameNest.Text.Json
import FrameNest.Concurrent.Sequential

/-! The remote host and the fixed commands that are run on it. A command is a short list of
shell steps under `set -e`; the transport may lose it before, between or after them. -/
namespace FrameNest.Deploy
open Relational

/-- The files of the remote deploy directory. -/
inductive RemoteFile where
  | superproject | ap | engine | previous | rollbackPrevious
deriving DecidableEq

def RemoteFile.all : List RemoteFile := [superproject, ap, engine, previous, rollbackPrevious]

/-- What the commands that build a release tree have put there, one entry a command. -/
inductive Step where
  | directory
  | extract (archive : String)
  | apDirectory
  | extractAp (archive : String)
  | poetryToml
  | envUse
  | install
  | relocateShebangs (final : String)
  | chownRoot
  | removeWritableBits
  | manifest (document : Json)
  | releaseSha (text : String)

/-- A directory under the release root: how it was built, and what was put into it later. -/
structure Tree where
  built : List Step
  added : List String

structure Host where
  trees : Named Tree
  current : Option String
  /-- The temporary link `current.next`. -/
  next : Option String
  /-- `REMOTE_DEPLOY_DIR` with its files, or no such directory. -/
  deployDir : Option (RemoteFile → Option String)

/-- Commands that change nothing the release switching depends on. -/
inductive Probe where
  | poetryExecutable | cpythonExecutable | poetryVersion | cpythonVersion | dfCapacity
  | releaseMarkers (path : String)
  | readManifest (path : String)
  | readReleaseSha (path : String)
  | readOptionalLink
  | backupStatus (path : String)
  | dbStatus (path : String)
  | runScheduledBackup (path : String)
  | lockHash (path : String)
  | poetryCheckLock (path : String)
  | checkDatabaseReady (path : String)
  | checkHealth (path : String)
  | restartService | serviceActiveState | serviceResult | systemdWorkingDirectory | journal
deriving DecidableEq

inductive Preparation where
  | directory | extract | apDirectory | extractAp | poetryToml | envUse | install
  | relocateShebangs (final : String)
  | chownRoot | removeWritableBits
  | manifest (document : Json)
  | releaseSha (text : String)

inductive Command where
  | probe (probe : Probe)
  | mkdirDeployDir
  | rmDeployDir
  | removeFile (file : RemoteFile)
  | writeFile (file : RemoteFile) (sha256 content : String)
  | cat (file : RemoteFile)
  | testNotExists (path : String)
  | testExists (path : String)
  /-- `test -e PATH/.framenest-release-sha`. -/
  | testReleaseSha (path : String)
  /-- `test -x PATH/.venv/bin/framenest-production`. -/
  | testProduction (path : String)
  | prepare (staging : String) (step : Preparation)
  | renameStaging (staging release : String)
  | readlinkCurrent
  | captureCurrent (file : RemoteFile)
  | atomicSwitch (release : String)

namespace Host

def file? (h : Host) (file : RemoteFile) : Option String := h.deployDir.bind fun files => files file

def writeFile (h : Host) (file : RemoteFile) (content : String) : Option Host :=
  h.deployDir.map fun files =>
    { h with deployDir := some fun f => if f = file then some content else files f }

/- One more thing built into a tree that is there. -/
def build (h : Host) (path : String) (step : Step) : Option Host :=
  (Named.get? h.trees path).map fun tree =>
    { h with trees := Named.set h.trees path { tree with built := tree.built ++ [step] } }

/- `install -d PATH`: an existing directory is left as it is. -/
def installDirectory (h : Host) (path : String) : Option Host :=
  match Named.put? h.trees path ⟨[.directory], []⟩ with
  | some trees => some { h with trees }
  | none => some h

/- Something new under a name in a directory; refused when the name is taken. -/
def addInside (h : Host) (path name : String) : Option Host :=
  match Named.get? h.trees path with
  | none => none
  | some tree =>
    if name ∈ tree.added then none
    else some { h with trees := Named.set h.trees path { tree with added := tree.added ++ [name] } }

def prepare (h : Host) (staging : String) : Preparation → Option Host
  | .directory => h.installDirectory staging
  | .extract => (h.file? .engine).bind fun _ =>
      (h.file? .superproject).bind fun archive => h.build staging (.extract archive)
  | .apDirectory => h.build staging .apDirectory
  | .extractAp => (h.file? .engine).bind fun _ =>
      (h.file? .ap).bind fun archive => h.build staging (.extractAp archive)
  | .poetryToml => h.build staging .poetryToml
  | .envUse => h.build staging .envUse
  | .install => h.build staging .install
  | .relocateShebangs final => (h.file? .engine).bind fun _ =>
      h.build staging (.relocateShebangs final)
  | .chownRoot => h.build staging .chownRoot
  | .removeWritableBits => h.build staging .removeWritableBits
  | .manifest document => h.build staging (.manifest document)
  | .releaseSha text => h.build staging (.releaseSha text)

/- `mv STAGING RELEASE`: into the release directory when there is one already. -/
def move (h : Host) (staging release : String) : Option Host :=
  match Named.get? h.trees staging with
  | none => none
  | some tree =>
    match Named.put? (Named.erase h.trees staging) release tree with
    | some trees => some { h with trees }
    | none => ({ h with trees := Named.erase h.trees staging } : Host).addInside release
        (basename staging)

/- `ln -s RELEASE current.next`: onto a link to a directory, the new link goes inside it; onto
   a link to nothing, the name is taken. -/
def linkNext (h : Host) (release : String) : Option Host :=
  match h.next with
  | none => some { h with next := some release }
  | some directory => h.addInside directory (basename release)

/- `mv -T current.next current`. -/
def renameNext (h : Host) : Option Host :=
  h.next.map fun release => { h with current := some release, next := none }

end Host

def demandHost (b : Bool) (h : Host) : Option Host := if b then some h else none

section Shell
variable (sha256 : String → String)

/- The shell steps of a command, in order. -/
def Command.steps : Command → List (Host → Option Host)
  | .probe _ => []
  | .mkdirDeployDir => [fun h =>
      if h.deployDir.isSome then none else some { h with deployDir := some fun _ => none }]
  | .rmDeployDir => [fun h =>
      if h.deployDir.isSome && RemoteFile.all.all (fun f => (h.file? f).isNone) then
        some { h with deployDir := none }
      else none]
  | .removeFile file => [fun h => some
      { h with deployDir := h.deployDir.map fun files f => if f = file then none else files f }]
  | .writeFile file digest content => [fun h => h.writeFile file content,
      fun h => demandHost ((h.file? file).map sha256 = some digest) h]
  | .cat file => [fun h => demandHost (h.file? file).isSome h]
  | .testNotExists path => [fun h => demandHost (Named.get? h.trees path).isNone h]
  | .testExists path => [fun h => demandHost (Named.get? h.trees path).isSome h]
  | .testReleaseSha path => [fun h => demandHost ((Named.get? h.trees path).any fun tree =>
      tree.built.any fun step => match step with
        | .releaseSha _ => true
        | _ => false) h]
  | .testProduction path => [fun h => demandHost ((Named.get? h.trees path).any fun tree =>
      tree.built.any fun step => match step with
        | .install => true
        | _ => false) h]
  | .prepare staging step => [fun h => h.prepare staging step]
  | .renameStaging staging release => [fun h => h.move staging release]
  | .readlinkCurrent => [fun h => demandHost h.current.isSome h]
  | .captureCurrent file => [fun h => demandHost (h.current.any fun prev => prev ≠ "") h,
      fun h => h.current.bind fun prev => h.writeFile file prev]
  | .atomicSwitch release => [fun h => h.linkNext release, Host.renameNext]

/- `set -e`: the steps up to the first that fails. -/
def runSteps : List (Host → Option Host) → Host → Host × Bool
  | [], h => (h, true)
  | step :: steps, h => match step h with
    | some h' => runSteps steps h'
    | none => (h, false)

/-- What the transport makes of a command: it completes and says so, or it is reported as failed
with some of its steps taken. -/
inductive Outcome where
  | success
  | stopped (steps : Nat)
deriving DecidableEq

def runCommand (outcome : Outcome) (c : Command) (h : Host) : Host × Bool :=
  match outcome with
  | .success => runSteps (c.steps sha256) h
  | .stopped n => ((runSteps ((c.steps sha256).take n) h).1, false)

/- What a command that succeeds prints: of the host where it reads it, else `stdout`. -/
def Command.output (c : Command) (stdout : String) (h : Host) : String :=
  match c with
  | .probe _ => stdout
  | .cat file => (h.file? file).getD ""
  | .readlinkCurrent => h.current.getD ""
  | _ => ""

end Shell

end FrameNest.Deploy
