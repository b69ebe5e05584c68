import FrameNest.Text.CodePoints
import Mathlib.Data.List.Sort
import Mathlib.Data.Prod.Lex
import Mathlib.Order.Lex
import Mathlib.Data.List.Lex

/-! `LocalLibraryScanner.preview`: the entries of a directory tree in the order of their case-folded
names, one budget for all directories, and what is counted of them. -/
namespace FrameNest.Library

/-- `str.casefold` and `str.lower`, of which only what they do to ASCII is used. -/
structure Casing where
  casefold : PyStr → PyStr
  lower : PyStr → PyStr
  lower_ascii : ∀ l : List Char, (∀ c ∈ l, c.toNat < 128) →
    lower (PyStr.ofChars l) = PyStr.ofChars (l.map Char.toLower)

def slash : CodePoint := .char '/'
def backslash : CodePoint := .char '\\'
def dot : CodePoint := .char '.'

/-- A name that a directory of a POSIX system can hold, decoded with `surrogateescape`. -/
structure Name where
  text : PyStr
  nonempty : text ≠ []
  no_slash : slash ∉ text
  no_nul : CodePoint.char '\x00' ∉ text
deriving DecidableEq

/-- What a directory entry is: `fails` when the system answers `is_symlink`, `is_dir` or `is_file`
with an error. A directory that is not `readable` cannot be listed, a file without a size not be
examined. -/
inductive Node where
  | fails
  | symlink
  | directory (readable : Bool) (entries : List (Name × Node))
  | file (size : Option Nat)
  | other

section Limits

inductive CandidateKind where
  | video
  | gif
  | image
deriving DecidableEq

def videoExtensions : List String :=
  [".3gp", ".avi", ".flv", ".m2ts", ".m4v", ".mkv", ".mov", ".mp4", ".mpeg", ".mpg", ".mts", ".ogv",
    ".ts", ".vob", ".webm", ".wmv"]

def gifExtensions : List String := [".gif"]

def imageExtensions : List String := [".jpg", ".jpeg", ".png"]

/- `classify_candidate_extension`. -/
def classifyCandidateExtension (extension : PyStr) : Option CandidateKind :=
  if extension ∈ videoExtensions.map PyStr.ofString then some .video
  else if extension ∈ gifExtensions.map PyStr.ofString then some .gif
  else if extension ∈ imageExtensions.map PyStr.ofString then some .image
  else none

structure ScanLimits where
  maxEntries : Nat
  maxCandidates : Nat
  entries_bounded : 1 ≤ maxEntries ∧ maxEntries ≤ 1000000
  candidates_bounded : 1 ≤ maxCandidates ∧ maxCandidates ≤ 10000

end Limits

inductive ScanError where
  | unavailable
  | failed
  | invalidCandidate
  | recursion
deriving DecidableEq

structure Candidate where
  relativePath : PyStr
  kind : CandidateKind
  extension : PyStr
  sizeBytes : Nat
deriving DecidableEq

structure ScanState where
  entriesSeen : Nat
  directoriesSeen : Nat
  regularFilesSeen : Nat
  candidateFilesSeen : Nat
  candidateBytesSeen : Nat
  skippedHiddenEntries : Nat
  skippedSymlinkEntries : Nat
  skippedOtherEntries : Nat
  inaccessibleEntries : Nat
  truncated : Bool
  candidatesTruncated : Bool
  candidates : List Candidate
deriving DecidableEq

def ScanState.empty : ScanState := ⟨0, 0, 0, 0, 0, 0, 0, 0, 0, false, false, []⟩

section Paths

/- `_join_relative_path`. -/
def joinRelativePath (parent : PyStr) (name : Name) : PyStr :=
  if parent = [] then name.text else parent ++ slash :: name.text

def pathParts (path : PyStr) : List PyStr := path.splitOn slash

/- `_validate_output_relative_path`; a `PurePosixPath` drops its empty parts and its dots. -/
def validateOutputRelativePath (path : PyStr) : Except ScanError Unit :=
  if path.head? = some slash ∨
      ((pathParts path).filter fun part => part ≠ [] ∧ part ≠ [dot]).any fun part =>
        part = [dot, dot] then .error .failed
  else .ok ()

/- `_validate_relative_path`. -/
def validateRelativePath (path : PyStr) : Except ScanError Unit :=
  if path = [] then .error .invalidCandidate
  else if path.head? = some slash ∨ backslash ∈ path then .error .invalidCandidate
  else if (pathParts path).any fun part => part = [dot] ∨ part = [dot, dot] ∨ part = [] then
    .error .invalidCandidate
  else .ok ()

/- `_validate_extension`. -/
def validateExtension (casing : Casing) (extension : PyStr) : Except ScanError Unit :=
  if extension.head? ≠ some dot ∨ extension ≠ casing.lower extension then .error .invalidCandidate
  else .ok ()

/- `Path(name).suffix`: from the last dot on, unless it is the first or the last character. -/
def suffix (name : PyStr) : PyStr :=
  let ending := (name.reverse.takeWhile (· ≠ dot)).reverse
  if ending ≠ [] ∧ ending.length + 1 < name.length then dot :: ending else []

end Paths

section Scanning
variable (casing : Casing) (limits : ScanLimits)

/-- The order of `_entry_sort_key`: two strings, each compared by its code points. -/
def code : CodePoint → Nat
  | .char c => c.toNat
  | .surrogate offset => 0xd800 + offset

def entrySortKey (name : Name) : List Nat ×ₗ List Nat :=
  toLex ((casing.casefold name.text).map code, name.text.map code)

/- `sorted(scanner, key=..)`. -/
def sorted {α : Type} (entries : List (Name × α)) : List (Name × α) :=
  entries.insertionSort fun a b => entrySortKey casing a.1 ≤ entrySortKey casing b.1

/- `LibraryScanCandidate(..)`. -/
def libraryScanCandidate (relativePath : PyStr) (kind : CandidateKind) (extension : PyStr)
    (sizeBytes : Nat) : Except ScanError Candidate := do
  validateRelativePath relativePath
  validateExtension casing extension
  return ⟨relativePath, kind, extension, sizeBytes⟩

/- `_ScanState.record_candidate`. -/
def ScanState.recordCandidate (s : ScanState) (relativePath extension : PyStr) (sizeBytes : Nat) :
    Except ScanError ScanState :=
  match classifyCandidateExtension extension with
  | none => .ok s
  | some kind =>
    let s := { s with
      candidateFilesSeen := s.candidateFilesSeen + 1
      candidateBytesSeen := s.candidateBytesSeen + sizeBytes }
    if s.candidates.length < limits.maxCandidates then do
      let candidate ← libraryScanCandidate casing relativePath kind extension sizeBytes
      return { s with candidates := s.candidates ++ [candidate] }
    else .ok { s with candidatesTruncated := true }

/- The branch of a regular file. -/
def ScanState.visitFile (s : ScanState) (relativePrefix : PyStr) (name : Name) (size : Option Nat) :
    Except ScanError ScanState :=
  let s := { s with regularFilesSeen := s.regularFilesSeen + 1 }
  match size with
  | none => .ok { s with inaccessibleEntries := s.inaccessibleEntries + 1 }
  | some sizeBytes =>
    let extension := casing.lower (suffix name.text)
    if extension = [] then .ok s
    else do
      let childRelative := joinRelativePath relativePrefix name
      validateOutputRelativePath childRelative
      s.recordCandidate casing limits childRelative extension sizeBytes

/- The `for` of `_traverse_directory`; `enter` is the call for a directory in it. -/
def scanEntries
    (enter : Bool → List (Name × Node) → PyStr → ScanState → Except ScanError ScanState)
    (relativePrefix : PyStr) : List (Name × Node) → ScanState → Except ScanError ScanState
  | [], s => .ok s
  | (name, node) :: rest, s =>
    if limits.maxEntries ≤ s.entriesSeen then .ok { s with truncated := true }
    else
      let s := { s with entriesSeen := s.entriesSeen + 1 }
      if name.text.head? = some dot then
        scanEntries enter relativePrefix rest
          { s with skippedHiddenEntries := s.skippedHiddenEntries + 1 }
      else
        match node with
        | .fails =>
          scanEntries enter relativePrefix rest
            { s with inaccessibleEntries := s.inaccessibleEntries + 1 }
        | .symlink =>
          scanEntries enter relativePrefix rest
            { s with skippedSymlinkEntries := s.skippedSymlinkEntries + 1 }
        | .directory readable entries => do
          let s ← enter readable entries (joinRelativePath relativePrefix name)
            { s with directoriesSeen := s.directoriesSeen + 1 }
          if s.truncated then return s else scanEntries enter relativePrefix rest s
        | .file size => do
          let s ← s.visitFile casing limits relativePrefix name size
          scanEntries enter relativePrefix rest s
        | .other =>
          scanEntries enter relativePrefix rest
            { s with skippedOtherEntries := s.skippedOtherEntries + 1 }

/- `_traverse_directory`; `frames` calls of it, with what they call, still fit on the stack. -/
def traverseDirectory : Nat → Bool → List (Name × Node) → PyStr → ScanState →
    Except ScanError ScanState
  | 0, _, _, _, _ => .error .recursion
  | frames + 1, readable, entries, relativePrefix, s =>
    if readable then
      scanEntries casing limits (traverseDirectory frames) relativePrefix (sorted casing entries) s
    else if relativePrefix = [] then .error .unavailable
    else .ok { s with inaccessibleEntries := s.inaccessibleEntries + 1 }

/-- A registered root: whether its path is of the flavour of this system, how `exists` and `is_dir`
answer (`none` when they raise), and the directory it names. -/
structure Root where
  native : Bool
  found : Option Bool
  isDirectory : Option Bool
  readable : Bool
  entries : List (Name × Node)

/- `preview`; `frames` directories may be nested below the root before the stack is full. -/
def preview (frames : Nat) (root : Root) : Except ScanError ScanState :=
  if root.native = false then .error .unavailable
  else if root.found ≠ some true then .error .unavailable
  else if root.isDirectory ≠ some true then .error .unavailable
  else
    match traverseDirectory casing limits (frames + 1) root.readable root.entries [] .empty with
    | .ok s => .ok s
    | .error .unavailable => .error .unavailable
    | .error _ => .error .failed

end Scanning

section Walk
variable (casing : Casing)

inductive What where
  | hidden
  | fails
  | symlink
  | directory (readable : Bool)
  | file (size : Option Nat)
  | other
deriving DecidableEq

/-- One entry of the tree as the walk comes to it; the entries of the root have level one. -/
structure Visit where
  parent : PyStr
  name : Name
  level : Nat
  what : What
deriving DecidableEq

def Visit.path (v : Visit) : PyStr := joinRelativePath v.parent v.name

def Name.hidden (name : Name) : Bool := name.text.head? = some dot

def whatOf (name : Name) (node : Node) : What :=
  if name.hidden then .hidden
  else
    match node with
    | .fails => .fails
    | .symlink => .symlink
    | .directory readable _ => .directory readable
    | .file size => .file size
    | .other => .other

mutual

/-- What is visited inside an entry: the tree below a directory that can be listed, each directory
in the order of the keys of its entries and before the entries after it. -/
def Node.inside (path : PyStr) (level : Nat) : Node → List Visit
  | .directory true entries => (sorted casing (listing path level entries)).flatMap Prod.snd
  | _ => []

/-- What is visited for each entry of a directory; nothing hidden is entered. -/
def listing (parent : PyStr) (level : Nat) : List (Name × Node) → List (Name × List Visit)
  | [] => []
  | (name, node) :: rest =>
    (name, ⟨parent, name, level, whatOf name node⟩ ::
      if name.hidden then [] else node.inside (joinRelativePath parent name) (level + 1)) ::
        listing parent level rest

end

/-- The whole tree in depth-first order. -/
def walk (entries : List (Name × Node)) : List Visit :=
  (sorted casing (listing casing [] 1 entries)).flatMap Prod.snd

def Visit.extension (v : Visit) : PyStr := casing.lower (suffix v.name.text)

/-- The supported file that an entry is. -/
def Visit.candidate? (v : Visit) : Option Candidate :=
  match v.what with
  | .file (some sizeBytes) =>
    (classifyCandidateExtension (v.extension casing)).map fun kind =>
      ⟨v.path, kind, v.extension casing, sizeBytes⟩
  | _ => none

def Visit.isDirectory (v : Visit) : Bool := v.what matches .directory _
def Visit.isFile (v : Visit) : Bool := v.what matches .file _

/-- An entry that cannot be examined, or a directory that cannot be listed. -/
def Visit.inaccessible (v : Visit) : Bool :=
  v.what matches .fails | .directory false | .file none

/-- The counters and candidates of what has been seen, continued from a state. -/
def ScanState.after (maxCandidates : Nat) (s : ScanState) (seen : List Visit) : ScanState :=
  let supported := seen.filterMap (Visit.candidate? casing)
  { entriesSeen := s.entriesSeen + seen.length
    directoriesSeen := s.directoriesSeen + seen.countP Visit.isDirectory
    regularFilesSeen := s.regularFilesSeen + seen.countP Visit.isFile
    candidateFilesSeen := s.candidateFilesSeen + supported.length
    candidateBytesSeen := s.candidateBytesSeen + (supported.map Candidate.sizeBytes).sum
    skippedHiddenEntries := s.skippedHiddenEntries + seen.countP (·.what = .hidden)
    skippedSymlinkEntries := s.skippedSymlinkEntries + seen.countP (·.what = .symlink)
    skippedOtherEntries := s.skippedOtherEntries + seen.countP (·.what = .other)
    inaccessibleEntries := s.inaccessibleEntries + seen.countP Visit.inaccessible
    truncated := s.truncated
    candidatesTruncated := s.candidatesTruncated ||
      decide (maxCandidates < s.candidates.length + supported.length)
    candidates := s.candidates ++ supported.take (maxCandidates - s.candidates.length) }

/-- The preview of a tree: the first entries of the walk, counted, and whether there are more. -/
def report (limits : ScanLimits) (entries : List (Name × Node)) : ScanState :=
  let visits := walk casing entries
  { ScanState.empty.after casing limits.maxCandidates (visits.take limits.maxEntries) with
    truncated := limits.maxEntries < visits.length }

end Walk

section Absorbing
variable (casing : Casing) (limits : ScanLimits) (frames : Nat)

/-- What one entry does to the state, apart from the entries below it. -/
def ScanState.step (s : ScanState) (v : Visit) : Except ScanError ScanState :=
  let s := { s with entriesSeen := s.entriesSeen + 1 }
  match v.what with
  | .hidden => .ok { s with skippedHiddenEntries := s.skippedHiddenEntries + 1 }
  | .fails => .ok { s with inaccessibleEntries := s.inaccessibleEntries + 1 }
  | .symlink => .ok { s with skippedSymlinkEntries := s.skippedSymlinkEntries + 1 }
  | .other => .ok { s with skippedOtherEntries := s.skippedOtherEntries + 1 }
  | .file size => s.visitFile casing limits v.parent v.name size
  | .directory readable =>
    if frames < v.level then .error .recursion
    else
      let s := { s with directoriesSeen := s.directoriesSeen + 1 }
      if readable then .ok s else .ok { s with inaccessibleEntries := s.inaccessibleEntries + 1 }

/-- The visits one after another, until the budget is used up. -/
def absorb : List Visit → ScanState → Except ScanError ScanState
  | [], s => .ok s
  | v :: rest, s =>
    if limits.maxEntries ≤ s.entriesSeen then .ok { s with truncated := true }
    else do
      let s ← s.step casing limits frames v
      absorb rest s

variable {casing limits frames} {s s' : ScanState} {v : Visit} {l rest : List Visit}

theorem record_truncated {path extension : PyStr} {size : Nat}
    (h : s.recordCandidate casing limits path extension size = .ok s') :
    s'.truncated = s.truncated := by
  unfold ScanState.recordCandidate at h
  cases hkind : classifyCandidateExtension extension with
  | none =>
    rw [hkind] at h
    cases h
    rfl
  | some kind =>
    simp only [hkind] at h
    split at h
    · cases hmade : libraryScanCandidate casing path kind extension size with
      | error e => simp [hmade, bind, Except.bind] at h
      | ok candidate =>
        simp only [hmade, bind, Except.bind, pure, Except.pure, Except.ok.injEq] at h
        subst h
        rfl
    · cases h
      rfl

theorem visitFile_truncated {parent : PyStr} {name : Name} {size : Option Nat}
    (h : s.visitFile casing limits parent name size = .ok s') : s'.truncated = s.truncated := by
  unfold ScanState.visitFile at h
  cases size with
  | none =>
    cases h
    rfl
  | some sizeBytes =>
    simp only at h
    split at h
    · cases h
      rfl
    · cases hvalid : validateOutputRelativePath (joinRelativePath parent name) with
      | error e => simp [hvalid, bind, Except.bind] at h
      | ok _ =>
        simp only [hvalid, bind, Except.bind] at h
        have hsame := record_truncated h
        exact hsame

theorem step_truncated (h : s.step casing limits frames v = .ok s') : s'.truncated = s.truncated := by
  unfold ScanState.step at h
  cases hwhat : v.what <;> simp only [hwhat] at h
  case file size =>
    have hsame := visitFile_truncated h
    exact hsame
  case directory readable =>
    split at h
    · cases h
    · cases readable <;> (cases h; rfl)
  all_goals
    cases h
    rfl

/-- Visits in a row go on where the first of them ended, unless the budget was used up there. -/
theorem absorb_append (hs : s.truncated = false) : absorb casing limits frames (l ++ rest) s =
    (absorb casing limits frames l s).bind fun s =>
      if s.truncated then .ok s else absorb casing limits frames rest s := by
  induction l generalizing s with
  | nil => simp [absorb, Except.bind, hs]
  | cons v l ih =>
    rw [List.cons_append, absorb, absorb]
    split
    · rfl
    · cases hstep : s.step casing limits frames v with
      | error e => rfl
      | ok s' =>
        have hs' : s'.truncated = false := by rw [step_truncated hstep, hs]
        exact ih hs'

end Absorbing

section Traversing
variable {casing : Casing} {limits : ScanLimits} {frames : Nat}

theorem listing_map (path : PyStr) (level : Nat) (entries : List (Name × Node)) :
    listing casing path level entries = entries.map fun e =>
      (e.1, ⟨path, e.1, level, whatOf e.1 e.2⟩ ::
        if e.1.hidden then [] else e.2.inside casing (joinRelativePath path e.1) (level + 1)) := by
  induction entries with
  | nil => rfl
  | cons e rest ih =>
    rw [listing, ih]
    rfl

/-- Sorting the entries of a directory sorts what is visited for them. -/
theorem sorted_listing (path : PyStr) (level : Nat) (entries : List (Name × Node)) :
    sorted casing (listing casing path level entries) =
      listing casing path level (sorted casing entries) := by
  rw [listing_map, listing_map, sorted, sorted]
  symm
  apply List.map_insertionSort
  intro a _ b _
  rfl

/-- The loop over the entries of a directory takes up what is visited for them, if the calls for
the directories among them do. -/
theorem scan_absorb {n level : Nat} (hlevel : n + level = frames + 1)
    (henter : ∀ (readable : Bool) (entries : List (Name × Node)) (path : PyStr) (s : ScanState),
      path ≠ [] → s.truncated = false →
        traverseDirectory casing limits n readable entries path s =
          if n = 0 then .error .recursion
          else if readable then
            absorb casing limits frames (Node.inside casing path (level + 1) (.directory true entries)) s
          else .ok { s with inaccessibleEntries := s.inaccessibleEntries + 1 })
    (path : PyStr) (entries : List (Name × Node)) {s : ScanState} (hs : s.truncated = false) :
    scanEntries casing limits (traverseDirectory casing limits n) path entries s =
      absorb casing limits frames ((listing casing path level entries).flatMap Prod.snd) s := by
  induction entries generalizing s with
  | nil => rfl
  | cons e rest ih =>
    obtain ⟨name, node⟩ := e
    have hhidden : (name.text.head? = some dot) = (name.hidden = true) := by simp [Name.hidden]
    have hpath : joinRelativePath path name ≠ [] := by
      have hname := name.nonempty
      unfold joinRelativePath
      split <;> simp [hname]
    rw [scanEntries, listing, List.flatMap_cons, List.cons_append, absorb]
    by_cases hbudget : limits.maxEntries ≤ s.entriesSeen
    · rw [if_pos hbudget, if_pos hbudget]
    · rw [if_neg hbudget, if_neg hbudget]
      simp only [hhidden]
      by_cases hname : name.hidden = true
      · simp only [hname, if_true, whatOf, ScanState.step, List.nil_append, bind, Except.bind]
        exact ih hs
      · simp only [hname, Bool.false_eq_true, if_false, whatOf, ScanState.step]
        cases node with
        | fails => exact ih hs
        | symlink => exact ih hs
        | other => exact ih hs
        | file size =>
          simp only [Node.inside, List.nil_append, bind, Except.bind]
          cases hfile : ScanState.visitFile casing limits
            { s with entriesSeen := s.entriesSeen + 1 } path name size with
          | error e => rfl
          | ok s' =>
            have hsame := visitFile_truncated hfile
            exact ih (hsame.trans hs)
        | directory readable inner =>
          have hcall := henter readable inner (joinRelativePath path name)
            { s with
              entriesSeen := s.entriesSeen + 1
              directoriesSeen := s.directoriesSeen + 1 } hpath hs
          simp only [hcall]
          by_cases hn : n = 0
          · simp [hn, show frames < level by omega, bind, Except.bind]
          · simp only [if_neg hn, if_neg (show ¬frames < level by omega)]
            cases readable with
            | false =>
              simp only [Bool.false_eq_true, if_false, Node.inside, List.nil_append, bind,
                Except.bind, hs]
              exact ih rfl
            | true =>
              have hgo (t : ScanState) (ht : t.truncated = false) :
                  (absorb casing limits frames (Node.inside casing (joinRelativePath path name)
                    (level + 1) (.directory true inner)) t).bind (fun t =>
                      if t.truncated then .ok t
                      else scanEntries casing limits (traverseDirectory casing limits n) path rest t) =
                    absorb casing limits frames (Node.inside casing (joinRelativePath path name)
                      (level + 1) (.directory true inner) ++
                        (listing casing path level rest).flatMap Prod.snd) t := by
                rw [absorb_append ht]
                congr 1
                funext t
                cases hmore : t.truncated with
                | true => rfl
                | false => simpa [hmore] using ih hmore
              exact hgo _ hs

/-- A call for a directory below the root takes up what is visited inside it. -/
theorem traverse_absorb (n : Nat) {level : Nat} (hlevel : n + level = frames + 1)
    (readable : Bool) (entries : List (Name × Node)) (path : PyStr) (s : ScanState)
    (hpath : path ≠ []) (hs : s.truncated = false) :
    traverseDirectory casing limits n readable entries path s =
      if n = 0 then .error .recursion
      else if readable then
        absorb casing limits frames (Node.inside casing path (level + 1) (.directory true entries)) s
      else .ok { s with inaccessibleEntries := s.inaccessibleEntries + 1 } := by
  induction n generalizing level readable entries path s with
  | zero => rfl
  | succ n ih =>
    rw [traverseDirectory, if_neg (Nat.succ_ne_zero n), if_neg hpath]
    cases readable with
    | false => rfl
    | true =>
      rw [if_pos rfl, if_pos rfl, Node.inside, sorted_listing]
      exact scan_absorb (by omega) (fun readable entries path s hpath hs =>
        ih (by omega) readable entries path s hpath hs) path (sorted casing entries) hs

/-- The whole traversal takes up the walk. -/
theorem traverse_root (entries : List (Name × Node)) :
    traverseDirectory casing limits (frames + 1) true entries [] .empty =
      absorb casing limits frames (walk casing entries) .empty := by
  rw [traverseDirectory, if_pos rfl, walk, sorted_listing]
  exact scan_absorb rfl (fun readable entries path s hpath hs =>
    traverse_absorb frames rfl readable entries path s hpath hs) [] (sorted casing entries) rfl

end Traversing

section Clean
variable {casing : Casing}

/-- A relative path whose parts could be names that are not hidden. -/
def Clean (path : PyStr) : Prop := ∀ part ∈ pathParts path, part ≠ [] ∧ part.head? ≠ some dot

theorem clean_join {parent : PyStr} {name : Name} (h : parent = [] ∨ Clean parent)
    (hname : name.hidden = false) : Clean (joinRelativePath parent name) := by
  have hparts : pathParts name.text = [name.text] := List.splitOn_eq_singleton name.no_slash
  have hproper : name.text ≠ [] ∧ name.text.head? ≠ some dot :=
    ⟨name.nonempty, by simpa [Name.hidden] using hname⟩
  unfold joinRelativePath
  split
  · simpa [Clean, hparts] using hproper
  · rename_i hparent
    have hjoin : pathParts (parent ++ slash :: name.text) = pathParts parent ++ [name.text] := by
      rw [pathParts, List.splitOn_append_cons_self, ← pathParts, ← pathParts, hparts]
    intro part hpart
    rw [hjoin, List.mem_append, List.mem_singleton] at hpart
    obtain hpart | rfl := hpart
    · exact h.resolve_left hparent part hpart
    · exact hproper

theorem join_head {parent : PyStr} {name : Name} (h : parent = [] ∨ Clean parent) :
    (joinRelativePath parent name).head? ≠ some slash := by
  unfold joinRelativePath
  split
  · intro hhead
    exact name.no_slash (List.mem_of_head? hhead)
  · rename_i hparent
    have hclean := h.resolve_left hparent
    cases parent with
    | nil => exact absurd rfl hparent
    | cons c rest =>
      intro hhead
      obtain rfl : c = slash := by simpa using hhead
      have hfirst := hclean [] (by simp [pathParts, List.splitOn_cons_eq_if_modifyHead])
      exact hfirst.1 rfl

/-- What the walk passes on with every visit. -/
def Visit.Sound (v : Visit) : Prop :=
  (v.parent = [] ∨ Clean v.parent) ∧ (v.name.hidden = true → v.what = .hidden)

mutual

theorem inside_sound : ∀ (node : Node) {path : PyStr} (level : Nat), Clean path →
    ∀ v ∈ node.inside casing path level, v.Sound
  | .directory true entries, path, level, hpath => by
    intro v hv
    rw [Node.inside] at hv
    obtain ⟨e, he, hv⟩ := List.mem_flatMap.mp hv
    exact listing_sound entries level (.inr hpath) e ((List.mem_insertionSort _).mp he) v hv
  | .directory false entries, path, level, _ => by simp [Node.inside]
  | .fails, path, level, _ => by simp [Node.inside]
  | .symlink, path, level, _ => by simp [Node.inside]
  | .file size, path, level, _ => by simp [Node.inside]
  | .other, path, level, _ => by simp [Node.inside]

theorem listing_sound : ∀ (entries : List (Name × Node)) {path : PyStr} (level : Nat),
    path = [] ∨ Clean path → ∀ e ∈ listing casing path level entries, ∀ v ∈ e.2, v.Sound
  | [], path, level, _ => by simp [listing]
  | (name, node) :: rest, path, level, hpath => by
    intro e he v hv
    rw [listing, List.mem_cons] at he
    obtain rfl | he := he
    · obtain rfl | hv := List.mem_cons.mp hv
      · exact ⟨hpath, fun hhidden => by simp [whatOf, hhidden]⟩
      · cases hhidden : name.hidden with
        | true => simp [hhidden] at hv
        | false =>
          rw [hhidden] at hv
          exact inside_sound node (level + 1) (clean_join hpath hhidden) v hv
    · exact listing_sound rest level hpath e he v hv

end

theorem walk_sound (entries : List (Name × Node)) : ∀ v ∈ walk casing entries, v.Sound := by
  intro v hv
  obtain ⟨e, he, hv⟩ := List.mem_flatMap.mp hv
  exact listing_sound entries 1 (.inl rfl) e ((List.mem_insertionSort _).mp he) v hv

/-- The check the scanner makes itself refuses no path of the walk. -/
theorem output_valid {path : PyStr} (hhead : path.head? ≠ some slash) (h : Clean path) :
    validateOutputRelativePath path = .ok () := by
  rw [validateOutputRelativePath, if_neg]
  rintro (hslash | hdots)
  · exact hhead hslash
  · obtain ⟨part, hpart, hdot⟩ := List.any_eq_true.mp hdots
    have hproper := h part (List.mem_of_mem_filter hpart)
    obtain rfl : part = [dot, dot] := by simpa using hdot
    exact hproper.2 rfl

/-- The check of the result type refuses exactly the paths with a backslash. -/
theorem relative_valid {path : PyStr} (hhead : path.head? ≠ some slash) (h : Clean path)
    (hne : path ≠ []) : validateRelativePath path =
      if backslash ∈ path then .error .invalidCandidate else .ok () := by
  have hparts : ((pathParts path).any fun part =>
      part = [dot] ∨ part = [dot, dot] ∨ part = []) = false := by
    rw [List.any_eq_false]
    intro part hpart
    have hproper := h part hpart
    simp only [decide_eq_true_eq]
    rintro (rfl | rfl | rfl)
    · exact hproper.2 rfl
    · exact hproper.2 rfl
    · exact hproper.1 rfl
  rw [validateRelativePath, if_neg hne, hparts]
  simp [hhead]

theorem supported_extensions : ∀ e ∈ videoExtensions ++ gifExtensions ++ imageExtensions,
    (∀ c ∈ e.toList, c.toNat < 128) ∧ e.toList.map Char.toLower = e.toList ∧
      e.toList.head? = some '.' := by
  simp only [← List.forall_iff_forall_mem]
  decide +kernel

/-- The extension of a supported file passes the check of the result type. -/
theorem extension_valid (casing : Casing) {extension : PyStr} {kind : CandidateKind}
    (h : classifyCandidateExtension extension = some kind) :
    validateExtension casing extension = .ok () ∧ extension ≠ [] := by
  have hmem : ∃ e ∈ videoExtensions ++ gifExtensions ++ imageExtensions,
      PyStr.ofString e = extension := by
    unfold classifyCandidateExtension at h
    simp only [List.mem_append]
    split at h
    · rename_i hvideo
      obtain ⟨e, he, heq⟩ := List.mem_map.mp hvideo
      exact ⟨e, .inl (.inl he), heq⟩
    · split at h
      · rename_i hgif
        obtain ⟨e, he, heq⟩ := List.mem_map.mp hgif
        exact ⟨e, .inl (.inr he), heq⟩
      · split at h
        · rename_i himage
          obtain ⟨e, he, heq⟩ := List.mem_map.mp himage
          exact ⟨e, .inr he, heq⟩
        · cases h
  obtain ⟨e, he, rfl⟩ := hmem
  obtain ⟨hascii, hsame, hdot⟩ := supported_extensions e he
  have hlower : casing.lower (PyStr.ofString e) = PyStr.ofString e := by
    rw [PyStr.ofString, casing.lower_ascii _ hascii, hsame]
  have hhead : (PyStr.ofString e).head? = some dot := by
    simp [PyStr.ofString, PyStr.ofChars, hdot, dot]
  refine ⟨?_, fun hnil => by simp [hnil] at hhead⟩
  rw [validateExtension, hlower, if_neg]
  simp [hhead]

end Clean

section Counting
variable {casing : Casing} {limits : ScanLimits} {frames : Nat} {s : ScanState} {v : Visit}

/-- Counting what is seen can be done in two parts. -/
theorem after_append {m : Nat} (h : s.candidates.length ≤ m) (front back : List Visit) :
    (s.after casing m front).after casing m back = s.after casing m (front ++ back) := by
  simp only [ScanState.after, List.length_append, List.countP_append, List.filterMap_append,
    List.map_append, List.sum_append, List.length_take, List.append_assoc, List.take_append,
    ScanState.mk.injEq, Nat.add_assoc, true_and]
  constructor
  · cases s.candidatesTruncated with
    | true => rfl
    | false =>
      simp only [Bool.false_or, ← Bool.decide_or, decide_eq_decide]
      omega
  · have hroom : m - (s.candidates.length + min (m - s.candidates.length)
        (front.filterMap (Visit.candidate? casing)).length) =
          m - s.candidates.length - (front.filterMap (Visit.candidate? casing)).length := by
      omega
    rw [hroom]

theorem after_nil {m : Nat} (h : s.candidates.length ≤ m) : s.after casing m [] = s := by
  simp [ScanState.after, show ¬m < s.candidates.length by omega]

/-- The entry can be counted: a directory is not nested too deep, and the path of a supported file
has no backslash if the file is still to be returned. -/
def Visit.Countable (casing : Casing) (limits : ScanLimits) (frames : Nat) (s : ScanState)
    (v : Visit) : Prop :=
  (v.isDirectory = true → v.level ≤ frames) ∧
    ∀ c, v.candidate? casing = some c → s.candidates.length < limits.maxCandidates →
      backslash ∉ c.relativePath

theorem step_after (frames : Nat) (hv : v.Sound) (hs : s.candidates.length ≤ limits.maxCandidates) :
    (v.Countable casing limits frames s →
      s.step casing limits frames v = .ok (s.after casing limits.maxCandidates [v])) ∧
    (¬v.Countable casing limits frames s →
      ∃ e, s.step casing limits frames v = .error e ∧ e ≠ .unavailable) := by
  have hroom : ¬limits.maxCandidates < s.candidates.length := by omega
  unfold ScanState.step Visit.Countable
  cases hwhat : v.what with
  | hidden | fails | symlink | other =>
    simp [ScanState.after, Visit.candidate?, Visit.isDirectory, Visit.isFile, Visit.inaccessible,
      hwhat, hroom]
  | directory readable =>
    by_cases hdeep : frames < v.level
    · simp [Visit.isDirectory, hwhat, hdeep]
    · cases readable <;>
        simp [ScanState.after, Visit.candidate?, Visit.isDirectory, Visit.isFile,
          Visit.inaccessible, hwhat, hroom, hdeep, show v.level ≤ frames by omega]
  | file size =>
    have hname : v.name.hidden = false := by
      by_contra hhidden
      have hskipped := hv.2 (by simpa using hhidden)
      rw [hwhat] at hskipped
      cases hskipped
    have hclean : Clean v.path := clean_join hv.1 hname
    have hhead : v.path.head? ≠ some slash := join_head hv.1
    have hne : v.path ≠ [] := by
      have hnonempty := v.name.nonempty
      unfold Visit.path joinRelativePath
      split <;> simp [hnonempty]
    have houtput := output_valid hhead hclean
    have hrelative := relative_valid hhead hclean hne
    cases size with
    | none =>
      simp [ScanState.visitFile, ScanState.after, Visit.candidate?, Visit.isDirectory,
        Visit.isFile, Visit.inaccessible, hwhat, hroom]
    | some sizeBytes =>
      have hcandidate : v.candidate? casing =
          (classifyCandidateExtension (v.extension casing)).map fun kind =>
            ⟨v.path, kind, v.extension casing, sizeBytes⟩ := by
        simp [Visit.candidate?, hwhat]
      have hplain : v.isDirectory = false ∧ v.isFile = true ∧ v.inaccessible = false := by
        simp [Visit.isDirectory, Visit.isFile, Visit.inaccessible, hwhat]
      obtain ⟨hdirectory, hfile, haccessible⟩ := hplain
      have hsuffix : casing.lower (suffix v.name.text) = v.extension casing := rfl
      have hjoin : joinRelativePath v.parent v.name = v.path := rfl
      simp only [ScanState.visitFile, hcandidate, hdirectory, hsuffix, hjoin, houtput, bind,
        Except.bind, ScanState.recordCandidate]
      cases hkind : classifyCandidateExtension (v.extension casing) with
      | none => simp [ScanState.after, hcandidate, hkind, hdirectory, hfile, haccessible, hwhat, hroom]
      | some kind =>
        obtain ⟨hextension, hsome⟩ := extension_valid casing hkind
        by_cases hfull : s.candidates.length < limits.maxCandidates
        · by_cases hback : backslash ∈ v.path
          · simp [hsome, hfull, hback, libraryScanCandidate, hrelative, bind, Except.bind]
          · have hmore : ¬limits.maxCandidates < s.candidates.length + 1 := by omega
            have htake : List.take (limits.maxCandidates - s.candidates.length)
                [(⟨v.path, kind, v.extension casing, sizeBytes⟩ : Candidate)] =
                  [⟨v.path, kind, v.extension casing, sizeBytes⟩] :=
              List.take_of_length_le (by simp; omega)
            simp [ScanState.after, hsome, hfull, hback, libraryScanCandidate, hrelative, hextension,
              bind, Except.bind, hcandidate, hkind, hdirectory, hfile, haccessible, hwhat, hmore, htake,
              pure, Except.pure]
        · have hmore : limits.maxCandidates < s.candidates.length + 1 := by omega
          have htake : limits.maxCandidates - s.candidates.length = 0 := by omega
          simp [ScanState.after, hsome, hfull, hcandidate, hkind, hdirectory, hfile, haccessible,
            hwhat, hmore, htake]

/-- What is seen can be counted from a state on: no directory is nested too deep, and no supported
file that is still to be returned has a backslash in its path. -/
def Seeable (casing : Casing) (limits : ScanLimits) (frames : Nat) (s : ScanState)
    (seen : List Visit) : Prop :=
  (∀ v ∈ seen, v.isDirectory = true → v.level ≤ frames) ∧
    ∀ c ∈ (seen.filterMap (Visit.candidate? casing)).take
      (limits.maxCandidates - s.candidates.length), backslash ∉ c.relativePath

theorem seeable_cons {rest : List Visit} (hs : s.candidates.length ≤ limits.maxCandidates) :
    Seeable casing limits frames s (v :: rest) ↔ v.Countable casing limits frames s ∧
      Seeable casing limits frames (s.after casing limits.maxCandidates [v]) rest := by
  unfold Seeable Visit.Countable
  cases hcandidate : v.candidate? casing with
  | none =>
    simp only [List.forall_mem_cons, List.filterMap_cons, hcandidate, ScanState.after,
      List.filterMap_nil, List.take_nil, List.append_nil]
    grind
  | some c =>
    by_cases hfull : s.candidates.length < limits.maxCandidates
    · obtain ⟨k, hk⟩ : ∃ k, limits.maxCandidates - s.candidates.length = k + 1 :=
        ⟨limits.maxCandidates - s.candidates.length - 1, by omega⟩
      have hk' : limits.maxCandidates - (s.candidates.length + 1) = k := by omega
      simp only [List.forall_mem_cons, List.filterMap_cons, hcandidate, ScanState.after,
        List.filterMap_nil, hk, List.take_succ_cons, List.take_nil, List.length_append,
        List.length_singleton, hk']
      grind
    · have hk : limits.maxCandidates - s.candidates.length = 0 := by omega
      simp only [List.forall_mem_cons, List.filterMap_cons, hcandidate, ScanState.after,
        List.filterMap_nil, hk, List.take_zero, List.append_nil]
      grind

/-- The visits from a state on: what is seen of them is counted, or the scan fails. -/
theorem absorb_after (frames : Nat) {l : List Visit} (hl : ∀ v ∈ l, v.Sound)
    (hs : s.candidates.length ≤ limits.maxCandidates) (hopen : s.truncated = false)
    (hseen : s.entriesSeen ≤ limits.maxEntries) :
    (Seeable casing limits frames s (l.take (limits.maxEntries - s.entriesSeen)) →
      absorb casing limits frames l s =
        .ok { s.after casing limits.maxCandidates (l.take (limits.maxEntries - s.entriesSeen)) with
          truncated := limits.maxEntries - s.entriesSeen < l.length }) ∧
    (¬Seeable casing limits frames s (l.take (limits.maxEntries - s.entriesSeen)) →
      ∃ e, absorb casing limits frames l s = .error e ∧ e ≠ .unavailable) := by
  induction l generalizing s with
  | nil =>
    have hsame : ({ s with truncated := false } : ScanState) = s := by rw [← hopen]
    simp [absorb, after_nil hs, Seeable, hsame]
  | cons v rest ih =>
    rw [absorb]
    by_cases hbudget : limits.maxEntries ≤ s.entriesSeen
    · have hroom : limits.maxEntries - s.entriesSeen = 0 := by omega
      simp [hroom, hbudget, after_nil hs, Seeable]
    · obtain ⟨k, hk⟩ : ∃ k, limits.maxEntries - s.entriesSeen = k + 1 :=
        ⟨limits.maxEntries - s.entriesSeen - 1, by omega⟩
      rw [if_neg hbudget, hk, List.take_succ_cons, seeable_cons hs]
      obtain ⟨hgood, hbad⟩ := step_after frames (hl v List.mem_cons_self) hs
      by_cases hcount : v.Countable casing limits frames s
      · have hk' : limits.maxEntries - (s.after casing limits.maxCandidates [v]).entriesSeen = k := by
          simp only [ScanState.after, List.length_singleton]
          omega
        have hlength : (s.after casing limits.maxCandidates [v]).candidates.length ≤
            limits.maxCandidates := by
          simp only [ScanState.after, List.length_append, List.length_take]
          omega
        have hrest := ih (fun w hw => hl w (List.mem_cons_of_mem v hw)) hlength
          (by simpa [ScanState.after] using hopen)
          (by simp only [ScanState.after, List.length_singleton]; omega)
        rw [hk', after_append hs] at hrest
        have hstep := hgood hcount
        simp only [bind, Except.bind, hcount, true_and, List.length_cons, Nat.add_lt_add_iff_right]
        rw [hstep]
        exact hrest
      · obtain ⟨e, hstep, hne⟩ := hbad hcount
        refine ⟨fun hboth => absurd hboth.1 hcount, fun _ => ⟨e, ?_, hne⟩⟩
        simp [hstep, bind, Except.bind]

end Counting

section Previewing
variable {casing : Casing} {limits : ScanLimits} {frames : Nat}

/-- The first entries of the walk are ones the scan gets through: it enters no directory nested
deeper than its calls can be, and no file it returns has a backslash in its path. -/
def Scannable (casing : Casing) (limits : ScanLimits) (frames : Nat)
    (entries : List (Name × Node)) : Prop :=
  let seen := (walk casing entries).take limits.maxEntries
  (∀ v ∈ seen, v.isDirectory = true → v.level ≤ frames) ∧
    ∀ c ∈ (seen.filterMap (Visit.candidate? casing)).take limits.maxCandidates,
      backslash ∉ c.relativePath

/-- The preview of a directory that can be listed is the report of its walk, or the scan fails. -/
theorem preview_eq (casing : Casing) (limits : ScanLimits) (frames : Nat)
    (entries : List (Name × Node)) :
    (Scannable casing limits frames entries →
      preview casing limits frames ⟨true, some true, some true, true, entries⟩ =
        .ok (report casing limits entries)) ∧
    (¬Scannable casing limits frames entries →
      preview casing limits frames ⟨true, some true, some true, true, entries⟩ =
        .error .failed) := by
  have hsound : ∀ v ∈ walk casing entries, v.Sound := walk_sound entries
  have hempty : ScanState.empty.candidates.length ≤ limits.maxCandidates := Nat.zero_le _
  obtain ⟨hgood, hbad⟩ := absorb_after frames hsound hempty rfl (Nat.zero_le _)
  constructor
  · intro h
    have hscan := hgood h
    simp only [preview, traverse_root, hscan, report]
    rfl
  · intro h
    obtain ⟨e, hscan, hne⟩ := hbad h
    cases e <;> simp_all [preview, traverse_root]

/-- The entries of a directory are put in the order of their keys, and none is lost or added. -/
theorem sorted_ordered {α : Type} (entries : List (Name × α)) :
    (sorted casing entries).Perm entries ∧ (sorted casing entries).Pairwise fun a b =>
      entrySortKey casing a.1 ≤ entrySortKey casing b.1 := by
  let r : Name × α → Name × α → Prop := fun a b => entrySortKey casing a.1 ≤ entrySortKey casing b.1
  exact ⟨List.perm_insertionSort _ entries, List.pairwise_insertionSort r entries⟩

/-- A root that can be listed is previewed as the report of its walk if, and only if, the first
entries of the walk are ones the scan gets through; otherwise the whole preview fails. -/
theorem preview_iff (casing : Casing) (limits : ScanLimits) (frames : Nat)
    (entries : List (Name × Node)) :
    let root : Root := ⟨true, some true, some true, true, entries⟩
    (preview casing limits frames root = .ok (report casing limits entries) ↔
      Scannable casing limits frames entries) ∧
    (preview casing limits frames root = .error .failed ↔
      ¬Scannable casing limits frames entries) ∧
    ∀ inner : List (Name × List Visit), (sorted casing inner).Perm inner ∧
      (sorted casing inner).Pairwise fun a b => entrySortKey casing a.1 ≤ entrySortKey casing b.1 := by
  obtain ⟨hgood, hbad⟩ := preview_eq casing limits frames entries
  refine ⟨⟨fun hok => ?_, hgood⟩, ⟨fun herror hscan => ?_, hbad⟩, sorted_ordered⟩
  · by_contra hscan
    rw [hbad hscan] at hok
    cases hok
  · rw [hgood hscan] at herror
    cases herror

/-- Case folding and lowering of ASCII texts. -/
def asciiCasing : Casing where
  casefold s := s.map fun | .char c => .char c.toLower | c => c
  lower s := s.map fun | .char c => .char c.toLower | c => c
  lower_ascii l _ := by simp [PyStr.ofChars]

def oneEntry : ScanLimits := ⟨1, 1, by decide, by decide⟩

/-- A backslash is a character like any other in the name of a file. -/
def backslashName : Name :=
  ⟨PyStr.ofString "a\\b.mp4", by decide, by decide, by decide⟩

/-- A library of one supported file whose name has a backslash has no preview. -/
theorem backslash_fails_preview :
    preview asciiCasing oneEntry 900 ⟨true, some true, some true, true,
      [(backslashName, .file (some 1))]⟩ = .error .failed ∧
    (report asciiCasing oneEntry [(backslashName, .file (some 1))]).candidates =
      [⟨PyStr.ofString "a\\b.mp4", .video, PyStr.ofString ".mp4", 1⟩] := by
  constructor <;> decide +kernel

end Previewing
end FrameNest.Library
