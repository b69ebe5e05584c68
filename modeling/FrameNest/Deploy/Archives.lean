import FrameNest.Deploy.Paths
import FrameNest.Files.Tree
import FrameNest.Text.CodePoints

/-! Release archives: which members are refused, and what extracting the others writes where. -/
namespace FrameNest.Archives
open PyStr FileTree

abbrev Bytes := List UInt8

inductive Kind where
  | regular (data : Bytes)
  | directory
  | symlink (linkname : PyStr)
  | hardlink (linkname : PyStr)
  | device

structure Member where
  name : PyStr
  kind : Kind

/- `member.linkname if (member.issym() or member.islnk()) else None`. -/
def Member.linkname (m : Member) : Option PyStr :=
  match m.kind with
  | .symlink linkname | .hardlink linkname => some linkname
  | _ => none

def Member.isdev (m : Member) : Bool := m.kind matches .device

structure ReleaseError where
  message : String
  exitCode : Nat
deriving DecidableEq

section Validation

def slash : CodePoint := .char '/'
def dot : PyStr := ofString "."
def dotdot : PyStr := ofString ".."

def unsafeMember : ReleaseError := ⟨"unsafe archive member", 8⟩

/- `Path(rel).parts` leaves out empty parts and `.`. -/
def pathParts (rel : PyStr) : List PyStr :=
  (rel.splitOn slash).filter fun part => part ≠ [] && part ≠ dot

def partsUnsafe (rel : PyStr) : Bool := (pathParts rel).any fun part => part = dotdot

def validateArchiveMember (name : PyStr) (linkname : Option PyStr) (isdev : Bool) :
    Except ReleaseError Unit :=
  let unsafeText (text : PyStr) : Bool :=
    text.head? = some slash || text.contains (.char '\x00') || text.contains (.char '\\')
  if name = [] || unsafeText name then .error unsafeMember
  else if partsUnsafe name then .error unsafeMember
  else if isdev then .error unsafeMember
  else
    match linkname with
    | some linkname =>
      if unsafeText linkname || partsUnsafe linkname then .error unsafeMember else .ok ()
    | none => .ok ()

def Member.validate (m : Member) : Except ReleaseError Unit :=
  validateArchiveMember m.name m.linkname m.isdev

end Validation

section Paths

/- One part of a path as the kernel sees it; empty parts are nothing. -/
def stepOf (part : PyStr) : Option (Step PyStr) :=
  if part = [] then none
  else if part = dot then some .stay
  else if part = dotdot then some .up
  else some (.name part)

def routeOf (text : PyStr) : Route PyStr :=
  ⟨text.head? = some slash, (text.splitOn slash).filterMap stepOf⟩

/- `os.path.dirname`. -/
def dirname (path : PyStr) : PyStr :=
  let head := (path.reverse.dropWhile fun c => c ≠ slash).reverse
  if head.all fun c => c = slash then head
  else (head.reverse.dropWhile fun c => c = slash).reverse

/- The loop of `os.path.normpath`. -/
def normParts (rooted : Bool) : List PyStr → List PyStr → List PyStr
  | done, [] => done
  | done, part :: rest =>
    if part = [] || part = dot then normParts rooted done rest
    else if part ≠ dotdot || (!rooted && done = []) || done.getLast? = some dotdot then
      normParts rooted (done ++ [part]) rest
    else normParts rooted done.dropLast rest

/- `os.path.normpath`; exactly two slashes at the start are kept. -/
def normpath (path : PyStr) : PyStr :=
  let slashes := (path.takeWhile fun c => c = slash).length
  let start := List.replicate (if slashes = 2 then 2 else min slashes 1) slash
  let joined := start ++
    List.intercalate [slash] (normParts (0 < slashes) [] (path.splitOn slash))
  if joined = [] then dot else joined

/- `_getmember(name, tarinfo=limit, normalize=True)`: the last such member before the limit. -/
def getMember (members : List Member) (limit : Nat) (name : PyStr) : Option (Member × Nat) :=
  (members.take limit).zipIdx.reverse.find? fun e => normpath name = normpath e.1.name

/- `_find_link_target` for the member at a position. -/
def findLinkTarget (members : List Member) (position : Nat) (m : Member) : Option (Member × Nat) :=
  match m.kind with
  | .symlink linkname =>
    getMember members members.length
      (List.intercalate [slash] ([dirname m.name, linkname].filter fun part => part ≠ []))
  | .hardlink linkname => getMember members position linkname
  | _ => none

end Paths

/-- The file system, and the places that were written to. -/
structure Disk where
  tree : Tree PyStr Bytes
  written : List (Place PyStr)

/-- What ends an extraction: an `OSError`, an `ExtractError` (which is passed by), another error of
`tarfile`, or anything else. -/
inductive Fault where
  | os
  | extract
  | tar
  | other
deriving DecidableEq

structure Outcome where
  disk : Disk
  fault : Option Fault

def Outcome.andThen (r : Outcome) (next : Disk → Outcome) : Outcome :=
  match r.fault with
  | none => next r.disk
  | some _ => r

/- `except symlink_exception`, which an `OSError` is. -/
def Outcome.orElse (r : Outcome) (handler : Disk → Outcome) : Outcome :=
  match r.fault with
  | some .os => handler r.disk
  | _ => r

section Extraction
variable (links : Nat) (base : Place PyStr)

/- Where `os.path.join(path, name)` starts. -/
def origin (r : Route PyStr) : Place PyStr := if r.absolute then [] else base

/- `os.path.exists`. -/
def exist (r : Route PyStr) (disk : Disk) : Bool :=
  match walk disk.tree links (origin base r) r.steps with
  | some p => (disk.tree.node p).isSome
  | none => false

/- `os.path.isdir`. -/
def isDir (r : Route PyStr) (disk : Disk) : Bool :=
  match walk disk.tree links (origin base r) r.steps with
  | some p => (disk.tree.node p matches some .dir)
  | none => false

/- A new name for a node that is none of a file. -/
def place (r : Route PyStr) (n : Node PyStr) (hn : ∀ i, n ≠ .file i) (disk : Disk) : Outcome :=
  match entry disk.tree links (origin base r) r.steps with
  | none => ⟨disk, some .os⟩
  | some p =>
    if (disk.tree.node p).isNone then
      ⟨⟨disk.tree.put p (some n) (fun i h => absurd (Option.some.inj h) (hn i)),
        p :: disk.written⟩, none⟩
    else ⟨disk, some .os⟩

/- `os.mkdir`. -/
def mkdir (r : Route PyStr) (disk : Disk) : Outcome :=
  place links base r .dir (fun _ => nofun) disk

/- `os.symlink`. -/
def symlink (linkname : PyStr) (r : Route PyStr) (disk : Disk) : Outcome :=
  if linkname = [] then ⟨disk, some .os⟩
  else place links base r (.link (routeOf linkname)) (fun _ => nofun) disk

/- `os.unlink`. -/
def unlink (r : Route PyStr) (disk : Disk) : Outcome :=
  match entry disk.tree links (origin base r) r.steps with
  | none => ⟨disk, some .os⟩
  | some p =>
    match disk.tree.node p with
    | none | some .dir => ⟨disk, some .os⟩
    | some _ => ⟨⟨disk.tree.put p none nofun, p :: disk.written⟩, none⟩

/- `os.path.lexists`. -/
def lexist (r : Route PyStr) (disk : Disk) : Bool :=
  match entry disk.tree links (origin base r) r.steps with
  | some p => (disk.tree.node p).isSome
  | none => false

/- `os.link`: a symbolic link is linked itself. -/
def link (source r : Route PyStr) (disk : Disk) : Outcome :=
  match entry disk.tree links (origin base source) source.steps,
    entry disk.tree links (origin base r) r.steps with
  | some p, some q =>
    match disk.tree.node p with
    | none | some .dir => ⟨disk, some .os⟩
    | some _ =>
      if (disk.tree.node q).isNone then
        ⟨⟨disk.tree.put q (disk.tree.node p) (disk.tree.numbered p), q :: disk.written⟩, none⟩
      else ⟨disk, some .os⟩
  | _, _ => ⟨disk, some .os⟩

/- `makefile`: what is opened is where the links lead. -/
def makefile (data : Bytes) (r : Route PyStr) (disk : Disk) : Outcome :=
  match walk disk.tree links (origin base r) r.steps with
  | none => ⟨disk, some .os⟩
  | some p =>
    match disk.tree.node p with
    | none => ⟨⟨disk.tree.create p data, p :: disk.written⟩, none⟩
    | some (.file i) => ⟨⟨disk.tree.write i data, p :: disk.written⟩, none⟩
    | some _ => ⟨disk, some .os⟩

/- `makedir`. -/
def makedir (r : Route PyStr) (disk : Disk) : Outcome :=
  let made := mkdir links base r disk
  match made.fault with
  | none => made
  | some _ => if isDir links base r disk then ⟨disk, none⟩ else ⟨disk, some .os⟩

/- `os.makedirs` of what is missing on the way, the directories above first. -/
def makedirs (absolute : Bool) : List (Step PyStr) → List (Step PyStr) → Disk → Outcome
  | _, [], disk => ⟨disk, none⟩
  | done, step :: rest, disk =>
    let here : Route PyStr := ⟨absolute, done ++ [step]⟩
    (if exist links base here disk then ⟨disk, none⟩ else mkdir links base here disk : Outcome).andThen
      (makedirs absolute (done ++ [step]) rest)

/- `chown`, `chmod` and `utime`, which follow links. -/
def setAttributes (m : Member) (r : Route PyStr) (disk : Disk) : Outcome :=
  if m.kind matches .symlink _ then ⟨disk, none⟩
  else
    match walk disk.tree links (origin base r) r.steps with
    | some p => ⟨⟨disk.tree, p :: disk.written⟩, none⟩
    | none => ⟨disk, some .extract⟩

/- Whether an older name is removed for a hard link, as later versions do. -/
variable (replacing : Bool) (members : List Member)

/- `makelink` for a hard link, when what it links to is there. -/
def makeHardlink (linkname : PyStr) (r : Route PyStr) (disk : Disk) : Outcome :=
  (if replacing && lexist links base r disk then unlink links base r disk
    else ⟨disk, none⟩ : Outcome).andThen (link links base (routeOf linkname) r)

/- `makelink` for a symbolic link. -/
def makeSymlink (linkname : PyStr) (r : Route PyStr) (disk : Disk) : Outcome :=
  (if lexist links base r disk then unlink links base r disk else ⟨disk, none⟩ : Outcome).andThen
    (symlink links base linkname r)

/- `_extract_member`; `again` extracts the member a link refers to instead of it. -/
def extractWith (again : Member × Nat → Disk → Outcome) (position : Nat) (m : Member)
    (r : Route PyStr) (disk : Disk) : Outcome :=
  let referenced (missing : Fault) (disk : Disk) : Outcome :=
    match findLinkTarget members position m with
    | some other => again other disk
    | none => ⟨disk, some missing⟩
  ((makedirs links base r.absolute [] r.steps.dropLast disk).andThen fun disk =>
    match m.kind with
    | .regular data => makefile links base data r disk
    | .directory => makedir links base r disk
    | .symlink linkname => (makeSymlink links base linkname r disk).orElse (referenced .extract)
    | .hardlink linkname =>
      (if exist links base (routeOf linkname) disk then
        makeHardlink links base replacing linkname r disk
      else referenced .other disk).orElse (referenced .extract)
    | .device => ⟨disk, some .other⟩).andThen (setAttributes links base m r)

/- `fuel` is how deep Python can go. -/
def extractMember : Nat → Route PyStr → Member × Nat → Disk → Outcome
  | 0, r, m, disk =>
    extractWith links base replacing members (fun _ disk => ⟨disk, some .other⟩) m.2 m.1 r disk
  | fuel + 1, r, m, disk =>
    extractWith links base replacing members (extractMember fuel r) m.2 m.1 r disk

/- What a filter may do to a member of a release archive. -/
def Member.normalized (m : Member) : Member :=
  match m.kind with
  | .symlink linkname => { m with kind := .symlink (normpath linkname) }
  | .hardlink linkname => { m with kind := .hardlink (normpath linkname) }
  | _ => m

/-- The filter named `data`: it may refuse a member, and it may normalize where a link leads. -/
structure DataFilter where
  apply : Tree PyStr Bytes → Member → Option Member
  keeps : ∀ t m m', apply t m = some m' → m' = m ∨ m' = m.normalized

variable (fuel : Nat) (filter : DataFilter)

/- `archive.extract(member, path=destination, filter="data")`. -/
def extract (m : Member × Nat) (disk : Disk) : Outcome :=
  match filter.apply disk.tree m.1 with
  | none => ⟨disk, some .tar⟩
  | some filtered =>
    let r := extractMember links base replacing members fuel (routeOf filtered.name)
      (filtered, m.2) disk
    match r.fault with
    | some .extract => ⟨r.disk, none⟩
    | _ => r

def extractAll : List (Member × Nat) → Disk → Outcome
  | [], disk => ⟨disk, none⟩
  | m :: rest, disk =>
    (extract links base replacing members fuel filter m disk).andThen (extractAll rest)

/- `extract_validated_archive`: every member is looked at before the first is extracted. -/
def extractValidatedArchive (disk : Disk) : Disk × Except ReleaseError (Option Fault) :=
  match members.findSome? fun m => (match m.validate with
    | .ok _ => none
    | .error e => some e) with
  | some e => (disk, .error e)
  | none =>
    let r := extractAll links base replacing members fuel filter members.zipIdx disk
    (r.disk, .ok r.fault)

def remoteDeployDir : String := "/run/framenest-release-deploy"
def unsafePath : ReleaseError := ⟨"unsafe remote path", 20⟩
def extractionFailed : ReleaseError := ⟨"archive extraction failed", 8⟩

/- `validate_remote_path`. -/
def validateRemotePath (value : String) (roots : List String) : Bool :=
  Deploy.startsWith value "/" &&
    (Deploy.parts value).all (fun part => part ≠ ['.'] && part ≠ ['.', '.']) &&
    roots.any fun root => value = root || Deploy.startsWith value (root ++ "/")

/- `remote_extract`; `base` is what the destination leads to. -/
def remoteExtract (archive destination : String) (disk : Disk) :
    Disk × Except ReleaseError (Option Fault) :=
  if !validateRemotePath archive [remoteDeployDir, Deploy.releaseRoot] then
    (disk, .error unsafePath)
  else if !validateRemotePath destination [Deploy.releaseRoot] then (disk, .error unsafePath)
  else
    match extractValidatedArchive links base replacing members fuel filter disk with
    | (disk, .ok (some .tar)) => (disk, .error extractionFailed)
    | r => r

end Extraction

section Texts

theorem stepOf_up {part : PyStr} : stepOf part = some .up ↔ part = dotdot := by
  unfold stepOf
  constructor
  · intro h
    split at h
    · cases h
    · split at h
      · cases h
      · split at h
        · assumption
        · cases h
  · intro h
    subst h
    decide

theorem partsUnsafe_iff (text : PyStr) : partsUnsafe text = true ↔ dotdot ∈ text.splitOn slash := by
  have hdotdot : dotdot ≠ [] ∧ dotdot ≠ dot := by decide
  simp only [partsUnsafe, pathParts, List.any_eq_true, List.mem_filter, Bool.and_eq_true,
    decide_eq_true_eq]
  constructor
  · rintro ⟨part, ⟨hmem, -⟩, rfl⟩
    exact hmem
  · intro hmem
    exact ⟨dotdot, ⟨hmem, hdotdot⟩, rfl⟩

/-- A text that leads down is one without a slash at its start and without a part `..`. -/
theorem downward_iff (text : PyStr) :
    (routeOf text).Downward ↔ text.head? ≠ some slash ∧ dotdot ∉ text.splitOn slash := by
  have hup : Step.up ∈ (text.splitOn slash).filterMap stepOf ↔ dotdot ∈ text.splitOn slash := by
    rw [List.mem_filterMap]
    constructor
    · rintro ⟨part, hmem, hstep⟩
      rw [← stepOf_up.mp hstep]
      exact hmem
    · intro hmem
      exact ⟨dotdot, hmem, stepOf_up.mpr rfl⟩
  simp only [Route.Downward, routeOf, decide_eq_false_iff_not, hup, ne_eq]

/-- A member whose name and link lead down. -/
def Member.Safe (m : Member) : Prop :=
  (routeOf m.name).Downward ∧ ∀ linkname, m.linkname = some linkname → (routeOf linkname).Downward

theorem safe_of_validate {m : Member} (h : m.validate = .ok ()) : m.Safe := by
  unfold Member.validate validateArchiveMember at h
  simp only at h
  split at h
  · cases h
  · rename_i hname
    split at h
    · cases h
    · rename_i hparts
      split at h
      · cases h
      · simp only [Bool.or_eq_true, decide_eq_true_eq, not_or] at hname
        rw [partsUnsafe_iff] at hparts
        refine ⟨(downward_iff _).mpr ⟨hname.2.1.1, hparts⟩, ?_⟩
        intro linkname hlink
        rw [hlink] at h
        simp only at h
        split at h
        · cases h
        · rename_i hlinkname
          simp only [Bool.or_eq_true, decide_eq_true_eq, not_or] at hlinkname
          obtain ⟨hlinkname, hparts⟩ := hlinkname
          rw [partsUnsafe_iff] at hparts
          exact (downward_iff _).mpr ⟨hlinkname.1.1, hparts⟩

theorem normParts_mem (rooted : Bool) {parts done : List PyStr} {part : PyStr}
    (h : part ∈ normParts rooted done parts) : part ∈ done ∨ (part ∈ parts ∧ part ≠ []) := by
  induction parts generalizing done with
  | nil => exact Or.inl h
  | cons first rest ih =>
    rw [normParts] at h
    split at h
    · rcases ih h with hdone | ⟨hrest, hne⟩
      · exact Or.inl hdone
      · exact Or.inr ⟨List.mem_cons_of_mem _ hrest, hne⟩
    · rename_i hfirst
      simp only [Bool.or_eq_true, decide_eq_true_eq, not_or] at hfirst
      split at h
      · rcases ih h with hdone | ⟨hrest, hne⟩
        · rcases List.mem_append.mp hdone with hdone | hfirstMem
          · exact Or.inl hdone
          · rw [List.mem_singleton.mp hfirstMem]
            exact Or.inr ⟨List.mem_cons_self, hfirst.1⟩
        · exact Or.inr ⟨List.mem_cons_of_mem _ hrest, hne⟩
      · rcases ih h with hdone | ⟨hrest, hne⟩
        · exact Or.inl (List.mem_of_mem_dropLast hdone)
        · exact Or.inr ⟨List.mem_cons_of_mem _ hrest, hne⟩

/-- Normalizing keeps a path that leads down so. -/
theorem normpath_downward {text : PyStr} (h : (routeOf text).Downward) :
    (routeOf (normpath text)).Downward := by
  obtain ⟨hhead, hparts⟩ := (downward_iff text).mp h
  have hslashes : (text.takeWhile fun c => c = slash).length = 0 := by
    cases text with
    | nil => rfl
    | cons c rest =>
      have hc : ¬c = slash := fun heq => hhead (by rw [heq]; rfl)
      simp [hc]
  have hsplit : ∀ part ∈ normParts false [] (text.splitOn slash), slash ∉ part ∧ part ≠ [] ∧
      part ∈ text.splitOn slash := by
    intro part hpart
    rcases normParts_mem false hpart with hnil | ⟨hmem, hne⟩
    · cases hnil
    · exact ⟨Plain.not_mem_splitOn hmem, hne, hmem⟩
  unfold normpath
  simp only [hslashes, Nat.lt_irrefl, decide_false, Nat.zero_min, List.replicate_zero,
    List.nil_append, if_false, show ((0 : Nat) = 2) = False from by simp]
  split
  · rw [downward_iff]
    decide
  · rename_i hne
    have hnonempty : normParts false [] (text.splitOn slash) ≠ [] := by
      intro hnil
      rw [hnil] at hne
      exact hne rfl
    have hback : (List.intercalate [slash] (normParts false [] (text.splitOn slash))).splitOn slash =
        normParts false [] (text.splitOn slash) :=
      List.splitOn_intercalate slash (fun part hpart => (hsplit part hpart).1) hnonempty
    rw [downward_iff, hback]
    constructor
    · intro hstart
      obtain ⟨rest, hrest⟩ : ∃ rest,
          List.intercalate [slash] (normParts false [] (text.splitOn slash)) = slash :: rest :=
        List.head?_eq_some_iff.mp hstart
      have hempty : ([] : PyStr) ∈ normParts false [] (text.splitOn slash) := by
        rw [← hback, hrest]
        simp [List.splitOn_cons_eq_if_modifyHead]
      exact (hsplit [] hempty).2.1 rfl
    · intro hdotdot
      exact hparts (hsplit dotdot hdotdot).2.2

theorem safe_normalized {m : Member} (h : m.Safe) : m.normalized.Safe := by
  obtain ⟨hname, hlink⟩ := h
  obtain ⟨name, kind⟩ := m
  cases kind with
  | symlink linkname =>
    refine ⟨hname, ?_⟩
    intro target htarget
    cases htarget
    exact normpath_downward (hlink linkname rfl)
  | hardlink linkname =>
    refine ⟨hname, ?_⟩
    intro target htarget
    cases htarget
    exact normpath_downward (hlink linkname rfl)
  | regular data => exact ⟨hname, hlink⟩
  | directory => exact ⟨hname, hlink⟩
  | device => exact ⟨hname, hlink⟩

end Texts

/-- A destination: a directory in which there is nothing. -/
structure Destination where
  tree : Tree PyStr Bytes
  place : Place PyStr
  isDir : tree.node place = some .dir
  empty : ∀ p, place <:+ p → p ≠ place → tree.node p = none

section Confinement
variable {dest : Destination} {links : Nat} {r : Route PyStr} {d : Disk}

/-- Nothing outside the destination was changed or written to. -/
def Kept (dest : Destination) (d : Disk) : Prop :=
  Confined dest.place dest.tree d.tree ∧ ∀ p ∈ d.written, dest.place <:+ p

theorem Kept.start (dest : Destination) : Kept dest ⟨dest.tree, []⟩ :=
  ⟨Confined.refl dest.empty dest.isDir, fun _ hp => absurd hp List.not_mem_nil⟩

theorem Kept.walk (h : Kept dest d) (hr : r.Downward) {p : Place PyStr}
    (hwalk : walk d.tree links (origin dest.place r) r.steps = some p) : dest.place <:+ p := by
  rw [origin, hr.1] at hwalk
  exact walk_inside h.1 links (List.suffix_refl _) hr.2 hwalk

theorem Kept.entry (h : Kept dest d) (hr : r.Downward) {p : Place PyStr}
    (hentry : entry d.tree links (origin dest.place r) r.steps = some p) :
    dest.place <:+ p ∧ p ≠ dest.place := by
  rw [origin, hr.1] at hentry
  exact entry_inside h.1 links (List.suffix_refl _) hr.2 hentry

/- A place inside where nothing is, is not the destination. -/
theorem Kept.below (h : Kept dest d) {p : Place PyStr} (hp : dest.place <:+ p)
    (hnone : d.tree.node p = none) : dest.place <:+ p ∧ p ≠ dest.place := by
  refine ⟨hp, ?_⟩
  intro heq
  have hroot := h.1.outside dest.place (fun hbelow => hbelow.2 rfl)
  rw [dest.isDir, ← heq, hnone] at hroot
  cases hroot

theorem Kept.log (h : Kept dest d) {t : Tree PyStr Bytes} {p : Place PyStr}
    (ht : Confined dest.place dest.tree t) (hp : dest.place <:+ p) :
    Kept dest ⟨t, p :: d.written⟩ := by
  refine ⟨ht, ?_⟩
  intro q hq
  rcases List.mem_cons.mp hq with rfl | hq
  · exact hp
  · exact h.2 q hq

theorem andThen_kept {o : Outcome} {next : Disk → Outcome} (h : Kept dest o.disk)
    (hnext : ∀ d, Kept dest d → Kept dest (next d).disk) : Kept dest (o.andThen next).disk := by
  unfold Outcome.andThen
  split
  · exact hnext _ h
  · exact h

theorem orElse_kept {o : Outcome} {handler : Disk → Outcome} (h : Kept dest o.disk)
    (hhandler : ∀ d, Kept dest d → Kept dest (handler d).disk) :
    Kept dest (o.orElse handler).disk := by
  unfold Outcome.orElse
  split
  · exact hhandler _ h
  · exact h

theorem place_kept (h : Kept dest d) (hr : r.Downward) (n : Node PyStr) (hn : ∀ i, n ≠ .file i)
    (hlink : ∀ target, n = .link target → target.Downward) :
    Kept dest (place links dest.place r n hn d).disk := by
  unfold place
  split
  · exact h
  · rename_i p hentry
    split
    · have hbelow := h.entry hr hentry
      apply h.log ?_ hbelow.1
      apply h.1.put hbelow
      · intro target htarget
        exact hlink target (Option.some.inj htarget)
      · intro i hi
        exact absurd (Option.some.inj hi) (hn i)
    · exact h

theorem mkdir_kept (h : Kept dest d) (hr : r.Downward) :
    Kept dest (mkdir links dest.place r d).disk :=
  place_kept h hr _ _ nofun

theorem symlink_kept (h : Kept dest d) (hr : r.Downward) {linkname : PyStr}
    (hlink : (routeOf linkname).Downward) :
    Kept dest (symlink links dest.place linkname r d).disk := by
  unfold symlink
  split
  · exact h
  · apply place_kept h hr
    intro target htarget
    cases htarget
    exact hlink

theorem unlink_kept (h : Kept dest d) (hr : r.Downward) :
    Kept dest (unlink links dest.place r d).disk := by
  unfold unlink
  split
  · exact h
  · rename_i p hentry
    split
    · exact h
    · exact h
    · have hbelow := h.entry hr hentry
      exact h.log (h.1.put hbelow nofun nofun) hbelow.1

theorem link_kept (h : Kept dest d) {source : Route PyStr} (hsource : source.Downward)
    (hr : r.Downward) : Kept dest (link links dest.place source r d).disk := by
  unfold link
  split
  · rename_i p q hp hq
    split
    · exact h
    · exact h
    · split
      · have hbelow := h.entry hr hq
        have hfrom := (h.entry hsource hp).1
        apply h.log ?_ hbelow.1
        apply h.1.put hbelow
        · intro target htarget
          exact h.1.links p target hfrom htarget
        · intro i hi
          exact h.1.files p i hfrom hi
      · exact h
  · exact h

theorem makefile_kept (h : Kept dest d) (hr : r.Downward) (data : Bytes) :
    Kept dest (makefile links dest.place data r d).disk := by
  unfold makefile
  split
  · exact h
  · rename_i p hwalk
    have hinside := h.walk hr hwalk
    split
    · rename_i hnone
      exact h.log (h.1.create (h.below hinside hnone) data) hinside
    · rename_i i hfile
      exact h.log (h.1.write hinside hfile data) hinside
    · exact h

theorem makedir_kept (h : Kept dest d) (hr : r.Downward) :
    Kept dest (makedir links dest.place r d).disk := by
  unfold makedir
  simp only
  split
  · exact mkdir_kept h hr
  · split
    · exact h
    · exact h

theorem makedirs_kept {done steps : List (Step PyStr)} (h : Kept dest d)
    (hdone : Step.up ∉ done) (hsteps : Step.up ∉ steps) :
    Kept dest (makedirs links dest.place false done steps d).disk := by
  induction steps generalizing done d with
  | nil => exact h
  | cons step rest ih =>
    have hmore : Step.up ∉ done ++ [step] := by
      intro hmem
      rcases List.mem_append.mp hmem with hmem | hmem
      · exact hdone hmem
      · exact hsteps (List.mem_singleton.mp hmem ▸ List.mem_cons_self)
    rw [makedirs]
    apply andThen_kept
    · split
      · exact h
      · exact mkdir_kept h ⟨rfl, hmore⟩
    · intro d hd
      exact ih hd hmore fun hmem => hsteps (List.mem_cons_of_mem _ hmem)

theorem setAttributes_kept (h : Kept dest d) (hr : r.Downward) (m : Member) :
    Kept dest (setAttributes links dest.place m r d).disk := by
  unfold setAttributes
  generalize (m.kind matches .symlink _) = isLink
  cases isLink with
  | true => exact h
  | false =>
    simp only [Bool.false_eq_true, if_false]
    cases hwalk : FileTree.walk d.tree links (origin dest.place r) r.steps with
    | none => exact h
    | some p => exact h.log h.1 (h.walk hr hwalk)

variable {replacing : Bool} {members : List Member}

theorem makeSymlink_kept (h : Kept dest d) (hr : r.Downward) {linkname : PyStr}
    (hlink : (routeOf linkname).Downward) :
    Kept dest (makeSymlink links dest.place linkname r d).disk := by
  apply andThen_kept
  · split
    · exact unlink_kept h hr
    · exact h
  · intro d hd
    exact symlink_kept hd hr hlink

theorem makeHardlink_kept (h : Kept dest d) (hr : r.Downward) {linkname : PyStr}
    (hlink : (routeOf linkname).Downward) :
    Kept dest (makeHardlink links dest.place replacing linkname r d).disk := by
  apply andThen_kept
  · split
    · exact unlink_kept h hr
    · exact h
  · intro d hd
    exact link_kept hd hlink hr

theorem findLinkTarget_mem {position : Nat} {m : Member} {other : Member × Nat}
    (h : findLinkTarget members position m = some other) : other.1 ∈ members := by
  have hget : ∀ limit name, getMember members limit name = some other → other.1 ∈ members := by
    intro limit name hfound
    have hmem := List.mem_of_find?_eq_some hfound
    rw [List.mem_reverse] at hmem
    exact List.mem_of_mem_take (List.fst_mem_of_mem_zipIdx hmem)
  unfold findLinkTarget at h
  split at h
  · exact hget _ _ h
  · exact hget _ _ h
  · cases h

/-- One member, whatever it is, is made inside; what a link refers to is a member as well. -/
theorem extractWith_kept {again : Member × Nat → Disk → Outcome}
    (hagain : ∀ other d, other.1 ∈ members → Kept dest d → Kept dest (again other d).disk)
    (h : Kept dest d) (hr : r.Downward) {position : Nat} {m : Member} (hm : m.Safe) :
    Kept dest (extractWith links dest.place replacing members again position m r d).disk := by
  have hreferenced : ∀ missing d, Kept dest d →
      Kept dest (match findLinkTarget members position m with
        | some other => again other d
        | none => (⟨d, some missing⟩ : Outcome)).disk := by
    intro missing d hd
    cases hfound : findLinkTarget members position m with
    | none => exact hd
    | some other => exact hagain other d (findLinkTarget_mem hfound) hd
  unfold extractWith
  simp only [hr.1]
  apply andThen_kept
  · apply andThen_kept
    · apply makedirs_kept h List.not_mem_nil
      intro hmem
      exact hr.2 (List.mem_of_mem_dropLast hmem)
    · intro d hd
      obtain ⟨name, kind⟩ := m
      cases kind with
      | regular data => exact makefile_kept hd hr data
      | directory => exact makedir_kept hd hr
      | symlink linkname =>
        apply orElse_kept
        · exact makeSymlink_kept hd hr (hm.2 linkname rfl)
        · exact hreferenced .extract
      | hardlink linkname =>
        apply orElse_kept
        · split
          · exact makeHardlink_kept hd hr (hm.2 linkname rfl)
          · exact hreferenced .other d hd
        · exact hreferenced .extract
      | device => exact hd
  · intro d hd
    exact setAttributes_kept hd hr m

theorem extractMember_kept (hmembers : ∀ m ∈ members, m.Safe) (hr : r.Downward) (fuel : Nat)
    (h : Kept dest d) {m : Member × Nat} (hm : m.1.Safe) :
    Kept dest (extractMember links dest.place replacing members fuel r m d).disk := by
  induction fuel generalizing d m with
  | zero => exact extractWith_kept (fun _ _ _ hd => hd) h hr hm
  | succ fuel ih =>
    exact extractWith_kept (fun other d hother hd => ih hd (hmembers _ hother)) h hr hm

theorem extract_kept (hmembers : ∀ m ∈ members, m.Safe) (fuel : Nat) (filter : DataFilter)
    (h : Kept dest d) {m : Member × Nat} (hm : m.1.Safe) :
    Kept dest (extract links dest.place replacing members fuel filter m d).disk := by
  unfold extract
  split
  · exact h
  · rename_i filtered hfiltered
    have hsafe : filtered.Safe := by
      rcases filter.keeps _ _ _ hfiltered with rfl | rfl
      · exact hm
      · exact safe_normalized hm
    have hkept : Kept dest (extractMember links dest.place replacing members fuel
        (routeOf filtered.name) (filtered, m.2) d).disk :=
      extractMember_kept hmembers hsafe.1 fuel h hsafe
    simp only
    split
    · exact hkept
    · exact hkept

theorem extractAll_kept (hmembers : ∀ m ∈ members, m.Safe) (fuel : Nat) (filter : DataFilter)
    {rest : List (Member × Nat)} (hrest : ∀ m ∈ rest, m.1.Safe) (h : Kept dest d) :
    Kept dest (extractAll links dest.place replacing members fuel filter rest d).disk := by
  induction rest generalizing d with
  | nil => exact h
  | cons m rest ih =>
    apply andThen_kept
    · exact extract_kept hmembers fuel filter h (hrest m List.mem_cons_self)
    · intro d hd
      exact ih (fun m hm => hrest m (List.mem_cons_of_mem _ hm)) hd

theorem validate_error {m : Member} {e : ReleaseError} (h : m.validate = .error e) :
    e = unsafeMember := by
  unfold Member.validate validateArchiveMember at h
  simp only at h
  split at h
  · exact (Except.error.inj h).symm
  split at h
  · exact (Except.error.inj h).symm
  split at h
  · exact (Except.error.inj h).symm
  split at h
  · split at h
    · exact (Except.error.inj h).symm
    · cases h
  · cases h

/-- Either a member is refused and nothing happens, or all are safe and what happens is inside. -/
theorem extractValidatedArchive_kept (dest : Destination) (links : Nat) (replacing : Bool) (members : List Member)
    (fuel : Nat) (filter : DataFilter) :
    let start : Disk := ⟨dest.tree, []⟩
    let r := extractValidatedArchive links dest.place replacing members fuel filter start
    Kept dest r.1 ∧
      ((∃ m ∈ members, m.validate ≠ .ok ()) → r = (start, .error unsafeMember)) := by
  unfold extractValidatedArchive
  simp only
  cases hfirst : members.findSome? fun m => (match m.validate with
    | .ok _ => none
    | .error e => some e) with
  | some e =>
    obtain ⟨m, hm, herror⟩ := List.exists_of_findSome?_eq_some hfirst
    have hrisky : e = unsafeMember := by
      cases hvalidate : m.validate with
      | ok u => simp [hvalidate] at herror
      | error e' =>
        simp only [hvalidate, Option.some.injEq] at herror
        rw [← herror]
        exact validate_error hvalidate
    rw [hrisky]
    exact ⟨Kept.start dest, fun _ => rfl⟩
  | none =>
    have hvalid : ∀ m ∈ members, m.validate = .ok () := by
      intro m hm
      have hnone := List.findSome?_eq_none_iff.mp hfirst m hm
      cases hvalidate : m.validate with
      | ok u => rfl
      | error e => simp [hvalidate] at hnone
    have hsafe : ∀ m ∈ members, m.Safe := fun m hm => safe_of_validate (hvalid m hm)
    refine ⟨?_, ?_⟩
    · apply extractAll_kept hsafe fuel filter ?_ (Kept.start dest)
      intro m hm
      exact hsafe _ (List.fst_mem_of_mem_zipIdx hm)
    · rintro ⟨m, hm, hrefused⟩
      exact absurd (hvalid m hm) hrefused

end Confinement

end FrameNest.Archives
