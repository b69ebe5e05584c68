import FrameNest.Deploy.Releases
import FrameNest.Concurrent.Alone

/-! What the commands do to a host: the trees that are releases stay, and the links only ever
name releases. -/
namespace FrameNest.Deploy
open Relational

/-- Every command of the preparation has been run on the tree, in its order, and no other. -/
def FullyPrepared (sha : String) (built : List Step) : Prop :=
  ∃ superproject ap document, built = [.directory, .extract superproject, .apDirectory,
    .extractAp ap, .poetryToml, .envUse, .install, .relocateShebangs (releaseDir sha), .chownRoot,
    .removeWritableBits, .manifest document, .releaseSha (sha ++ "\n")]

/-- A release directory that was renamed from a fully prepared staging tree. -/
def IsRelease (h : Host) (path : String) : Prop :=
  ∃ sha tree, IsSha sha ∧ path = releaseDir sha ∧ Named.get? h.trees path = some tree ∧
    FullyPrepared sha tree.built

structure WellFormed (h : Host) : Prop where
  trees : ∀ path tree, Named.get? h.trees path = some tree → IsRelease h path ∨
    ∃ sha, IsSha sha ∧ path = stagingDir sha
  current : ∃ path, h.current = some path ∧ IsRelease h path
  next : ∀ path, h.next = some path → IsRelease h path

section Steps
variable {R : Host → Host → Prop} {h h' : Host}

/-- What each step keeps, any part of a command keeps. -/
theorem runSteps_keeps (hrefl : ∀ h, R h h) (htrans : ∀ a b c, R a b → R b c → R a c) :
    ∀ {steps : List (Host → Option Host)} {h : Host},
      (∀ f ∈ steps, ∀ h h', f h = some h' → R h h') → R h (runSteps steps h).1 := by
  intro steps
  induction steps with
  | nil =>
    intro h _
    exact hrefl h
  | cons f steps ih =>
    intro h hsteps
    cases hf : f h with
    | none =>
      simp only [runSteps, hf]
      exact hrefl h
    | some h' =>
      simp only [runSteps, hf]
      have hfirst : R h h' := hsteps f List.mem_cons_self h h' hf
      exact htrans _ _ _ hfirst (ih fun g hg => hsteps g (List.mem_cons_of_mem f hg))

/-- A command of one step that is lost was not begun or was carried out. -/
theorem runSteps_take_one {f : Host → Option Host} (n : Nat) :
    (runSteps ([f].take n) h).1 = h ∨ f h = some (runSteps ([f].take n) h).1 := by
  cases n with
  | zero => exact .inl rfl
  | succ n =>
    have htake : [f].take (n + 1) = [f] := by simp
    rw [htake]
    cases hf : f h with
    | none => simp [runSteps, hf]
    | some h' => simp [runSteps, hf]

theorem runSteps_one {f : Host → Option Host} (hrun : runSteps [f] h = (h', true)) :
    f h = some h' := by
  cases hf : f h with
  | none => simp [runSteps, hf] at hrun
  | some h'' =>
    simp only [runSteps, hf, Prod.mk.injEq, and_true] at hrun
    rw [hrun]

end Steps

/- The host looks the same to every link and tree. -/
structure Same (h h' : Host) : Prop where
  trees : h'.trees = h.trees
  current : h'.current = h.current
  next : h'.next = h.next

theorem Same.refl (h : Host) : Same h h := ⟨rfl, rfl, rfl⟩

theorem Same.trans {a b c : Host} (h : Same a b) (h' : Same b c) : Same a c :=
  ⟨h'.trees.trans h.trees, h'.current.trans h.current, h'.next.trans h.next⟩

theorem IsRelease.same {h h' : Host} {path : String} (hr : IsRelease h path) (hs : Same h h') :
    IsRelease h' path := by
  obtain ⟨sha, tree, hsha, hpath, htree, hbuilt⟩ := hr
  exact ⟨sha, tree, hsha, hpath, by rw [hs.trees]; exact htree, hbuilt⟩

theorem WellFormed.same {h h' : Host} (hw : WellFormed h) (hs : Same h h') : WellFormed h' where
  trees path tree htree := by
    rw [hs.trees] at htree
    exact (hw.trees path tree htree).imp_left fun hr => hr.same hs
  current := by
    obtain ⟨path, hcurrent, hr⟩ := hw.current
    exact ⟨path, by rw [hs.current]; exact hcurrent, hr.same hs⟩
  next path hnext := by
    rw [hs.next] at hnext
    exact (hw.next path hnext).same hs

/- The commands that touch neither the trees nor the links. -/
def Command.isRoutine : Command → Bool
  | .prepare _ _ | .renameStaging _ _ | .atomicSwitch _ => false
  | _ => true

theorem demandHost_some {b : Bool} {h h' : Host} (hd : demandHost b h = some h') :
    b = true ∧ h' = h := by
  cases b with
  | false => cases hd
  | true => exact ⟨rfl, (Option.some.inj hd).symm⟩

theorem writeFile_same {h h' : Host} {file : RemoteFile} {content : String}
    (hw : h.writeFile file content = some h') : Same h h' := by
  obtain ⟨files, -, rfl⟩ := Option.map_eq_some_iff.mp hw
  exact ⟨rfl, rfl, rfl⟩

theorem routine_step {sha256 : String → String} {c : Command} (hc : c.isRoutine = true)
    {f : Host → Option Host} (hf : f ∈ c.steps sha256) {h h' : Host} (hstep : f h = some h') :
    Same h h' := by
  have hdemand : ∀ {b : Bool}, demandHost b h = some h' → Same h h' := by
    intro b hd
    rw [(demandHost_some hd).2]
    exact Same.refl h
  cases c with
  | probe p => cases hf
  | prepare staging step => cases hc
  | renameStaging staging release => cases hc
  | atomicSwitch release => cases hc
  | mkdirDeployDir =>
    obtain rfl := List.mem_singleton.mp hf
    simp only at hstep
    split at hstep
    · cases hstep
    · cases hstep
      exact ⟨rfl, rfl, rfl⟩
  | rmDeployDir =>
    obtain rfl := List.mem_singleton.mp hf
    simp only at hstep
    split at hstep
    · cases hstep
      exact ⟨rfl, rfl, rfl⟩
    · cases hstep
  | removeFile file =>
    obtain rfl := List.mem_singleton.mp hf
    cases hstep
    exact ⟨rfl, rfl, rfl⟩
  | writeFile file digest content =>
    rcases List.mem_cons.mp hf with rfl | hf
    · exact writeFile_same hstep
    · obtain rfl := List.mem_singleton.mp hf
      exact hdemand hstep
  | captureCurrent file =>
    rcases List.mem_cons.mp hf with rfl | hf
    · exact hdemand hstep
    · obtain rfl := List.mem_singleton.mp hf
      obtain ⟨prev, -, hwrite⟩ := Option.bind_eq_some_iff.mp hstep
      exact writeFile_same hwrite
  | _ =>
    obtain rfl := List.mem_singleton.mp hf
    exact hdemand hstep

theorem routine_same {sha256 : String → String} {c : Command} (hc : c.isRoutine = true) (n : Nat)
    (h : Host) : Same h (runSteps ((c.steps sha256).take n) h).1 :=
  runSteps_keeps Same.refl (fun _ _ _ => Same.trans) fun _ hf _ _ hstep =>
    routine_step hc (List.mem_of_mem_take hf) hstep

section Added
variable {h h' : Host} {path name : String}

theorem addInside_some (ha : h.addInside path name = some h') :
    ∃ tree, Named.get? h.trees path = some tree ∧ name ∉ tree.added ∧
      h' = { h with trees := Named.set h.trees path { tree with added := tree.added ++ [name] } } := by
  cases htree : Named.get? h.trees path with
  | none => simp [Host.addInside, htree] at ha
  | some tree =>
    by_cases hname : name ∈ tree.added
    · simp [Host.addInside, htree, hname] at ha
    · simp only [Host.addInside, htree, hname, if_false] at ha
      exact ⟨tree, rfl, hname, (Option.some.inj ha).symm⟩

/-- What is put into a directory changes no build. -/
theorem addInside_built (ha : h.addInside path name = some h') {other : String} {tree : Tree}
    (htree : Named.get? h.trees other = some tree) :
    ∃ tree', Named.get? h'.trees other = some tree' ∧ tree'.built = tree.built := by
  obtain ⟨found, hfound, -, rfl⟩ := addInside_some ha
  by_cases heq : path = other
  · subst heq
    cases hfound.symm.trans htree
    exact ⟨{ tree with added := tree.added ++ [name] }, by simp [Named.get?_set, htree], rfl⟩
  · exact ⟨tree, by simp [Named.get?_set, heq, htree], rfl⟩

theorem addInside_back (ha : h.addInside path name = some h') {other : String} {tree' : Tree}
    (htree : Named.get? h'.trees other = some tree') :
    ∃ tree, Named.get? h.trees other = some tree ∧ tree'.built = tree.built := by
  obtain ⟨found, hfound, -, rfl⟩ := addInside_some ha
  by_cases heq : path = other
  · subst heq
    have hsame : ({ found with added := found.added ++ [name] } : Tree) = tree' := by
      simpa [Named.get?_set, hfound] using htree
    exact ⟨found, hfound, by rw [← hsame]⟩
  · have hsame : Named.get? h.trees other = some tree' := by simpa [Named.get?_set, heq] using htree
    exact ⟨tree', hsame, rfl⟩

theorem IsRelease.addInside (ha : h.addInside path name = some h') {other : String}
    (hr : IsRelease h other) : IsRelease h' other := by
  obtain ⟨sha, tree, hsha, hother, htree, hbuilt⟩ := hr
  obtain ⟨tree', htree', hsame⟩ := addInside_built ha htree
  exact ⟨sha, tree', hsha, hother, htree', hsame ▸ hbuilt⟩

theorem WellFormed.addInside (ha : h.addInside path name = some h') (hw : WellFormed h) :
    WellFormed h' := by
  have hlinks : h'.current = h.current ∧ h'.next = h.next := by
    obtain ⟨tree, -, -, rfl⟩ := addInside_some ha
    exact ⟨rfl, rfl⟩
  refine ⟨fun other tree' htree' => ?_, ?_, fun other hnext => ?_⟩
  · obtain ⟨tree, htree, -⟩ := addInside_back ha htree'
    exact (hw.trees other tree htree).imp_left fun hr => hr.addInside ha
  · obtain ⟨other, hcurrent, hr⟩ := hw.current
    exact ⟨other, by rw [hlinks.1]; exact hcurrent, hr.addInside ha⟩
  · rw [hlinks.2] at hnext
    exact (hw.next other hnext).addInside ha

end Added

section Switch
variable {sha256 : String → String} {h h' : Host} {release : String}

theorem WellFormed.linkNext (hw : WellFormed h) (hr : IsRelease h release)
    (hl : h.linkNext release = some h') : WellFormed h' ∧ IsRelease h' release := by
  cases hnext : h.next with
  | none =>
    simp only [Host.linkNext, hnext] at hl
    cases hl
    exact ⟨⟨hw.trees, hw.current, fun path hpath => by cases hpath; exact hr⟩, hr⟩
  | some directory =>
    simp only [Host.linkNext, hnext] at hl
    exact ⟨hw.addInside hl, hr.addInside hl⟩

theorem WellFormed.renameNext (hw : WellFormed h) (hm : h.renameNext = some h') :
    WellFormed h' := by
  obtain ⟨path, hnext, rfl⟩ := Option.map_eq_some_iff.mp hm
  exact ⟨hw.trees, ⟨path, rfl, hw.next path hnext⟩, fun _ hnone => by cases hnone⟩

/-- However much of it is carried out, a switch to a release leaves the links naming releases. -/
theorem WellFormed.atomicSwitch (hw : WellFormed h) (hr : IsRelease h release) (n : Nat) :
    WellFormed (runSteps ((Command.steps sha256 (.atomicSwitch release)).take n) h).1 := by
  cases n with
  | zero => exact hw
  | succ n =>
    cases hl : h.linkNext release with
    | none => simpa [Command.steps, runSteps, hl] using hw
    | some linked =>
      have hlinked := (hw.linkNext hr hl).1
      cases n with
      | zero => simpa [Command.steps, runSteps, hl] using hlinked
      | succ n =>
        cases hm : linked.renameNext with
        | none => simpa [Command.steps, runSteps, hl, hm] using hlinked
        | some moved => simpa [Command.steps, runSteps, hl, hm] using hlinked.renameNext hm

end Switch

end FrameNest.Deploy
