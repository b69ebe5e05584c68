import FrameNest.Deploy.Walk

/-! A deployment up to its cutover: a staging tree is prepared, step by step, and renamed. -/
namespace FrameNest.Deploy
open Concurrent Relational

section Quiet
variable {tool : Tool} {kind : Effect → Bool}

theorem quiet_probe {p : Probe} : Only tool Effect.isQuiet (probe p) := Only.call rfl

theorem reading_probe {p : Probe} : Only tool Effect.isReading (probe p) := Only.call rfl

theorem quiet_git {c : GitCommand} : Only tool Effect.isQuiet (git c) := Only.call rfl

theorem quiet_parseStatus {output : String} : Only tool kind (parseStatus tool output) := by
  unfold parseStatus
  split
  · exact Only.pure
  · exact Only.fail

theorem quiet_verifyCleanWorktrees : Only tool Effect.isQuiet verifyCleanWorktrees := by
  unfold verifyCleanWorktrees
  exact Only.seq quiet_git fun _ => Only.seq Only.demand fun _ => Only.seq quiet_git fun _ => Only.demand

theorem quiet_verifyPublicMain {sha : String} : Only tool Effect.isQuiet (verifyPublicMain sha) := by
  unfold verifyPublicMain
  exact Only.seq quiet_git fun _ => Only.demand

theorem quiet_verifyApPin {sha : String} : Only tool Effect.isQuiet (verifyApPin sha) := by
  unfold verifyApPin
  have hlink : Only tool Effect.isQuiet (apGitlinkOf sha) := by
    unfold apGitlinkOf
    refine Only.seq quiet_git fun output => ?_
    split
    · exact Only.pure
    · exact Only.fail
  exact Only.seq hlink fun _ => Only.seq quiet_git fun _ => Only.seq Only.demand fun _ => Only.pure

theorem quiet_verifyTooling : Only tool Effect.isQuiet verifyTooling := by
  unfold verifyTooling
  exact Only.seq quiet_probe fun _ => Only.seq quiet_probe fun _ => Only.seq quiet_probe fun _ =>
    Only.seq quiet_probe fun _ => Only.seq Only.demand fun _ => Only.demand

theorem quiet_verifyCapacity {required : Int} :
    Only tool Effect.isQuiet (verifyCapacity tool required) := by
  unfold verifyCapacity
  refine Only.seq quiet_probe fun raw => ?_
  split
  · exact Only.fail
  · exact Only.demand

theorem quiet_readMarkers {path marker : String} :
    Only tool Effect.isQuiet (readMarkers tool path marker) := by
  unfold readMarkers
  split
  · exact Only.seq quiet_probe fun _ => Only.seq quiet_parseStatus fun _ => Only.pure
  · split
    · exact Only.seq quiet_probe fun _ => Only.demand
    · split
      · exact Only.fail
      · exact Only.fail

theorem quiet_readCurrentRelease : Only tool Effect.isQuiet (readCurrentRelease tool) := by
  unfold readCurrentRelease
  have hreadlink : Only tool Effect.isQuiet (ssh .readlinkCurrent) := Only.call rfl
  exact Only.seq hreadlink fun _ => Only.seq Only.demand fun _ => Only.seq quiet_probe fun _ =>
    Only.seq quiet_readMarkers fun _ => Only.pure

theorem quiet_readBackupReadiness {path : String} :
    Only tool Effect.isQuiet (readBackupReadiness tool path) := by
  unfold readBackupReadiness
  refine Only.seq quiet_probe fun _ => Only.seq quiet_parseStatus fun payload => ?_
  split
  · exact Only.pure
  · exact Only.fail

theorem quiet_captureRuntimeIdentity {sha : String} :
    Only tool Effect.isQuiet (captureRuntimeIdentity sha) := by
  unfold captureRuntimeIdentity
  exact Only.seq Only.demand fun _ => Only.call rfl

theorem quiet_makeManifest {sha pin first second : String} {identity : CaptureIdentity} :
    Only tool kind (makeManifest sha pin first second identity) := by
  unfold makeManifest
  exact Only.seq Only.demand fun _ => Only.seq Only.demand fun _ => Only.seq Only.demand fun _ => Only.pure

theorem quiet_transfer {archives : Archives} : Only tool Effect.isQuiet (transfer tool archives) := by
  unfold transfer
  have hwrite : ∀ {f : RemoteFile} {digest content : String},
      Only tool Effect.isQuiet (ssh (.writeFile f digest content)) := Only.call rfl
  exact Only.seq hwrite fun _ => Only.seq hwrite fun _ => Only.seq hwrite fun _ => Only.pure

theorem quiet_checkTarget {target : String} : Only tool Effect.isQuiet (checkTarget tool target) := by
  unfold checkTarget
  exact Only.seq quiet_probe fun _ => Only.seq quiet_parseStatus fun _ => Only.seq Only.demand fun _ =>
    Only.seq quiet_probe fun _ => Only.seq quiet_parseStatus fun _ => Only.demand

theorem quiet_removeFile {f : RemoteFile} : Only tool Effect.isQuiet (ssh (.removeFile f)) :=
  Only.call rfl

theorem quiet_rmDeployDir : Only tool Effect.isQuiet (ssh .rmDeployDir) := Only.call rfl

theorem quiet_removeRemoteState : Only tool Effect.isQuiet removeRemoteState := by
  unfold removeRemoteState
  exact Only.seq quiet_removeFile fun _ => Only.seq quiet_removeFile fun _ => Only.seq quiet_removeFile fun _ =>
    Only.seq quiet_removeFile fun _ => Only.seq quiet_rmDeployDir fun _ => Only.pure

theorem quiet_dropRollbackState : Only tool Effect.isQuiet dropRollbackState := by
  unfold dropRollbackState
  exact Only.seq quiet_removeFile fun _ => Only.seq quiet_rmDeployDir fun _ => Only.pure

theorem quiet_readOptionalReleaseSha : Only tool Effect.isQuiet (readOptionalReleaseSha tool) := by
  unfold readOptionalReleaseSha
  refine Only.seq quiet_probe fun raw => ?_
  unfold readPointer
  split
  · exact Only.pure
  · exact Only.seq Only.demand fun _ => Only.seq quiet_probe fun _ => Only.seq quiet_parseStatus fun _ => Only.demand

end Quiet

/- What a preparation command has put into the tree. -/
def Places : Preparation → Step → Prop
  | .directory, step => step = .directory
  | .extract, step => ∃ archive, step = .extract archive
  | .apDirectory, step => step = .apDirectory
  | .extractAp, step => ∃ archive, step = .extractAp archive
  | .poetryToml, step => step = .poetryToml
  | .envUse, step => step = .envUse
  | .install, step => step = .install
  | .relocateShebangs final, step => step = .relocateShebangs final
  | .chownRoot, step => step = .chownRoot
  | .removeWritableBits, step => step = .removeWritableBits
  | .manifest document, step => step = .manifest document
  | .releaseSha text, step => step = .releaseSha text

/- Since `w`, only the staging tree of one release has changed, and this is how far it is. -/
structure Staged (w : Remote) (sha : String) (built : Option (List Step)) (t : Remote) : Prop where
  others : ∀ path, path ≠ stagingDir sha → Named.get? t.host.trees path = Named.get? w.host.trees path
  staging : Named.get? t.host.trees (stagingDir sha) = built.map fun b => ⟨b, []⟩
  current : t.host.current = w.host.current
  next : t.host.next = w.host.next
  log : NoCat w t

section Staged
variable {w s t : Remote} {sha : String} {built : Option (List Step)}

theorem Staged.quiet (w : Remote) (sha : String) (built : Option (List Step)) :
    Lasting (Staged w sha built) := by
  intro t t' hsame hlog ht
  refine ⟨fun path hpath => ?_, ?_, hsame.current.trans ht.current, hsame.next.trans ht.next,
    ht.log.trans hlog⟩
  · rw [hsame.trees]
    exact ht.others path hpath
  · rw [hsame.trees]
    exact ht.staging

theorem Staged.wellFormed (ht : Staged w sha built t) (hsha : IsSha sha) (hw : WellFormed w.host) :
    WellFormed t.host := by
  have hrelease : ∀ {path}, IsRelease w.host path → IsRelease t.host path := by
    rintro path ⟨other, tree, hother, rfl, htree, hbuilt⟩
    refine ⟨other, tree, hother, rfl, ?_, hbuilt⟩
    rw [ht.others _ (releaseDir_ne_stagingDir hother.matches hsha)]
    exact htree
  refine ⟨fun path tree htree => ?_, ?_, fun path hnext => ?_⟩
  · by_cases hpath : path = stagingDir sha
    · exact .inr ⟨sha, hsha, hpath⟩
    · rw [ht.others path hpath] at htree
      exact (hw.trees path tree htree).imp_left hrelease
  · obtain ⟨path, hcurrent, hr⟩ := hw.current
    exact ⟨path, ht.current.trans hcurrent, hrelease hr⟩
  · rw [ht.next] at hnext
    exact hrelease (hw.next path hnext)

variable {h h' : Host} {step : Preparation}

theorem build_some {path : String} {placed : Step} (hb : h.build path placed = some h') :
    ∃ tree, Named.get? h.trees path = some tree ∧ h' = { h with
      trees := Named.set h.trees path { tree with built := tree.built ++ [placed] } } := by
  obtain ⟨tree, htree, rfl⟩ := Option.map_eq_some_iff.mp hb
  exact ⟨tree, htree, rfl⟩

/-- All but the first command of a preparation need the tree. -/
theorem prepare_some {path : String} (hstep : step ≠ .directory)
    (hp : h.prepare path step = some h') :
    ∃ placed, Places step placed ∧ h.build path placed = some h' := by
  cases step with
  | directory => exact absurd rfl hstep
  | extract =>
    obtain ⟨_, -, hp⟩ := Option.bind_eq_some_iff.mp hp
    obtain ⟨archive, -, hp⟩ := Option.bind_eq_some_iff.mp hp
    exact ⟨_, ⟨archive, rfl⟩, hp⟩
  | extractAp =>
    obtain ⟨_, -, hp⟩ := Option.bind_eq_some_iff.mp hp
    obtain ⟨archive, -, hp⟩ := Option.bind_eq_some_iff.mp hp
    exact ⟨_, ⟨archive, rfl⟩, hp⟩
  | relocateShebangs final =>
    obtain ⟨_, -, hp⟩ := Option.bind_eq_some_iff.mp hp
    exact ⟨_, rfl, hp⟩
  | _ => exact ⟨_, rfl, hp⟩

theorem Staged.attempt (hs : Staged w sha built s) {c : Command} {b : Bool} (hc : c.isCat = false) :
    Staged w sha built ⟨s.host, s.attempts ++ [(c, b)]⟩ :=
  ⟨hs.others, hs.staging, hs.current, hs.next, hs.log.attempt hc⟩

theorem Staged.install (hs : Staged w sha none s) {c : Command} {b : Bool} (hc : c.isCat = false)
    (hi : s.host.installDirectory (stagingDir sha) = some h') :
    Staged w sha (some [.directory]) ⟨h', s.attempts ++ [(c, b)]⟩ := by
  unfold Host.installDirectory at hi
  obtain ⟨trees, hput⟩ := Named.put?_isSome
    (⟨[.directory], []⟩ : Tree) hs.staging
  rw [hput] at hi
  cases hi
  have hget := (Named.put?_some hput).2
  refine ⟨fun path hpath => ?_, ?_, hs.current, hs.next, hs.log.attempt hc⟩
  · show Named.get? trees path = _
    rw [hget, if_neg (Ne.symm hpath)]
    exact hs.others path hpath
  · show Named.get? trees (stagingDir sha) = _
    rw [hget, if_pos rfl]
    rfl

theorem Staged.build {b : List Step} {placed : Step} (hs : Staged w sha (some b) s) {c : Command}
    (ok : Bool) (hc : c.isCat = false) (hb : s.host.build (stagingDir sha) placed = some h') :
    Staged w sha (some (b ++ [placed])) ⟨h', s.attempts ++ [(c, ok)]⟩ := by
  obtain ⟨tree, htree, rfl⟩ := build_some hb
  have hsame : (⟨b, []⟩ : Tree) = tree := Option.some.inj (hs.staging.symm.trans htree)
  refine ⟨fun path hpath => ?_, ?_, hs.current, hs.next, hs.log.attempt hc⟩
  · simpa [Named.get?_set, Ne.symm hpath] using hs.others path hpath
  · simp [Named.get?_set, htree, ← hsame]

end Staged

section Walk
variable {tool : Tool} {permits : Unit → Moment → Effect → Remote → Prop} {w s : Remote}
  {sha : String} {β : Type} {Q : Except ReleaseError β → Remote → Prop} {f : String → Release β}

/-- The first command of a preparation. -/
theorem directory_bind (hsha : IsSha sha) (hw : WellFormed w.host) (hs : Staged w sha none s)
    (hok : ∀ out t, Staged w sha (some [.directory]) t → Securing tool permits Q (f out) t)
    (herror : ∀ x built t, Staged w sha built t → Q (.error x) t) :
    Securing tool permits Q (ssh (.prepare (stagingDir sha) .directory) >>= f) s := by
  refine ssh_bind (fun _ i h' _ _ hrun => ?_) fun _ n => ?_
  · have hdone := hs.install (c := .prepare (stagingDir sha) .directory) (b := true) rfl
      (runSteps_one hrun)
    exact ⟨hdone.wellFormed hsha hw, hok _ _ hdone⟩
  · have hcase := runSteps_take_one (h := s.host)
      (f := fun h : Host => h.prepare (stagingDir sha) .directory) n
    rcases hcase with hnone | hsome
    · have hleft := hs.attempt (c := .prepare (stagingDir sha) .directory) (b := false) rfl
      simp only [Command.steps, hnone]
      exact ⟨hleft.wellFormed hsha hw, fun x => herror x none _ hleft⟩
    · have hdone := hs.install (c := .prepare (stagingDir sha) .directory) (b := false) rfl hsome
      exact ⟨hdone.wellFormed hsha hw, fun x => herror x _ _ hdone⟩

/-- Every other command of it. -/
theorem prepare_bind {step : Preparation} {b : List Step} (hsha : IsSha sha)
    (hw : WellFormed w.host) (hstep : step ≠ .directory) (hs : Staged w sha (some b) s)
    (hok : ∀ out placed t, Places step placed → Staged w sha (some (b ++ [placed])) t →
      Securing tool permits Q (f out) t)
    (herror : ∀ x built t, Staged w sha built t → Q (.error x) t) :
    Securing tool permits Q (ssh (.prepare (stagingDir sha) step) >>= f) s := by
  refine ssh_bind (fun _ i h' _ _ hrun => ?_) fun _ n => ?_
  · obtain ⟨placed, hplaced, hbuild⟩ := prepare_some hstep (runSteps_one hrun)
    have hdone := hs.build (c := .prepare (stagingDir sha) step) true rfl hbuild
    exact ⟨hdone.wellFormed hsha hw, hok _ placed _ hplaced hdone⟩
  · have hcase := runSteps_take_one (h := s.host)
      (f := fun h : Host => h.prepare (stagingDir sha) step) n
    rcases hcase with hnone | hsome
    · have hleft := hs.attempt (c := .prepare (stagingDir sha) step) (b := false) rfl
      simp only [Command.steps, hnone]
      exact ⟨hleft.wellFormed hsha hw, fun x => herror x _ _ hleft⟩
    · obtain ⟨placed, -, hbuild⟩ := prepare_some hstep hsome
      have hdone := hs.build (c := .prepare (stagingDir sha) step) false rfl hbuild
      exact ⟨hdone.wellFormed hsha hw, fun x => herror x _ _ hdone⟩

/- Since `w`, no link was moved and no file read back. -/
structure Unswitched (w t : Remote) : Prop where
  current : t.host.current = w.host.current
  next : t.host.next = w.host.next
  log : NoCat w t

theorem Unswitched.refl (w : Remote) : Unswitched w w := ⟨rfl, rfl, .refl w⟩

theorem Unswitched.quiet (w : Remote) : Lasting (Unswitched w) := fun _ _ hsame hlog ht =>
  ⟨hsame.current.trans ht.current, hsame.next.trans ht.next, ht.log.trans hlog⟩

theorem Staged.unswitched {built : Option (List Step)} {t : Remote} (ht : Staged w sha built t) :
    Unswitched w t := ⟨ht.current, ht.next, ht.log⟩

/- Since `w`, no tree or link has changed. -/
structure Still (w t : Remote) : Prop where
  same : Same w.host t.host
  log : NoCat w t

theorem Still.quiet (w : Remote) : Lasting (Still w) := fun _ _ hsame hlog ht =>
  ⟨ht.same.trans hsame, ht.log.trans hlog⟩

theorem Still.unswitched {t : Remote} (ht : Still w t) : Unswitched w t :=
  ⟨ht.same.current, ht.same.next, ht.log⟩

theorem Still.staged {t : Remote} (ht : Still w t)
    (hnone : Named.get? w.host.trees (stagingDir sha) = none) : Staged w sha none t :=
  ⟨fun _ _ => by rw [ht.same.trees], by rw [ht.same.trees]; exact hnone, ht.same.current,
    ht.same.next, ht.log⟩

theorem absent_of_test {path : String} {h h' : Host}
    (hrun : runSteps (Command.steps tool.sha256 (.testNotExists path)) h = (h', true)) :
    Named.get? h.trees path = none := by
  have hnone := (demandHost_some (runSteps_one hrun)).1
  simpa using hnone

/-- The deploy directory is claimed where neither the release nor its staging tree is there. -/
theorem claimDeployDir_secures {target staging : String} :
    Securing tool permits (fun r t => Still s t ∧ ∀ u, r = .ok u →
      Named.get? s.host.trees target = none ∧ Named.get? s.host.trees staging = none)
      (claimDeployDir target staging) s := by
  have hmkdir : Only tool Effect.isQuiet (mapError (ssh .mkdirDeployDir)
      "existing remote lock or recovery state" .exists) := (Only.call rfl).mapError
  have hstart : Still s s := ⟨Same.refl _, NoCat.refl s⟩
  refine Secures.alone_seq (hmkdir.quiet (Still.quiet s) hstart) (fun _ t ht => ?_)
    fun x t ht => ⟨ht, fun _ hx => (by cases hx)⟩
  refine routine_bind rfl rfl (fun i h' hrun hsame => ?_) fun u x hsame hlog =>
    ⟨Still.quiet s t u hsame hlog ht, fun _ hx => (by cases hx)⟩
  have htarget := absent_of_test hrun
  rw [ht.same.trees] at htarget
  have hfirst : Still s ⟨h', t.attempts ++ [(.testNotExists target, true)]⟩ :=
    ⟨ht.same.trans hsame, ht.log.attempt rfl⟩
  refine routine_bind rfl rfl (fun j h'' hrun' hsame' => ?_) fun u x hsame' hlog =>
    ⟨Still.quiet s _ u hsame' hlog hfirst, fun _ hx => (by cases hx)⟩
  have hstaging := absent_of_test hrun'
  rw [hfirst.same.trees] at hstaging
  exact ⟨⟨hfirst.same.trans hsame', hfirst.log.attempt rfl⟩, fun _ _ => ⟨htarget, hstaging⟩⟩

variable (hsha : IsSha sha) (hw : WellFormed w.host)
include hsha hw

theorem prepareTree_secures (hs : Staged w sha none s) :
    Securing tool permits (fun r t => Unswitched w t ∧ ∀ u, r = .ok u →
      ∃ superproject ap, Staged w sha (some [.directory, .extract superproject, .apDirectory,
        .extractAp ap, .poetryToml]) t) (prepareTree (stagingDir sha)) s := by
  have herror : ∀ (x : ReleaseError) built t, Staged w sha built t → Unswitched w t ∧
      ∀ u : Unit, Except.error x = .ok u → ∃ superproject ap, Staged w sha (some [.directory,
        .extract superproject, .apDirectory, .extractAp ap, .poetryToml]) t :=
    fun x built t ht => ⟨ht.unswitched, fun _ hx => (by cases hx)⟩
  refine directory_bind hsha hw hs (fun _ t₁ h₁ => ?_) herror
  refine prepare_bind hsha hw (by simp) h₁ (fun _ placed₂ t₂ hplaced₂ h₂ => ?_) herror
  obtain ⟨superproject, rfl⟩ := hplaced₂
  refine prepare_bind hsha hw (by simp) h₂ (fun _ placed₃ t₃ hplaced₃ h₃ => ?_) herror
  cases hplaced₃
  refine prepare_bind hsha hw (by simp) h₃ (fun _ placed₄ t₄ hplaced₄ h₄ => ?_) herror
  obtain ⟨ap, rfl⟩ := hplaced₄
  refine prepare_bind hsha hw (by simp) h₄ (fun _ placed₅ t₅ hplaced₅ h₅ => ?_) herror
  cases hplaced₅
  exact ⟨h₅.unswitched, fun _ _ => ⟨superproject, ap, h₅⟩⟩

theorem prepareEnvironment_secures {b : List Step} (hs : Staged w sha (some b) s) :
    Securing tool permits (fun r t => Unswitched w t ∧ ∀ u, r = .ok u →
      Staged w sha (some (b ++ [.envUse, .install])) t) (prepareEnvironment (stagingDir sha)) s := by
  have herror : ∀ (x : ReleaseError) built t, Staged w sha built t → Unswitched w t ∧
      ∀ u : Unit, Except.error x = .ok u → Staged w sha (some (b ++ [.envUse, .install])) t :=
    fun x built t ht => ⟨ht.unswitched, fun _ hx => (by cases hx)⟩
  have hprobe : ∀ {p : Probe} {t : Remote} {built : Option (List Step)}, Staged w sha built t →
      Securing tool permits (fun _ t => Staged w sha built t) (probe p) t := fun ht =>
    quiet_probe.quiet (Staged.quiet w sha _) ht
  refine Secures.alone_seq (hprobe hs) (fun before t₁ h₁ => ?_) fun x t ht => herror x _ t ht
  refine Secures.alone_seq (hprobe h₁) (fun _ t₂ h₂ => ?_) fun x t ht => herror x _ t ht
  refine prepare_bind hsha hw (by simp) h₂ (fun _ placed₃ t₃ hplaced₃ h₃ => ?_) herror
  cases hplaced₃
  refine prepare_bind hsha hw (by simp) h₃ (fun _ placed₄ t₄ hplaced₄ h₄ => ?_) herror
  cases hplaced₄
  refine Secures.alone_seq (hprobe h₄) (fun after t₅ h₅ => ?_) fun x t ht => herror x _ t ht
  have hbuilt : Staged w sha (some (b ++ [.envUse, .install])) t₅ := by simpa using h₅
  refine Secures.mono (fun r t ht => ?_) (Only.demand.quiet (Staged.quiet w sha _) hbuilt)
  exact ⟨ht.unswitched, fun _ _ => ht⟩

omit hw in
/-- A fully prepared tree under its release's name. -/
theorem Staged.move {b : List Step} {h' : Host} (hs : Staged w sha (some b) s)
    (hnew : Named.get? w.host.trees (releaseDir sha) = none) (hb : FullyPrepared sha b)
    (hm : s.host.move (stagingDir sha) (releaseDir sha) = some h') :
    IsRelease h' (releaseDir sha) ∧ h'.current = s.host.current ∧ h'.next = s.host.next ∧
      (∀ path tree, Named.get? h'.trees path = some tree → path = releaseDir sha ∨
        Named.get? w.host.trees path = some tree) ∧
      ∀ path, IsRelease w.host path → IsRelease h' path := by
  have hne : stagingDir sha ≠ releaseDir sha := (releaseDir_ne_stagingDir hsha.matches hsha).symm
  have hstaging : Named.get? s.host.trees (stagingDir sha) = some ⟨b, []⟩ := hs.staging
  have htarget : Named.get? (Named.erase s.host.trees (stagingDir sha)) (releaseDir sha) = none := by
    rw [Named.get?_erase, if_neg hne, hs.others _ hne.symm]
    exact hnew
  obtain ⟨trees, hput⟩ := Named.put?_isSome (⟨b, []⟩ : Tree) htarget
  have hget := (Named.put?_some hput).2
  simp only [Host.move, hstaging, hput] at hm
  cases hm
  have hback : ∀ path tree, Named.get? trees path = some tree → path = releaseDir sha ∨
      Named.get? w.host.trees path = some tree := by
    intro path tree htree
    rw [hget] at htree
    split at htree
    · rename_i hpath
      exact .inl hpath.symm
    · rw [Named.get?_erase] at htree
      split at htree
      · cases htree
      · rename_i hpath
        rw [hs.others path (Ne.symm hpath)] at htree
        exact .inr htree
  refine ⟨⟨sha, ⟨b, []⟩, hsha, rfl, ?_, hb⟩, rfl, rfl, hback, fun path hr => ?_⟩
  · show Named.get? trees (releaseDir sha) = _
    rw [hget, if_pos rfl]
  · obtain ⟨other, tree, hother, rfl, htree, hbuilt⟩ := hr
    refine ⟨other, tree, hother, rfl, ?_, hbuilt⟩
    have hold : releaseDir sha ≠ releaseDir other := by
      intro heq
      rw [heq, htree] at hnew
      cases hnew
    have hapart := releaseDir_ne_stagingDir hother.matches hsha
    show Named.get? trees (releaseDir other) = _
    rw [hget, if_neg hold, Named.get?_erase, if_neg hapart.symm, hs.others _ hapart]
    exact htree

theorem wellFormed_move {b : List Step} {h' : Host} (hs : Staged w sha (some b) s)
    (hnew : Named.get? w.host.trees (releaseDir sha) = none) (hb : FullyPrepared sha b)
    (hm : s.host.move (stagingDir sha) (releaseDir sha) = some h') : WellFormed h' := by
  obtain ⟨hrelease, hcurrent, hnext, hback, hkeep⟩ := hs.move hsha hnew hb hm
  refine ⟨fun path tree htree => ?_, ?_, fun path hpath => ?_⟩
  · rcases hback path tree htree with rfl | hold
    · exact .inl hrelease
    · exact (hw.trees path tree hold).imp_left (hkeep path)
  · obtain ⟨path, hpath, hr⟩ := hw.current
    exact ⟨path, hcurrent.trans (hs.current.trans hpath), hkeep path hr⟩
  · rw [hnext, hs.next] at hpath
    exact hkeep path (hw.next path hpath)

/- Since `w`, no link was moved, and the release is there. -/
structure Published (w : Remote) (sha : String) (t : Remote) : Prop extends Unswitched w t where
  release : IsRelease t.host (releaseDir sha)

omit hsha hw in
theorem Published.quiet (w : Remote) (sha : String) : Lasting (Published w sha) :=
  fun _ _ hsame hlog ht =>
    ⟨Unswitched.quiet w _ _ hsame hlog ht.toUnswitched, ht.release.same hsame⟩

theorem publish_secures {superproject ap apGitlink superSha256 apSha256 : String}
    (hnew : Named.get? w.host.trees (releaseDir sha) = none)
    (hs : Staged w sha (some [.directory, .extract superproject, .apDirectory, .extractAp ap,
      .poetryToml, .envUse, .install]) s) :
    Securing tool permits (fun r t => Unswitched w t ∧ ∀ u, r = .ok u → Published w sha t)
      (publish sha apGitlink superSha256 apSha256 (releaseDir sha) (stagingDir sha)) s := by
  have herror : ∀ (x : ReleaseError) built t, Staged w sha built t → Unswitched w t ∧
      ∀ u : Unit, Except.error x = .ok u → Published w sha t :=
    fun x built t ht => ⟨ht.unswitched, fun _ hx => (by cases hx)⟩
  refine prepare_bind hsha hw (by simp) hs (fun _ placed₁ t₁ hplaced₁ h₁ => ?_) herror
  cases hplaced₁
  refine prepare_bind hsha hw (by simp) h₁ (fun _ placed₂ t₂ hplaced₂ h₂ => ?_) herror
  cases hplaced₂
  refine prepare_bind hsha hw (by simp) h₂ (fun _ placed₃ t₃ hplaced₃ h₃ => ?_) herror
  cases hplaced₃
  refine Secures.alone_seq (quiet_captureRuntimeIdentity.quiet (Staged.quiet w sha _) h₃)
    (fun identity t₄ h₄ => ?_) fun x t ht => herror x _ t ht
  refine Secures.alone_seq (quiet_makeManifest.quiet (Staged.quiet w sha _) h₄)
    (fun document t₅ h₅ => ?_) fun x t ht => herror x _ t ht
  refine prepare_bind hsha hw (by simp) h₅ (fun _ placed₆ t₆ hplaced₆ h₆ => ?_) herror
  cases hplaced₆
  refine prepare_bind hsha hw (by simp) h₆ (fun _ placed₇ t₇ hplaced₇ h₇ => ?_) herror
  cases hplaced₇
  have hfull : FullyPrepared sha _ := ⟨superproject, ap, document, rfl⟩
  have hmoved : ∀ (ok : Bool) {h' : Host},
      t₇.host.move (stagingDir sha) (releaseDir sha) = some h' → WellFormed h' ∧
      Published w sha ⟨h', t₇.attempts ++
        [(.renameStaging (stagingDir sha) (releaseDir sha), ok)]⟩ := by
    intro ok h' hm
    obtain ⟨hrelease, hcurrent, hnext, -, -⟩ := h₇.move hsha hnew hfull hm
    exact ⟨wellFormed_move hsha hw h₇ hnew hfull hm, ⟨hcurrent.trans h₇.current,
      hnext.trans h₇.next, h₇.log.attempt rfl⟩, hrelease⟩
  refine ssh_bind (fun _ i h' _ _ hrun => ?_) fun _ n => ?_
  · obtain ⟨hwell, hdone⟩ := hmoved true (runSteps_one hrun)
    exact ⟨hwell, hdone.toUnswitched, fun _ _ => hdone⟩
  · have hcase := runSteps_take_one (h := t₇.host)
      (f := fun h : Host => h.move (stagingDir sha) (releaseDir sha)) n
    rcases hcase with hnone | hsome
    · have hleft := h₇.attempt (c := .renameStaging (stagingDir sha) (releaseDir sha))
        (b := false) rfl
      simp only [Command.steps, hnone]
      exact ⟨hleft.wellFormed hsha hw, fun x => herror x _ _ hleft⟩
    · obtain ⟨hwell, hdone⟩ := hmoved false hsome
      exact ⟨hwell, fun x => ⟨hdone.toUnswitched, fun _ hx => (by cases hx)⟩⟩

omit hsha hw in
theorem captured_of_run {file : RemoteFile} {h h' : Host}
    (hrun : runSteps (Command.steps tool.sha256 (.captureCurrent file)) h = (h', true)) :
    ∃ prev, h.current = some prev ∧ h'.file? file = some prev := by
  cases hcurrent : h.current with
  | none => simp [Command.steps, runSteps, demandHost, hcurrent] at hrun
  | some prev =>
    refine ⟨prev, rfl, ?_⟩
    cases hdir : h.deployDir with
    | none =>
      by_cases hprev : prev = ""
      · simp [Command.steps, runSteps, demandHost, hcurrent, hprev] at hrun
      · simp [Command.steps, runSteps, demandHost, hcurrent, hprev, Host.writeFile, hdir] at hrun
    | some files =>
      by_cases hprev : prev = ""
      · simp [Command.steps, runSteps, demandHost, hcurrent, hprev] at hrun
      · simp [Command.steps, runSteps, demandHost, hcurrent, hprev, Host.writeFile, hdir] at hrun
        rw [← hrun]
        simp [Host.file?]

omit hsha hw in
/-- The current release is written down, in a file of the deploy directory. -/
theorem captureCurrent_secures {file : RemoteFile} (hs : Published w sha s) :
    Securing tool permits (fun r t => Unswitched w t ∧ ∀ u, r = .ok u →
      Published w sha t ∧ t.host.file? file = w.host.current)
      (ssh (.captureCurrent file) >>= fun _ => (pure () : Release Unit)) s := by
  refine routine_bind rfl rfl (fun i h' hrun hsame => ?_) fun t x hsame hlog =>
    ⟨Unswitched.quiet w s t hsame hlog hs.toUnswitched, fun _ hx => (by cases hx)⟩
  have hdone : Published w sha ⟨h', s.attempts ++ [(.captureCurrent file, true)]⟩ :=
    Published.quiet w sha s _ hsame ((NoCat.refl s).attempt rfl) hs
  obtain ⟨prev, hcurrent, hfile⟩ := captured_of_run hrun
  refine ⟨hdone.toUnswitched, fun _ _ => ⟨hdone, ?_⟩⟩
  rw [← hs.current, hcurrent]
  exact hfile

theorem stage_secures {apGitlink : String} {archives : Archives} :
    Securing tool permits (fun r t => Unswitched w t ∧ ∀ u, r = .ok u →
      Published w sha t ∧ t.host.file? .previous = w.host.current)
      (stage tool sha apGitlink archives) w := by
  have herror : ∀ (x : ReleaseError) t, Unswitched w t → Unswitched w t ∧ ∀ u : Unit,
      Except.error x = .ok u → Published w sha t ∧ t.host.file? .previous = w.host.current :=
    fun x t ht => ⟨ht, fun _ hx => (by cases hx)⟩
  refine Secures.alone_seq claimDeployDir_secures (fun u t₁ h₁ => ?_)
    fun x t ht => herror x t ht.1.unswitched
  obtain ⟨hnew, hnone⟩ := h₁.2 u rfl
  have hstaged := h₁.1.staged hnone
  refine Secures.alone_seq (quiet_verifyTooling.quiet (Staged.quiet w sha _) hstaged)
    (fun _ t₂ h₂ => ?_) fun x t ht => herror x t ht.unswitched
  refine Secures.alone_seq (quiet_verifyCapacity.quiet (Staged.quiet w sha _) h₂)
    (fun _ t₃ h₃ => ?_) fun x t ht => herror x t ht.unswitched
  refine Secures.alone_seq (quiet_transfer.quiet (Staged.quiet w sha _) h₃)
    (fun _ t₄ h₄ => ?_) fun x t ht => herror x t ht.unswitched
  refine Secures.alone_seq (prepareTree_secures hsha hw h₄) (fun u t₅ h₅ => ?_)
    fun x t ht => herror x t ht.1
  obtain ⟨superproject, ap, h₅⟩ := h₅.2 u rfl
  refine Secures.alone_seq (prepareEnvironment_secures hsha hw h₅) (fun u t₆ h₆ => ?_)
    fun x t ht => herror x t ht.1
  refine Secures.alone_seq (publish_secures hsha hw hnew (h₆.2 u rfl)) (fun u t₇ h₇ => ?_)
    fun x t ht => herror x t ht.1
  refine Secures.alone_seq (quiet_checkTarget.quiet (Published.quiet w sha) (h₇.2 u rfl))
    (fun _ t₈ h₈ => captureCurrent_secures h₈) fun x t ht => herror x t ht.toUnswitched

end Walk

end FrameNest.Deploy
