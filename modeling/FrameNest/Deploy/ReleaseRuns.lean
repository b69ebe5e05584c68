import FrameNest.Deploy.Switching

/-! Whole runs of deployments and rollbacks. -/
namespace FrameNest.Deploy
open Concurrent Relational

section Commands
variable {tool : Tool} {permits : Unit → Moment → Effect → Remote → Prop} {s w : Remote}
  {sha target : String}

/-- A call on the engine's own machine. -/
theorem local_secures {e : Effect} (hlocal : ∀ i s, (perform tool i e s).2 = s) :
    Securing tool permits (fun r t => t = s ∧ ∃ i, r = (perform tool i e s).1) (callOf e) s :=
  Secures.alone_perform fun hw i _ => by
    have hsame : (perform tool i e s).2 = s := hlocal i s
    show WellFormed (perform tool i e s).2.host ∧ True ∧ (perform tool i e s).2 = s ∧ _
    rw [hsame]
    exact ⟨hw, trivial, rfl, i, rfl⟩

theorem verifyLocalHead_secures :
    Securing tool permits (fun r t => t = s ∧ ∀ u, r = .ok u → ∃ text, Plain.strip text = sha)
      (verifyLocalHead sha) s := by
  refine Secures.alone_seq (local_secures fun _ _ => rfl) (fun head t ht => ?_)
    fun x t ht => ⟨ht.1, fun _ hx => (by cases hx)⟩
  obtain ⟨rfl, i, hi⟩ := ht
  refine Secures.mono (fun r t ht => ⟨ht.1, fun u hu => ?_⟩) demand_secures
  have hhead : head = sha := of_decide_eq_true (ht.2.1 u hu)
  refine ⟨i.stdout, ?_⟩
  rw [← hhead]
  simp only [perform, Moment.answer] at hi
  split at hi
  · cases hi
  · exact (Except.ok.inj hi).symm

/-- What passes the checks is a full commit id. -/
theorem cmdCheck_secures :
    Securing tool permits (fun r t => Unswitched s t ∧ ∀ u, r = .ok u → IsSha sha)
      (cmdCheck tool sha) s := by
  have herror : ∀ (x : ReleaseError) (t : Remote), t = s → Unswitched s t ∧
      ∀ u : Unit, Except.error x = .ok u → IsSha sha :=
    fun x t ht => ⟨ht ▸ Unswitched.refl s, fun _ hx => (by cases hx)⟩
  refine Secures.alone_seq demand_secures (fun u t ht => ?_) fun x t ht => herror x t ht.1
  obtain ⟨rfl, hmatches, -⟩ := ht
  refine Secures.alone_seq (local_secures fun _ _ => rfl) (fun _ t ht => ?_)
    fun x t ht => herror x t ht.1
  obtain ⟨rfl, -⟩ := ht
  refine Secures.alone_seq (local_secures fun _ _ => rfl) (fun _ t ht => ?_)
    fun x t ht => herror x t ht.1
  obtain ⟨rfl, -⟩ := ht
  refine Secures.alone_seq verifyLocalHead_secures (fun u' t ht => ?_) fun x t ht => herror x t ht.1
  obtain ⟨rfl, hhead⟩ := ht
  obtain ⟨text, htext⟩ := hhead u' rfl
  have hsha : IsSha sha := isSha_of_strip htext (hmatches u rfl)
  have hrest : Only tool Effect.isQuiet (verifyCleanWorktrees >>= fun _ =>
      verifyPublicMain sha >>= fun _ => verifyApPin sha >>= fun _ => callOf .buildArchives >>= fun _ =>
      verifyTooling >>= fun _ => readCurrentRelease tool >>= fun path =>
      readBackupReadiness tool path >>= fun readiness => demand (readiness = .text "ready")
        "catalog backup is not restore-ready" .backupNotReady >>= fun _ =>
      captureRuntimeIdentity sha >>= fun _ => (pure () : Release Unit)) :=
    Only.seq quiet_verifyCleanWorktrees fun _ => Only.seq quiet_verifyPublicMain fun _ =>
      Only.seq quiet_verifyApPin fun _ => Only.seq (Only.call rfl) fun _ =>
      Only.seq quiet_verifyTooling fun _ => Only.seq quiet_readCurrentRelease fun _ =>
      Only.seq quiet_readBackupReadiness fun _ => Only.seq Only.demand fun _ =>
      Only.seq quiet_captureRuntimeIdentity fun _ => Only.pure
  exact Secures.mono (fun r t ht => ⟨ht, fun _ _ => hsha⟩)
    (hrest.quiet (Unswitched.quiet t) (Unswitched.refl t))

/- Since `w`, an automatic rollback to `target` was begun, after commands that read no file
   back. -/
def RolledBack (w : Remote) (file : RemoteFile) (target : String) (t : Remote) : Prop :=
  ∃ u, NoCat w u ∧ ReadBack u file target t

theorem RolledBack.since {file : RemoteFile} {t : Remote} (hlog : NoCat w s)
    (h : RolledBack s file target t) : RolledBack w file target t := by
  obtain ⟨u, hu, hread⟩ := h
  exact ⟨u, hlog.trans hu, hread⟩

variable (hfresh : ∀ i e t, permits () i e t → freshLink () i e t)
include hfresh

/-- After a capture, a cutover either succeeds or is rolled back. -/
theorem switchOver_secures {file : RemoteFile} {previous : String} {p : Release Unit}
    {f : ReleaseError → ReleaseError}
    (hp : Securing tool permits (fun r t => Uncaptured s file t ∧
      ∀ u, r = .ok u → t.host.current = some target) p s)
    (hcaptured : s.host.file? file = some previous) (hrelease : IsRelease s.host previous) :
    Securing tool permits (fun r t =>
      (∀ u, r = .ok u → NoCat s t ∧ t.host.current = some target) ∧
      ∀ x, r = .error x → RolledBack s file previous t)
      (p.rescue fun x => rollback file >>= fun _ => .fail (f x)) s := by
  refine Secures.alone_rescue hp (fun u t ht =>
    ⟨fun v hv => ⟨ht.1.log, ht.2 v hv⟩, fun _ hx => (by cases hx)⟩) fun x t ht => ?_
  have hback : Securing tool permits (fun _ v => ReadBack t file previous v) (rollback file) t :=
    rollback_secures hfresh (ht.1.releases previous hrelease) (ht.1.captured.trans hcaptured)
  refine Secures.alone_seq hback (fun _ v hv => ?_) fun _ v hv => ?_
  · exact ⟨fun _ hx => (by cases hx), fun _ _ => ⟨t, ht.1.log, hv⟩⟩
  · exact ⟨fun _ hx => (by cases hx), fun _ _ => ⟨t, ht.1.log, hv⟩⟩

/- What quiet calls keep of a well formed host. -/
structure Steady (w t : Remote) : Prop extends Unswitched w t where
  wellFormed : WellFormed t.host

omit hfresh in
theorem Steady.quiet (w : Remote) : Lasting (Steady w) := fun t t' hsame hlog ht =>
  ⟨Unswitched.quiet w t t' hsame hlog ht.toUnswitched, ht.wellFormed.same hsame⟩

/- What is known of `current` by the end of a deployment. -/
abbrev Deployed (w : Remote) (sha previous : String) (r : Except ReleaseError Unit) (t : Remote) :
    Prop :=
  (∀ u, r = .ok u → t.host.current = some (releaseDir sha)) ∧
    ∀ x, r = .error x → NoCat w t ∨ RolledBack w .previous previous t

/-- A deployment that ends well leaves `current` at the release; one whose cutover fails begins
an automatic rollback. -/
theorem cmdDeploy_secures {yes : Bool} {previous : String} (hw : WellFormed s.host)
    (hcurrent : s.host.current = some previous) :
    Securing tool permits (Deployed s sha previous) (cmdDeploy tool sha yes) s := by
  have herror : ∀ (x : ReleaseError) (t : Remote), NoCat s t → Deployed s sha previous (.error x) t :=
    fun x t ht => ⟨fun _ hx => (by cases hx), fun _ _ => .inl ht⟩
  have hsame : ∀ (x : ReleaseError) (t : Remote), t = s → Deployed s sha previous (.error x) t :=
    fun x t ht => herror x t (ht ▸ NoCat.refl s)
  refine Secures.alone_seq demand_secures (fun _ t ht => ?_) fun x t ht => hsame x t ht.1
  obtain ⟨rfl, -, -⟩ := ht
  refine Secures.alone_seq demand_secures (fun _ t ht => ?_) fun x t ht => hsame x t ht.1
  obtain ⟨rfl, -, -⟩ := ht
  refine Secures.alone_seq (local_secures fun _ _ => rfl) (fun _ t ht => ?_)
    fun x t ht => hsame x t ht.1
  obtain ⟨rfl, -⟩ := ht
  refine Secures.alone_seq (Secures.alone_keeps hw cmdCheck_secures) (fun u t₁ h₁ => ?_)
    fun x t ht => herror x t ht.1.1.log
  have hsha : IsSha sha := h₁.1.2 u rfl
  have h₁ : Steady t t₁ := ⟨h₁.1.1, h₁.2⟩
  refine Secures.alone_seq (quiet_git.quiet (Steady.quiet t) h₁) (fun _ t₂ h₂ => ?_)
    fun x t ht => herror x t ht.log
  refine Secures.alone_seq (quiet_verifyApPin.quiet (Steady.quiet t) h₂) (fun pin t₃ h₃ => ?_)
    fun x t ht => herror x t ht.log
  have hbuild : Only tool Effect.isQuiet (callOf .buildArchives) := Only.call rfl
  refine Secures.alone_seq (hbuild.quiet (Steady.quiet t) h₃) (fun archives t₄ h₄ => ?_)
    fun x t ht => herror x t ht.log
  refine Secures.alone_seq (Secures.alone_keeps h₄.wellFormed
    (stage_secures hsha h₄.wellFormed)) (fun u t₅ h₅ => ?_)
    fun x t ht => herror x t (h₄.log.trans ht.1.1.log)
  obtain ⟨⟨-, hpublished⟩, hwell⟩ := h₅
  obtain ⟨hpublished, hfile⟩ := hpublished u rfl
  have hlog : NoCat t t₅ := h₄.log.trans hpublished.log
  have hprevious : t₅.host.current = some previous :=
    hpublished.current.trans (h₄.current.trans hcurrent)
  have hcaptured : t₅.host.file? .previous = some previous :=
    hfile.trans (h₄.current.trans hcurrent)
  have hrelease : IsRelease t₅.host previous := by
    obtain ⟨path, hpath, hr⟩ := hwell.current
    have hpath : previous = path := Option.some.inj (hprevious.symm.trans hpath)
    exact hpath ▸ hr
  refine Secures.alone_seq (switchOver_secures hfresh (cutover_secures hfresh hpublished.release)
    hcaptured hrelease) (fun u t₆ h₆ => ?_) fun x t₆ h₆ => ?_
  · obtain ⟨hnone, hnamed⟩ := h₆.1 u rfl
    let J : Remote → Prop := fun v => v.host.current = some (releaseDir sha) ∧ NoCat t v
    have hJ : Lasting J := fun v v' hsame hlog hv => ⟨hsame.current.trans hv.1, hv.2.trans hlog⟩
    have hquiet : Only tool Effect.isQuiet (mapError removeRemoteState "cleanup failed" .cleanup >>=
        fun _ => readOptionalReleaseSha tool) :=
      Only.seq quiet_removeRemoteState.mapError fun _ => quiet_readOptionalReleaseSha
    refine Secures.mono (fun r v hv => ?_) (hquiet.quiet hJ ⟨hnamed, hlog.trans hnone⟩)
    exact ⟨fun _ _ => hv.1, fun _ _ => .inl hv.2⟩
  · exact ⟨fun _ hx => (by cases hx), fun _ _ => .inr ((h₆.2 x rfl).since hlog)⟩

omit hfresh in
/-- What a rollback finds under an accepted id is a release. -/
theorem release_of_exists {h h' : Host} (hw : WellFormed h) (hsha : matchesShaPattern sha = true)
    (hrun : runSteps (Command.steps tool.sha256 (.testExists (releaseDir sha))) h = (h', true)) :
    IsRelease h (releaseDir sha) := by
  have hsome := (demandHost_some (runSteps_one hrun)).1
  obtain ⟨tree, htree⟩ := Option.isSome_iff_exists.mp hsome
  rcases hw.trees _ tree htree with hr | ⟨other, hother, hpath⟩
  · exact hr
  · exact absurd hpath (releaseDir_ne_stagingDir hsha hother)

/-- A rollback that ends well leaves `current` at the requested release. -/
theorem cmdRollback_secures {yes : Bool} (hw : WellFormed s.host) :
    Securing tool permits (fun r t => ∀ u, r = .ok u → t.host.current = some (releaseDir sha))
      (cmdRollback tool sha yes) s := by
  refine Secures.alone_seq demand_secures (fun u t ht => ?_) fun _ _ _ _ hx => (by cases hx)
  obtain ⟨rfl, hsha, -⟩ := ht
  have hsha : matchesShaPattern sha = true := hsha u rfl
  refine Secures.alone_seq demand_secures (fun _ t ht => ?_) fun _ _ _ _ hx => (by cases hx)
  obtain ⟨rfl, -, -⟩ := ht
  refine Secures.alone_seq (local_secures fun _ _ => rfl) (fun _ t ht => ?_)
    fun _ _ _ _ hx => (by cases hx)
  obtain ⟨rfl, -⟩ := ht
  refine routine_bind rfl rfl (fun i h' hrun hsame => ?_) fun _ _ _ _ _ hx => (by cases hx)
  have hrelease : IsRelease h' (releaseDir sha) := (release_of_exists hw hsha hrun).same hsame
  let J : Remote → Prop := fun v => WellFormed v.host ∧ IsRelease v.host (releaseDir sha)
  have hJ : Lasting J := fun v v' hsame _ hv => ⟨hv.1.same hsame, hv.2.same hsame⟩
  have hcommand : ∀ {c : Command}, (Effect.ssh c).isQuiet = true → Only tool Effect.isQuiet (ssh c) :=
    Only.call
  refine Secures.alone_seq ((hcommand rfl).quiet hJ ⟨hw.same hsame, hrelease⟩)
    (fun _ t₁ h₁ => ?_) fun _ _ _ _ hx => (by cases hx)
  refine Secures.alone_seq ((hcommand rfl).quiet hJ h₁) (fun _ t₂ h₂ => ?_)
    fun _ _ _ _ hx => (by cases hx)
  refine Secures.alone_seq ((hcommand rfl).quiet hJ h₂) (fun _ t₃ h₃ => ?_)
    fun _ _ _ _ hx => (by cases hx)
  have hswitch : Securing tool permits
      (fun r t => ∀ u, r = .ok u → t.host.current = some (releaseDir sha))
      (switchOrRestore (releaseDir sha)) t₃ := by
    refine routine_bind rfl rfl (fun i h' hrun hsame => ?_) fun _ _ _ _ _ hx => (by cases hx)
    obtain ⟨previous, hcurrent, hfile⟩ := captured_of_run hrun
    have hprevious : IsRelease t₃.host previous := by
      obtain ⟨path, hpath, hr⟩ := h₃.1.current
      have hpath : previous = path := Option.some.inj (hcurrent.symm.trans hpath)
      exact hpath ▸ hr
    refine Secures.mono (fun r t ht u hu => (ht.1 u hu).2) (switchOver_secures hfresh
      (switchTo_secures hfresh (h₃.2.same hsame)) hfile (hprevious.same hsame))
  let named : Remote → Prop := fun v => v.host.current = some (releaseDir sha)
  have hnamed : Lasting named := fun v v' hsame _ hv => hsame.current.trans hv
  let settled (r : Except ReleaseError (Except ReleaseError Unit)) (t : Remote) : Prop :=
    ∀ r' : Except ReleaseError Unit, r = .ok r' → ∀ u, r' = .ok u → named t
  have hdone : Securing tool permits settled
      (switchOrRestore (releaseDir sha) >>= fun a => pure (Except.ok a)) t₃ := by
    refine Secures.alone_seq hswitch (fun u t ht => ?_) fun _ _ _ _ hx => (by cases hx)
    intro r' _ v _
    exact ht u rfl
  have hsettled : Securing tool permits settled ((switchOrRestore (releaseDir sha) >>= fun a =>
      pure (Except.ok a)).rescue fun x => pure (.error x)) t₃ := by
    refine Secures.alone_rescue hdone (fun _ _ ht => ht) fun x t _ => ?_
    intro r' hr' v hv
    cases hr'
    cases hv
  have hfinally : Securing tool permits (fun r t => ∀ u, r = .ok u → named t)
      (andFinally (switchOrRestore (releaseDir sha)) dropRollbackState) t₃ := by
    refine Secures.alone_seq hsettled (fun r' t₄ h₄ => ?_) fun _ _ _ _ hx => (by cases hx)
    have hdrop : Lasting fun v => ∀ u, r' = .ok u → named v :=
      fun v v' hsame hlog hv u hu => hnamed v v' hsame hlog (hv u hu)
    refine Secures.alone_seq (quiet_dropRollbackState.quiet hdrop (h₄ r' rfl)) (fun _ t₅ h₅ => ?_)
      fun _ _ _ _ hx => (by cases hx)
    cases r' with
    | ok u => exact fun _ _ => h₅ u rfl
    | error x => exact fun _ hx => (by cases hx)
  refine Secures.alone_seq hfinally (fun u t₆ h₆ => ?_) fun _ _ _ _ hx => (by cases hx)
  exact Secures.mono (fun r t ht _ _ => ht) (quiet_readOptionalReleaseSha.quiet hnamed (h₆ u rfl))

end Commands

/- What was attempted from the first file read back on. -/
def automaticRollback (attempts : List (Command × Bool)) : List (Command × Bool) :=
  attempts.dropWhile fun a => !a.1.isCat

theorem automaticRollback_append {before rest : List (Command × Bool)} {c : Command} {ok : Bool}
    (hbefore : ∀ a ∈ before, a.1.isCat = false) (hc : c.isCat = true) :
    automaticRollback (before ++ (c, ok) :: rest) = (c, ok) :: rest := by
  unfold automaticRollback
  rw [List.dropWhile_append_of_pos (by simpa using hbefore)]
  simp [hc]

theorem automaticRollback_none {attempts : List (Command × Bool)}
    (h : ∀ a ∈ attempts, a.1.isCat = false) : automaticRollback attempts = [] := by
  unfold automaticRollback
  rw [List.dropWhile_eq_nil_iff]
  simpa using h

/-- A rollback whose commands all succeeded left `current` at the captured release. -/
theorem RolledBack.current {w t : Remote} {file : RemoteFile} {target : String}
    (h : RolledBack w file target t) {new : List (Command × Bool)}
    (hnew : t.attempts = w.attempts ++ new) (hall : ∀ a ∈ automaticRollback new, a.2 = true) :
    t.host.current = some target := by
  obtain ⟨u, ⟨before, hu, hbefore⟩, ok, rest, ht, -, hcurrent⟩ := h
  have hsplit : new = before ++ (.cat file, ok) :: rest := by
    rw [ht, hu, List.append_assoc] at hnew
    exact (List.append_cancel_left hnew).symm
  rw [hsplit, automaticRollback_append hbefore rfl] at hall
  exact hcurrent hall

def Call.sha : Call → String
  | .deploy sha _ => sha
  | .rollback sha _ => sha

/-- What holds of the host between two commands, whatever happened to the commands before. -/
structure SwitchingLaw (tool : Tool) (s : Remote) : Prop where
  current : ∃ path, s.host.current = some path ∧ IsRelease s.host path
  switch : ∀ i release out, freshLink () i (.ssh (.atomicSwitch release)) s →
    (perform tool i (.ssh (.atomicSwitch release)) s).1 = .ok out →
    (perform tool i (.ssh (.atomicSwitch release)) s).2.host.current = some release ∧
      ∀ path, (perform tool i (.ssh (.atomicSwitch release)) s).2.host.added path =
        s.host.added path
  stale : ∀ i release out, s.host.next ≠ none →
    (perform tool i (.ssh (.atomicSwitch release)) s).1 = .ok out →
    ∃ path, (perform tool i (.ssh (.atomicSwitch release)) s).2.host.added path ≠ s.host.added path
  succeeded : ∀ (c : Call) (is : List Moment),
    Permitted (tool.system freshLink).toProtocol is (tool.program c) () s →
    ∀ t, Program.run (perform tool) is (tool.program c) s = (.done (), t) →
    t.host.current = some (releaseDir c.sha)
  restored : ∀ (sha : String) (yes : Bool) (is : List Moment),
    Permitted (tool.system freshLink).toProtocol is (cmdDeploy tool sha yes) () s →
    ∀ x t, Program.run (perform tool) is (cmdDeploy tool sha yes) s = (.fail x, t) →
    ∀ new, t.attempts = s.attempts ++ new → automaticRollback new ≠ [] →
    (∀ a ∈ automaticRollback new, a.2 = true) → t.host.current = s.host.current

section Law
variable {tool : Tool} {s t : Remote}

theorem perform_switch {i : Moment} {release out : String}
    (h : (perform tool i (.ssh (.atomicSwitch release)) s).1 = .ok out) :
    i.outcome = .success ∧ runSteps (Command.steps tool.sha256 (.atomicSwitch release)) s.host =
      ((perform tool i (.ssh (.atomicSwitch release)) s).2.host, true) := by
  cases hout : i.outcome with
  | stopped n => simp [perform, runCommand, hout] at h
  | success =>
    cases hrun : runSteps (Command.steps tool.sha256 (.atomicSwitch release)) s.host with
    | mk h' done =>
      cases done with
      | true => simp [perform, runCommand, hout, hrun]
      | false => simp [perform, runCommand, hout, hrun] at h

theorem program_secures (c : Call) (hw : WellFormed s.host) :
    Securing tool freshLink (fun r t => ∀ u, r = .ok u →
      t.host.current = some (releaseDir c.sha)) (tool.program c) s := by
  obtain ⟨previous, hcurrent, -⟩ := hw.current
  cases c with
  | deploy sha yes =>
    exact Secures.mono (fun r t ht => ht.1) (cmdDeploy_secures (fun _ _ _ h => h) hw hcurrent)
  | rollback sha yes => exact cmdRollback_secures (fun _ _ _ h => h) hw

theorem reachable_wellFormed (hw : WellFormed s.host)
    (h : SeqReachable (tool.system freshLink) s t) : WellFormed t.host := by
  induction h with
  | refl => exact hw
  | tail _ hstep ih =>
    obtain ⟨c, is, hperm, rfl⟩ := hstep
    exact (Secures.alone_run (fun _ _ _ _ => rfl) (program_secures c ih) ih is hperm).1

theorem wellFormed_law (hw : WellFormed s.host) : SwitchingLaw tool s where
  current := hw.current
  switch i release out hfresh hok := by
    obtain ⟨hout, hrun⟩ := perform_switch hok
    have hfree : s.host.linkFree release = true := by
      rcases hfresh with hstopped | hfree
      · rw [hout] at hstopped
        cases hstopped
      · exact hfree
    rw [atomicSwitch_fresh hfree hrun]
    exact ⟨rfl, fun _ => rfl⟩
  stale i release out hnext hok := by
    obtain ⟨-, hrun⟩ := perform_switch hok
    obtain ⟨directory, hdirectory⟩ := Option.ne_none_iff_exists'.mp hnext
    exact ⟨directory, (atomicSwitch_stale hdirectory hrun).2⟩
  succeeded c is hperm t hrun := by
    have hend := (Secures.alone_run (fun _ _ _ _ => rfl) (program_secures c hw) hw is hperm).2
    have hrun' : Program.run (tool.system freshLink).exec is (tool.program c) s = (.done (), t) := hrun
    rw [hrun'] at hend
    exact hend () rfl
  restored sha yes is hperm x t hrun new hnew hbegan hall := by
    obtain ⟨previous, hcurrent, -⟩ := hw.current
    have hsecures : Securing tool freshLink (Deployed s sha previous) (cmdDeploy tool sha yes) s :=
      cmdDeploy_secures (fun _ _ _ h => h) hw hcurrent
    have hend := (Secures.alone_run (fun _ _ _ _ => rfl) hsecures hw is hperm).2
    have hrun' : Program.run (tool.system freshLink).exec is (cmdDeploy tool sha yes) s =
        (.fail x, t) := hrun
    rw [hrun'] at hend
    rcases hend.2 x rfl with ⟨quiet, hquiet, hcat⟩ | hrolled
    · rw [hquiet] at hnew
      have hsame : quiet = new := List.append_cancel_left hnew
      exact absurd (automaticRollback_none (hsame ▸ hcat)) hbegan
    · rw [hrolled.current hnew hall, hcurrent]

end Law

/-- In every run of deployments and rollbacks in which each switch begins without a link left by
an earlier one, `current` names a prepared release, a switch that reports success does what it is
for, a command that ends well leaves the requested release, and a successful automatic rollback
the one before. -/
theorem release_switching {tool : Tool} {s t : Remote} (hw : WellFormed s.host)
    (h : SeqReachable (tool.system freshLink) s t) : SwitchingLaw tool t :=
  wellFormed_law (reachable_wellFormed hw h)

instance (tool : Tool) (g : Unit) (i : Moment) (e : Effect) (s : Remote) :
    Decidable ((tool.system freshLink).permits g i e s) :=
  inferInstanceAs (Decidable (freshLink g i e s))

namespace Sample

def older : String := String.ofList (List.replicate 40 'a')

def newer : String := String.ofList (List.replicate 40 'b')

def built (sha : String) : List Step :=
  [.directory, .extract "", .apDirectory, .extractAp "", .poetryToml, .envUse, .install,
    .relocateShebangs (releaseDir sha), .chownRoot, .removeWritableBits, .manifest .null,
    .releaseSha (sha ++ "\n")]

def trees : Named Tree := ⟨[(releaseDir older, ⟨built older, []⟩)], by simp⟩

def host : Host := ⟨trees, some (releaseDir older), none, none⟩

def start : Remote := ⟨host, []⟩

def ready : StatusPayload :=
  ⟨some (.text "0028"), some (.text "0028"), some (.text "succeeded"), some (.text "ready"), none⟩

def tool : Tool where
  engine := "engine"
  sha256 text := text
  parseJsonStatus _ := some ready
  parseInt _ := some 99999000

def identity : CaptureIdentity :=
  ⟨older, String.ofList (List.replicate 64 'c'), String.ofList (List.replicate 64 'c'), "1"⟩

def prints (stdout : String) : Moment := { stdout, identity }

/- What the engine's own checks are answered. -/
def checks : List Moment :=
  [prints "", prints "", prints "/src", prints newer, prints "", prints "", prints newer,
    prints "160000 commit cc .ap", prints "cc", prints "", prints "", prints "",
    prints "Poetry 2.4.1", prints "Python 3.13.14", prints "", prints "manifest", prints "",
    prints "", prints ""]

/- What a deployment is answered up to its cutover. -/
def staging : List Moment :=
  [prints "/src", prints "160000 commit cc .ap", prints "cc", prints "", prints "", prints "",
    prints "", prints "", prints "", prints "Poetry 2.4.1", prints "Python 3.13.14",
    prints "/dev/sda1 100000000 1000 99999000"] ++ List.replicate 23 (prints "")

/- The switch stops after its `ln -s`; the rollback that follows succeeds in all its commands. -/
def interrupted : List Moment :=
  checks ++ staging ++ [prints "", { outcome := .stopped 1 }] ++ List.replicate 5 (prints "")

def interruptedRun : Release Unit × Remote :=
  Program.run (perform tool) interrupted (cmdDeploy tool newer true) start

/- A deployment in which nothing fails. -/
def deployed : List Moment :=
  checks ++ staging ++ [prints "", prints "", prints "", prints "", prints "/opt/framenest/current",
    prints "", prints "active", prints "success", prints "", prints "", prints ""] ++
    List.replicate 5 (prints "") ++ [prints "absent"]

def deployedRemote : Remote := callEach (tool.system freshLink) [(.deploy newer true, deployed)] start

theorem isSha_older : IsSha older := by decide +kernel

theorem isRelease_older : IsRelease host (releaseDir older) :=
  ⟨older, ⟨built older, []⟩, isSha_older, rfl, by simp [host, trees, Named.get?, Table.find?],
    "", "", .null, rfl⟩

theorem start_wellFormed : WellFormed start.host where
  trees path tree htree := by
    have hmem : (path, tree) ∈ trees.rows := Named.mem_rows.mpr htree
    have hentry : (path, tree) = (releaseDir older, ⟨built older, []⟩) := List.mem_singleton.mp hmem
    cases hentry
    exact .inl isRelease_older
  current := ⟨releaseDir older, rfl, isRelease_older⟩
  next path hnext := by cases hnext

def failed : Release Unit → Bool
  | .fail _ => true
  | _ => false

/- The switches of a run, with what was reported of them. -/
def switches (attempts : List (Command × Bool)) : List (String × Bool) :=
  attempts.filterMap fun
    | (.atomicSwitch release, ok) => some (release, ok)
    | _ => none

end Sample
open Sample

theorem release_switching_deployed : SwitchingLaw tool deployedRemote ∧
    deployedRemote.host.current = some (releaseDir newer) := by
  have hrun : AllPermitted (tool.system freshLink) [(.deploy newer true, deployed)] start ∧
      deployedRemote.host.current = some (releaseDir newer) := by decide +kernel
  exact ⟨release_switching start_wellFormed (callEach_reachable _ _ hrun.1), hrun.2⟩

theorem interrupted_switch_not_restored : WellFormed start.host ∧
    start.host.current = some (releaseDir older) ∧ failed interruptedRun.1 = true ∧
    switches interruptedRun.2.attempts = [(releaseDir newer, false), (releaseDir older, true)] ∧
    (automaticRollback interruptedRun.2.attempts).map (·.2) = [true, true, true, true, true] ∧
    interruptedRun.2.host.current = some (releaseDir newer) ∧
    interruptedRun.2.host.added (releaseDir newer) = some [older] :=
  ⟨start_wellFormed, by decide +kernel⟩

end FrameNest.Deploy
