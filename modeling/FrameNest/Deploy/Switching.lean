import FrameNest.Deploy.Staging

/-! Switching the current release: two shell steps over one temporary link, and what they leave
when an earlier switch stopped between them. -/
namespace FrameNest.Deploy
open Concurrent Relational

/- What has been put into each directory since it was built. -/
def Host.added (h : Host) (path : String) : Option (List String) :=
  (Named.get? h.trees path).map Tree.added

/- The switch finds no `current.next`, or a directory that already has an entry of the name. -/
def Host.linkFree (h : Host) (release : String) : Bool :=
  match h.next with
  | none => true
  | some directory => (h.added directory).any fun names => basename release ∈ names

/-- A switch is begun only where no earlier one left its temporary link behind. -/
def freshLink (_ : Unit) (i : Moment) (e : Effect) (s : Remote) : Prop :=
  match e with
  | .ssh (.atomicSwitch release) => i.outcome = .stopped 0 ∨ s.host.linkFree release = true
  | _ => True

instance (g : Unit) (i : Moment) (e : Effect) (s : Remote) : Decidable (freshLink g i e s) := by
  unfold freshLink
  split <;> infer_instance

section Switch
variable {sha256 : String → String} {h h' : Host} {release : String}

theorem atomicSwitch_run (hrun : runSteps (Command.steps sha256 (.atomicSwitch release)) h =
    (h', true)) : ∃ linked, h.linkNext release = some linked ∧ linked.renameNext = some h' := by
  cases hl : h.linkNext release with
  | none => simp [Command.steps, runSteps, hl] at hrun
  | some linked =>
    refine ⟨linked, rfl, ?_⟩
    cases hm : linked.renameNext with
    | none => simp [Command.steps, runSteps, hl, hm] at hrun
    | some moved =>
      simp only [Command.steps, runSteps, hl, hm, Prod.mk.injEq, and_true] at hrun
      rw [hrun]

/-- With no temporary link in its way, a switch that reports success does what it is for. -/
theorem atomicSwitch_fresh (hfree : h.linkFree release = true)
    (hrun : runSteps (Command.steps sha256 (.atomicSwitch release)) h = (h', true)) :
    h' = { h with current := some release, next := none } := by
  obtain ⟨linked, hl, hm⟩ := atomicSwitch_run hrun
  cases hnext : h.next with
  | none =>
    simp only [Host.linkNext, hnext, Option.some.injEq] at hl
    rw [← hl] at hm
    simp only [Host.renameNext, Option.map_some, Option.some.injEq] at hm
    exact hm.symm
  | some directory =>
    simp only [Host.linkNext, hnext] at hl
    obtain ⟨tree, htree, hname, -⟩ := addInside_some hl
    have htaken : basename release ∈ tree.added := by
      simpa [Host.linkFree, hnext, Host.added, htree] using hfree
    exact absurd htaken hname

/-- With one in its way, it puts a link into the directory that one names. -/
theorem atomicSwitch_stale {directory : String} (hnext : h.next = some directory)
    (hrun : runSteps (Command.steps sha256 (.atomicSwitch release)) h = (h', true)) :
    h'.current = some directory ∧ h'.added directory ≠ h.added directory := by
  obtain ⟨linked, hl, hm⟩ := atomicSwitch_run hrun
  simp only [Host.linkNext, hnext] at hl
  obtain ⟨tree, htree, -, rfl⟩ := addInside_some hl
  obtain ⟨path, hpath, rfl⟩ := Option.map_eq_some_iff.mp hm
  have hsame : directory = path := Option.some.inj (hnext.symm.trans hpath)
  subst hsame
  refine ⟨rfl, ?_⟩
  simp [Host.added, Named.get?_set, htree]

end Switch

section Walk
variable {tool : Tool} {permits : Unit → Moment → Effect → Remote → Prop} {w s : Remote}
  {target : String} {β : Type} {f : String → Release β}

/- Since `w`, no file was read back; the captured one and the releases stay. -/
structure Uncaptured (w : Remote) (file : RemoteFile) (t : Remote) : Prop where
  captured : t.host.file? file = w.host.file? file
  releases : ∀ path, IsRelease w.host path → IsRelease t.host path
  log : NoCat w t

/- What is known of a host and lost by no reading. -/
def Readable (J : Remote → Prop) : Prop :=
  ∀ t t' : Remote, t'.host = t.host → NoCat t t' → J t → J t'

theorem Uncaptured.readable (w : Remote) (file : RemoteFile) : Readable (Uncaptured w file) :=
  fun _ _ hhost hlog ht => ⟨hhost ▸ ht.captured, hhost ▸ ht.releases, ht.log.trans hlog⟩

theorem Uncaptured.refl (w : Remote) (file : RemoteFile) : Uncaptured w file w :=
  ⟨rfl, fun _ h => h, NoCat.refl w⟩

theorem Readable.named {J : Remote → Prop} (hJ : Readable J) (target : String) :
    Readable fun t => J t ∧ t.host.current = some target :=
  fun t t' hhost hlog ht => ⟨hJ t t' hhost hlog ht.1, hhost ▸ ht.2⟩

theorem reading_demandDeadline : Only tool Effect.isReading demandDeadline := by
  unfold demandDeadline
  exact Only.seq (Only.call rfl) fun _ => Only.demand

theorem reading_waitReady (target : String) :
    ∀ turns, Only tool Effect.isReading (waitReady target turns) := by
  have hready : Only tool Effect.isReading (checkReady target) := by
    unfold checkReady
    exact Only.rescue (Only.seq reading_probe fun _ => Only.seq reading_probe fun _ => Only.pure)
      fun _ => Only.pure
  have hhealth : ∀ active, Only tool Effect.isReading (health active target) := by
    intro active
    unfold health
    split
    · exact hready
    · exact Only.pure
  have hpoll : Only tool Effect.isReading (pollReady target) := by
    unfold pollReady
    exact Only.seq reading_demandDeadline fun _ => Only.seq reading_probe fun _ =>
      Only.seq reading_probe fun _ => Only.seq Only.demand fun _ => Only.seq Only.demand fun _ =>
      hhealth _
  intro turns
  induction turns with
  | zero => exact Only.fail
  | succ turns ih =>
    unfold waitReady
    refine Only.seq hpoll fun ready => ?_
    cases ready with
    | true => exact Only.pure
    | false => exact Only.seq reading_demandDeadline fun _ => ih

/-- A cutover that is verified was read back from the link. -/
theorem verifyCutover_secures {J : Remote → Prop} (hJ : Readable J) (hs : J s) :
    Securing tool permits (fun r t => J t ∧ ∀ u, r = .ok u → t.host.current = some target)
      (verifyCutover target) s := by
  have hread := @reading_host tool.sha256 .readlinkCurrent rfl
  have hlog : ∀ ok, J ⟨s.host, s.attempts ++ [(.readlinkCurrent, ok)]⟩ := fun ok =>
    hJ s _ rfl ((NoCat.refl s).attempt rfl) hs
  refine ssh_bind (fun hw i h' _ _ hrun => ?_) fun hw n => ?_
  · have hsame := hread 1 s.host
    have hall : (Command.steps tool.sha256 .readlinkCurrent).take 1 =
        Command.steps tool.sha256 .readlinkCurrent := rfl
    rw [hall, hrun] at hsame
    subst hsame
    refine ⟨hw, ?_⟩
    obtain ⟨path, hcurrent, sha, -, hsha, rfl, -⟩ := hw.current
    refine Secures.alone_seq demand_secures (fun u t ht => ?_) fun x t ht =>
      ⟨ht.1 ▸ hlog true, fun _ hx => (by cases hx)⟩
    obtain ⟨rfl, hnamed, -⟩ := ht
    have hout : Plain.strip (releaseDir sha) = target := by
      have hstripped := of_decide_eq_true (hnamed u rfl)
      simpa [Command.output, hcurrent] using hstripped
    rw [strip_releaseDir hsha] at hout
    have hstart : J ⟨s.host, s.attempts ++ [(.readlinkCurrent, true)]⟩ ∧
        s.host.current = some target := ⟨hlog true, hout ▸ hcurrent⟩
    have hrest : Only tool Effect.isReading (probe .systemdWorkingDirectory >>= fun workingDir =>
        demand (Plain.strip workingDir = current) "service working directory is unexpected"
          .readiness >>= fun _ => waitReady target readinessPolls >>= fun _ =>
        probe .journal >>= fun logs => demand (unsanitized.all fun token => !contains logs token)
          "unsanitized log content" .serviceTerminal) :=
      Only.seq reading_probe fun _ => Only.seq Only.demand fun _ =>
        Only.seq (reading_waitReady target _) fun _ => Only.seq reading_probe fun _ => Only.demand
    refine Secures.mono (fun r t ht => ?_) (hrest.reading (hJ.named target) hstart)
    exact ⟨ht.1, fun _ _ => ht.2⟩
  · rw [hread n s.host]
    exact ⟨hw, fun x => ⟨hlog false, fun _ hx => (by cases hx)⟩⟩

/-- However much of a switch is carried out, the files and the releases stay. -/
theorem atomicSwitch_keeps {sha256 : String → String} (n : Nat) (h : Host) :
    (runSteps ((Command.steps sha256 (.atomicSwitch target)).take n) h).1.deployDir = h.deployDir ∧
      ∀ path, IsRelease h path →
        IsRelease (runSteps ((Command.steps sha256 (.atomicSwitch target)).take n) h).1 path := by
  refine runSteps_keeps (R := fun h h' => h'.deployDir = h.deployDir ∧
    ∀ path, IsRelease h path → IsRelease h' path) (fun _ => ⟨rfl, fun _ hr => hr⟩)
    (fun _ _ _ hab hbc => ⟨hbc.1.trans hab.1, fun path hr => hbc.2 path (hab.2 path hr)⟩)
    fun step hstep a b hab => ?_
  rcases List.mem_cons.mp (List.mem_of_mem_take hstep) with rfl | hstep
  · have hl : a.linkNext target = some b := hab
    cases hnext : a.next with
    | none =>
      simp only [Host.linkNext, hnext, Option.some.injEq] at hl
      rw [← hl]
      exact ⟨rfl, fun _ hr => hr⟩
    | some directory =>
      simp only [Host.linkNext, hnext] at hl
      refine ⟨?_, fun path hr => hr.addInside hl⟩
      obtain ⟨tree, -, -, rfl⟩ := addInside_some hl
      rfl
  · obtain rfl := List.mem_singleton.mp hstep
    obtain ⟨path, -, rfl⟩ := Option.map_eq_some_iff.mp hab
    exact ⟨rfl, fun _ hr => hr⟩

/-- What is left by a switch, reported as done or as failed. -/
theorem atomicSwitch_secures {file : RemoteFile}
    (hfresh : ∀ i e t, permits () i e t → freshLink () i e t) (hr : IsRelease s.host target)
    (hs : Uncaptured w file s) :
    Securing tool permits (fun r t => Uncaptured w file t ∧
      (∃ ok, t.attempts = s.attempts ++ [(.atomicSwitch target, ok)] ∧ ∀ x, r = .error x → ok = false) ∧
      ∀ out, r = .ok out → t.host.current = some target) (ssh (.atomicSwitch target)) s := by
  have hfile : ∀ {h' : Host} {ok : Bool}, h'.deployDir = s.host.deployDir ∧
      (∀ path, IsRelease s.host path → IsRelease h' path) →
      Uncaptured w file ⟨h', s.attempts ++ [(.atomicSwitch target, ok)]⟩ := by
    intro h' ok hkeeps
    refine ⟨?_, fun path hr => hkeeps.2 path (hs.releases path hr), hs.log.attempt rfl⟩
    rw [← hs.captured]
    simp [Host.file?, hkeeps.1]
  have hwhole : (Command.steps tool.sha256 (.atomicSwitch target)).take 2 =
      Command.steps tool.sha256 (.atomicSwitch target) := rfl
  refine ssh_secures (fun hw i h' hp hout hrun => ?_) fun hw n => ?_
  · have hwell := @WellFormed.atomicSwitch tool.sha256 s.host target hw hr 2
    have hkeeps := @atomicSwitch_keeps target tool.sha256 2 s.host
    rw [hwhole, hrun] at hwell hkeeps
    refine ⟨hwell, hfile hkeeps, ⟨true, rfl, fun _ hx => (by cases hx)⟩, fun _ _ => ?_⟩
    have hfree : s.host.linkFree target = true := by
      rcases hfresh i _ s hp with hstopped | hfree
      · rw [hout] at hstopped
        cases hstopped
      · exact hfree
    rw [atomicSwitch_fresh hfree hrun]
  · exact ⟨hw.atomicSwitch hr n, fun x => ⟨hfile (atomicSwitch_keeps n s.host),
      ⟨false, rfl, fun _ _ => rfl⟩, fun _ hx => (by cases hx)⟩⟩

/- Since `w`: no file read back, and once every command has succeeded, `current` names
   `target`. -/
def Restoring (w : Remote) (target : String) (t : Remote) : Prop :=
  ∃ new, t.attempts = w.attempts ++ new ∧ (∀ a ∈ new, a.1.isCat = false) ∧
    ((∀ a ∈ new, a.2 = true) → t.host.current = some target)

theorem restoring_of_named {t : Remote} (hlog : NoCat w t) (hcurrent : t.host.current = some target) :
    Restoring w target t := by
  obtain ⟨new, hnew, hcat⟩ := hlog
  exact ⟨new, hnew, hcat, fun _ => hcurrent⟩

/-- A file read back: the first command of an automatic rollback. -/
def ReadBack (w : Remote) (file : RemoteFile) (target : String) (t : Remote) : Prop :=
  ∃ ok rest, t.attempts = w.attempts ++ (.cat file, ok) :: rest ∧ (∀ a ∈ rest, a.1.isCat = false) ∧
    ((∀ a ∈ (Command.cat file, ok) :: rest, a.2 = true) → t.host.current = some target)

theorem Restoring.readBack {file : RemoteFile} {t : Remote} {h : Host}
    (ht : Restoring ⟨h, w.attempts ++ [(.cat file, true)]⟩ target t) : ReadBack w file target t := by
  obtain ⟨new, hnew, hcat, hall⟩ := ht
  refine ⟨true, new, by rw [hnew]; simp, hcat, fun hok => hall fun a ha => ?_⟩
  exact hok a (List.mem_cons_of_mem _ ha)

variable (hfresh : ∀ i e t, permits () i e t → freshLink () i e t)
include hfresh

/-- A rollback whose commands all succeed leaves `current` at the captured release. -/
theorem restorePrevious_secures {file : RemoteFile} (hr : IsRelease s.host target)
    (hs : s.host.file? file = some target) :
    Securing tool permits (fun _ t => ReadBack s file target t) (restorePrevious file) s := by
  have hcat := runSteps_take_one (h := s.host)
    (f := fun h : Host => demandHost (h.file? file).isSome h)
  refine ssh_bind (fun hw i h' _ _ hrun => ?_) fun hw n => ?_
  · have hsame : h' = s.host := (demandHost_some (runSteps_one hrun)).2
    subst hsame
    obtain ⟨sha, tree, hsha, rfl, htree, hbuilt⟩ := hr
    have hout : Plain.strip ((Command.cat file).output i.stdout s.host) = releaseDir sha := by
      simp [Command.output, hs, strip_releaseDir hsha]
    rw [hout]
    let s₁ : Remote := ⟨s.host, s.attempts ++ [(.cat file, true)]⟩
    refine ⟨hw, Secures.mono (fun r t (ht : Restoring s₁ (releaseDir sha) t) => ht.readBack) ?_⟩
    refine Secures.alone_seq demand_secures (fun _ t ht => ?_) fun x t ht => ?_
    · obtain ⟨rfl, -, -⟩ := ht
      have hrelease : IsRelease s₁.host (releaseDir sha) := ⟨sha, tree, hsha, rfl, htree, hbuilt⟩
      have hstart := Uncaptured.refl s₁ file
      refine mapError_bind (atomicSwitch_secures hfresh hrelease hstart) (fun _ t₂ h₂ => ?_)
        fun x t₂ h₂ => ?_
      · have hnamed : Uncaptured s₁ file t₂ ∧ t₂.host.current = some (releaseDir sha) :=
          ⟨h₂.1, h₂.2.2 _ rfl⟩
        have hrest : ∀ {t : Remote}, Uncaptured s₁ file t ∧ t.host.current = some (releaseDir sha) →
            Restoring s₁ (releaseDir sha) t := fun ht => restoring_of_named ht.1.log ht.2
        have hJ := (Uncaptured.readable s₁ file).named (releaseDir sha)
        refine mapError_bind (reading_probe.reading hJ hnamed) (fun _ t₃ h₃ => ?_)
          fun x t₃ h₃ => hrest h₃
        refine mapError_bind (reading_probe.reading hJ h₃) (fun _ t₄ h₄ => ?_)
          fun x t₄ h₄ => hrest h₄
        exact Secures.mono (fun r t ht => hrest ht.1) (verifyCutover_secures hJ h₄)
      · obtain ⟨ok, hattempts, hfailed⟩ := h₂.2.1
        refine ⟨[(.atomicSwitch (releaseDir sha), ok)], hattempts, fun a ha => ?_, fun hall => ?_⟩
        · rw [List.mem_singleton.mp ha]
          rfl
        · have hok := hall _ List.mem_cons_self
          rw [hfailed x rfl] at hok
          cases hok
    · have hpath := ht.2.2 x rfl
      rw [isRemotePath_releaseDir hsha] at hpath
      cases hpath
  · have hsame : (runSteps (((Command.cat file).steps tool.sha256).take n) s.host).1 = s.host := by
      rcases hcat n with hn | hn
      · exact hn
      · exact (demandHost_some hn).2
    rw [hsame]
    refine ⟨hw, fun x => ⟨false, [], rfl, fun _ ha => (by cases ha), fun hall => ?_⟩⟩
    exact absurd (hall _ List.mem_cons_self) (by simp)

theorem rollback_secures {file : RemoteFile} (hr : IsRelease s.host target)
    (hs : s.host.file? file = some target) :
    Securing tool permits (fun _ t => ReadBack s file target t) (rollback file) s := by
  refine Secures.alone_rescue (restorePrevious_secures hfresh hr hs) (fun _ t ht => ht)
    fun x t ht => ?_
  exact Secures.ite (fun _ => ht) fun _ => ht

omit hfresh in
/-- The database is probed before the switch, and nothing moves. -/
theorem probe_secures (file : RemoteFile) :
    Securing tool permits (fun _ t => Uncaptured s file t ∧ t.host = s.host)
      (probe (.checkDatabaseReady target)) s :=
  reading_probe.reading
    (fun t t' hhost hlog ht => ⟨Uncaptured.readable s file t t' hhost hlog ht.1, hhost.trans ht.2⟩)
    ⟨Uncaptured.refl s file, rfl⟩

/-- The commands of a cutover, up to its end or its first failure. -/
theorem cutover_secures {file : RemoteFile} (hr : IsRelease s.host target) :
    Securing tool permits (fun r t => Uncaptured s file t ∧
      ∀ u, r = .ok u → t.host.current = some target) (cutover target) s := by
  have hJ := Uncaptured.readable s file
  refine mapError_bind (probe_secures file) (fun _ t₁ h₁ => ?_) fun x t ht => ⟨ht.1, fun _ hx => (by cases hx)⟩
  have hr₁ : IsRelease t₁.host target := by
    rw [h₁.2]
    exact hr
  refine mapError_bind (atomicSwitch_secures hfresh hr₁ h₁.1) (fun _ t₂ h₂ => ?_)
    fun x t ht => ⟨ht.1, fun _ hx => (by cases hx)⟩
  refine mapError_bind (reading_probe.reading hJ h₂.1) (fun _ t₃ h₃ => ?_)
    fun x t ht => ⟨ht, fun _ hx => (by cases hx)⟩
  exact verifyCutover_secures hJ h₃

theorem switchTo_secures {file : RemoteFile} (hr : IsRelease s.host target) :
    Securing tool permits (fun r t => Uncaptured s file t ∧
      ∀ u, r = .ok u → t.host.current = some target) (switchTo target) s := by
  have hJ := Uncaptured.readable s file
  refine Secures.alone_seq (probe_secures file) (fun _ t₁ h₁ => ?_)
    fun x t ht => ⟨ht.1, fun _ hx => (by cases hx)⟩
  have hr₁ : IsRelease t₁.host target := by
    rw [h₁.2]
    exact hr
  refine Secures.alone_seq (atomicSwitch_secures hfresh hr₁ h₁.1) (fun _ t₂ h₂ => ?_)
    fun x t ht => ⟨ht.1, fun _ hx => (by cases hx)⟩
  refine Secures.alone_seq (reading_probe.reading hJ h₂.1) (fun _ t₃ h₃ => ?_)
    fun x t ht => ⟨ht, fun _ hx => (by cases hx)⟩
  exact verifyCutover_secures hJ h₃

end Walk

end FrameNest.Deploy
