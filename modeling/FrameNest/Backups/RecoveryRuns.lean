import FrameNest.Backups.RecoveryWalk

/-! Any sequence of backup operations, each cut anywhere: the recorded recovery point lasts
as long as retention ranks it among the newest. -/
namespace FrameNest.Backups
open Concurrent

inductive BackupCall where
  | runScheduled (config : CatalogBackupOpsConfig) (clock : Utc)
  | expire (config : CatalogBackupOpsConfig) (apply : Bool) (clock : Utc)
  | verifyRestore (name : String) (clock : Utc)

namespace BackupCall

def program (readers : Readers) : BackupCall → BackupProgram Unit
  | runScheduled config clock => do
    let _ ← runScheduledCatalogBackup readers config clock
    pure ()
  | expire config apply clock => do
    let _ ← expireAutomaticBackups readers config apply clock
    pure ()
  | verifyRestore name clock => do
    let _ ← verifyRestoreBundle name clock
    pure ()

/- The `KEEP_AUTO` of a call that deletes. -/
def deletesBeyond : BackupCall → Option Nat
  | runScheduled config _ | expire config true _ => some config.keepAuto
  | _ => none

end BackupCall

/-- The recorded bundle is one of the `KEEP_AUTO` greatest eligible ones. -/
def RecordedNewest (readers : Readers) (keepAuto : Nat) (w : World) : Prop :=
  ∀ success, w.lastSuccess = some success →
    success.bundleId ∈ (newestEligible readers w).take keepAuto

/-- While `ranked`, a call that deletes lists the root only in such a world. -/
def RanksRecorded (readers : Readers) (ranked : Bool) (deletes : Option Nat) (_ : Moment)
    (e : Effect) (w : World) : Prop :=
  ranked = true → e = .iterdir → ∀ keepAuto, deletes = some keepAuto →
    RecordedNewest readers keepAuto w

/-- One operation at a time: the lock turns every other one away. -/
def backupSystem (readers : Readers) (ranked : Bool) :
    System BackupCall Moment Effect Effect.Answer Failure World (Option Nat) Unit where
  toProtocol := backupProtocol readers (RanksRecorded readers ranked)
  program := BackupCall.program readers
  memory := BackupCall.deletesBeyond
  mayStart threads _ := threads.isEmpty
  mayCrash := true

section Writing
variable {γ : Type} {readers : Readers} {permits : γ → Moment → Effect → World → Prop} {g : γ}
  {w s : World}

/-- What a status that was just read says of the world. -/
structure ReadFrom (t : World) (status : Status) : Prop where
  ledger : status.ledgerIds = t.ledgerIds
  lastSuccess : status.lastSuccess = t.lastSuccess
  readable : ¬t.Rejected

theorem loadStatus_secures {β : Type} {inv : World → Prop} {Q : Except Failure β → World → Prop}
    {k : Status → BackupProgram β} (hT : Tolerant inv fun _ _ => True)
    (hk : ∀ status t, Same s t → ReadFrom t status →
      Secures (backupProtocol readers permits) (alone inv fun _ _ => True) g Q (k status) t)
    (herror : ∀ x t, Same s t → Q (.error x) t) :
    Secures (backupProtocol readers permits) (alone inv fun _ _ => True) g Q (loadStatus >>= k)
      s := by
  refine quiet_bind anyFaults hT (Same.refl s) rfl (fun _ t status _ ht hstatus => ?_)
    fun _ t x ht _ => herror x t ht
  obtain ⟨hids, hlast, hreadable⟩ := loadStatus_ok hstatus
  exact hk status t ht ⟨hids.trans ht.ledger.symm, hlast.trans ht.lastSuccess.symm,
    fun h => hreadable (ht.rejected_iff.mp h)⟩

theorem loadStatus_bind {β : Type} {k : Status → BackupProgram β} (h : Still w s)
    (hk : ∀ status t, Still w t → ReadFrom t status → Leaves readers permits g w (k status) t) :
    Leaves readers permits g w (loadStatus >>= k) s :=
  loadStatus_secures tolerant_kept (fun status t ht hread => hk status t (h.trans ht.still) hread)
    fun _ _ ht => h.trans ht.still

/-- A status written back with the ledger and the success it was read with. -/
theorem writeStatus_leaves {status status' : Status} (h : Still w s) (hread : ReadFrom s status)
    (hledger : status'.ledgerIds = status.ledgerIds)
    (hsuccess : status'.lastSuccess = status.lastSuccess) :
    Leaves readers permits g w (writeStatus status') s := by
  have hsame : ∀ i, Same s (perform readers i (.writeStatus status') s).2 := fun _ =>
    writeStatus_same (hledger.trans hread.ledger) (hsuccess.trans hread.lastSuccess) hread.readable
  refine call_perform anyFaults trivial (fun hinv i _ => ⟨hinv.same (hsame i), trivial⟩)
    (fun _ i _ _ _ => h.trans (hsame i).still) fun i v _ hv _ => ?_
  obtain rfl | rfl := hv
  · exact h.trans (hsame i).still
  · exact h

theorem writeStatus_bind {β : Type} {status status' : Status} {k : BackupProgram β} (h : Still w s)
    (hread : ReadFrom s status) (hledger : status'.ledgerIds = status.ledgerIds)
    (hsuccess : status'.lastSuccess = status.lastSuccess)
    (hk : ∀ t, Still w t → Leaves readers permits g w k t) :
    Leaves readers permits g w (writeStatus status' >>= fun _ => k) s :=
  (writeStatus_leaves h hread hledger hsuccess).bind fun _ => hk

theorem clearOperation_leaves {operation : Operation} (h : Still w s) :
    Leaves readers permits g w (clearOperation operation) s :=
  loadStatus_bind h fun _ _ ht hread => Leaves.ite (fun _ => writeStatus_leaves ht hread rfl rfl)
    fun _ => ht

theorem recordScheduledFailure_leaves (code : ErrorCode) (clock : Utc) (attemptSeq : Nat)
    (h : Still w s) : Leaves readers permits g w (recordScheduledFailure code clock attemptSeq) s :=
  loadStatus_bind h fun _ _ ht hread => writeStatus_bind ht hread rfl rfl fun _ hu =>
    Leaves.quiet hu rfl

theorem scheduledFailure_leaves (clock : Utc) (attemptSeq : Nat) (x : Failure) (h : Still w s) :
    Leaves readers permits g w (scheduledFailure clock attemptSeq x) s := by
  unfold scheduledFailure
  split
  · exact h
  · exact (recordScheduledFailure_leaves _ _ _ h).bind fun _ _ ht => ht
  · exact (recordScheduledFailure_leaves _ _ _ h).bind fun _ _ ht => ht
  · exact (recordScheduledFailure_leaves _ _ _ h).bind fun _ _ ht => ht
  · exact (recordScheduledFailure_leaves _ _ _ h).bind fun _ _ ht => ht
  · exact (recordScheduledFailure_leaves _ _ _ h).bind fun _ _ ht => ht

theorem restoreAndSemantic_leaves (name : String) (verified : BackupResult) (clock : Utc)
    (h : Still w s) : Leaves readers permits g w (restoreAndSemantic name verified clock) s :=
  Secures.mono (fun _ _ ht => h.trans ht.1.still) (restoreAndSemantic_secures name verified clock)

/-- A manual verification leaves root, ledger and success alone. -/
theorem verifyRestoreBundle_leaves (name : String) (clock : Utc) (h : Still w s) :
    Leaves readers permits g w (verifyRestoreBundle name clock) s := by
  have hverify : ∀ t, Still w t → Leaves readers permits g w (verifyRestore name clock) t := by
    intro t ht
    have hexisting : Leaves readers permits g w (existingBundleUnderRoot name) t := by
      refine (Leaves.quiet ht rfl).bind fun entry u hu => ?_
      obtain _ | (_ | _ | _) := entry <;> exact hu
    refine hexisting.bind fun _ t₁ h₁ => ?_
    refine (Leaves.quiet h₁ rfl).bind fun verified t₂ h₂ => ?_
    refine (restoreAndSemantic_leaves name verified clock h₂).bind fun restored t₃ h₃ => ?_
    refine loadStatus_bind h₃ fun _ t₄ h₄ hread => ?_
    refine writeStatus_bind h₄ hread rfl rfl fun t₅ h₅ => ?_
    refine (Leaves.quiet h₅ rfl).bind fun _ t₆ h₆ => ?_
    exact (demandOps_leaves h₆).bind fun _ t₇ h₇ => h₇
  refine (Leaves.quiet h rfl).bind fun _ t₁ h₁ => ?_
  refine loadStatus_bind h₁ fun _ t₂ h₂ hread => ?_
  refine writeStatus_bind h₂ hread rfl rfl fun t₃ h₃ => ?_
  refine ensuring_leaves ((hverify t₃ h₃).rescue fun x t ht => ?_) fun t ht =>
    clearOperation_leaves ht
  exact loadStatus_bind ht fun _ u hu hread => writeStatus_bind hu hread rfl rfl fun v hv => hv

end Writing

section Retaining
variable {readers : Readers} {s t : World}

/-- Ranked among the first `k` of all, a key is ranked among the first `k` of fewer. -/
theorem not_mem_drop_of_mem_take {α : Type} {key : α → String × String}
    (hkey : Function.Injective key) {all some : List α} (hall : all.Pairwise (notBehind key))
    (hsome : some.Pairwise (notBehind key)) (hnodup : some.Nodup) (hsub : ∀ a ∈ some, a ∈ all)
    {k : Nat} {x : α} (hx : x ∈ all.take k) : x ∉ some.drop k := by
  intro hdrop
  obtain ⟨before, after, hsplit⟩ := List.append_of_mem hx
  have hshort : before.length < k := by
    have hlength := congrArg List.length hsplit
    simp only [List.length_take, List.length_append, List.length_cons] at hlength
    omega
  have hlong : (some.take k).length = k := by
    have hpos := List.length_pos_of_mem hdrop
    simp only [List.length_drop] at hpos
    rw [List.length_take]
    omega
  have hparts : (some.take k ++ some.drop k).Pairwise (notBehind key) := by
    rwa [List.take_append_drop]
  have hapart : (some.take k ++ some.drop k).Nodup := by
    rwa [List.take_append_drop]
  have hall' : (before ++ x :: (after ++ all.drop k)).Pairwise (notBehind key) := by
    rw [← List.cons_append, ← List.append_assoc, ← hsplit, List.take_append_drop]
    exact hall
  have hbefore : ∀ y ∈ some.take k, y ∈ before := by
    intro y hy
    have hne : y ≠ x := fun heq => (List.nodup_append.mp hapart).2.2 y hy x hdrop heq
    have hyx : notBehind key y x := (List.pairwise_append.mp hparts).2.2 y hy x hdrop
    have hmem : y ∈ before ++ x :: (after ++ all.drop k) := by
      rw [← List.cons_append, ← List.append_assoc, ← hsplit, List.take_append_drop]
      exact hsub y (List.mem_of_mem_take hy)
    obtain hmem | hmem := List.mem_append.mp hmem
    · exact hmem
    obtain rfl | hmem := List.mem_cons.mp hmem
    · exact absurd rfl hne
    · have hxy : notBehind key x y :=
        List.rel_of_pairwise_cons (List.pairwise_append.mp hall').2.1 hmem
      exact absurd (hkey (notBehind_antisymm hyx hxy)) hne
  have hle := (List.subperm_of_subset (List.nodup_append.mp hapart).1 hbefore).length_le
  omega

/-- What deletes other bundles only keeps the recorded one. -/
theorem Shrunk.kept (hs : Shrunk readers (Apart s) s t) (h : Kept readers s) : Kept readers t := by
  intro success hlast
  rw [hs.lastSuccess] at hlast
  obtain ⟨⟨hauto, children, catalog, hentry, hrest⟩, hledger⟩ := h success hlast
  have hnot : ¬Apart s success.bundleId := fun ha => ha success hlast rfl
  refine ⟨⟨hauto, children, catalog, ?_, hrest⟩, hs.ledgered _ hledger hnot⟩
  obtain hsame | ⟨hmay, -⟩ := hs.entries success.bundleId
  · rw [hsame]
    exact hentry
  · exact absurd hmay hnot

/-- The root is listed only where the recorded bundle ranks, so no plan expires it. -/
theorem expired_apart {u v : World} {keepAuto : Nat} {plan : RetentionPlan} {ids : List String}
    (hu : Shrunk readers (Apart s) s u) (hplanned : Planned readers False u keepAuto plan ids)
    (hv : Same u v) (hranked : RecordedNewest readers keepAuto v) : ∀ n ∈ plan.expire, Apart s n := by
  rintro n hn success hlast rfl
  have hlast' : v.lastSuccess = some success := by
    rw [hv.lastSuccess, hu.lastSuccess]
    exact hlast
  have hkey : keyAt readers v = keyAt readers u := by
    funext n
    simp [keyAt, hv.root]
  have hnewest : newestEligible readers v = newestEligible readers u := by
    simp [newestEligible, hkey, hv.root, Eligible.congr hv.root hv.ledger]
  have hrank := hranked success hlast'
  rw [hnewest] at hrank
  rw [hplanned.expire] at hn
  exact not_mem_drop_of_mem_take keyAt_injective pairwise_newestEligible hplanned.newest
    hplanned.nodup (fun n hn => mem_newestEligible.mpr (hplanned.eligible n hn)) hrank hn

end Retaining

/-- Programs that keep whatever success is recorded restorable. -/
def Keeps {γ α : Type} (readers : Readers) (permits : γ → Moment → Effect → World → Prop) (g : γ)
    (p : BackupProgram α) : Prop :=
  ∀ s, Kept readers s → Secures (backupProtocol readers permits)
    (alone (Kept readers) fun _ _ => True) g (fun _ t => Kept readers t) p s

section Keeping
variable {γ α β : Type} {readers : Readers} {permits : γ → Moment → Effect → World → Prop} {g : γ}

theorem Keeps.of_secures {p : BackupProgram α} (h : ∀ s, Kept readers s → ∃ Q,
      Secures (backupProtocol readers permits) (alone (Kept readers) fun _ _ => True) g Q p s) :
    Keeps readers permits g p := by
  intro s hs
  obtain ⟨Q, hQ⟩ := h s hs
  exact Secures.mono (fun _ _ ht => ht.2) (Secures.alone_keeps hs hQ)

theorem Keeps.of_leaves {p : BackupProgram α}
    (h : ∀ s, Kept readers s → Leaves readers permits g s p s) : Keeps readers permits g p :=
  Keeps.of_secures fun s hs => ⟨_, h s hs⟩

theorem Keeps.bind {p : BackupProgram α} {f : α → BackupProgram β}
    (hp : Keeps readers permits g p) (hf : ∀ a, Keeps readers permits g (f a)) :
    Keeps readers permits g (p >>= f) :=
  fun s hs => Secures.alone_seq (hp s hs) (fun a t ht => hf a t ht) fun _ _ ht => ht

theorem Keeps.rescue {p : BackupProgram α} {handler : Failure → BackupProgram α}
    (hp : Keeps readers permits g p) (hhandler : ∀ x, Keeps readers permits g (handler x)) :
    Keeps readers permits g (p.rescue handler) :=
  fun s hs => Secures.alone_rescue (hp s hs) (fun _ _ ht => ht) fun x t ht => hhandler x t ht

theorem Keeps.done (a : α) : Keeps readers permits g (.done a) := fun _ hs => hs

theorem Keeps.fail (x : Failure) : Keeps readers permits g (.fail x : BackupProgram α) :=
  fun _ hs => hs

theorem Keeps.quiet {e : Effect} (he : e.isQuiet = true) :
    Keeps readers permits g (Program.perform e) :=
  Keeps.of_leaves fun s _ => Leaves.quiet (Still.refl s) he

theorem Keeps.ensuring {p : BackupProgram α} {q : BackupProgram Unit}
    (hp : Keeps readers permits g p) (hq : Keeps readers permits g q) :
    Keeps readers permits g (ensuring p q) :=
  (hp.rescue fun x => hq.bind fun _ => Keeps.fail x).bind fun a => hq.bind fun _ => Keeps.done a

end Keeping

section Passes
variable {readers : Readers} (config : CatalogBackupOpsConfig)

/-- The deletion loop, however often it plans anew and whatever fails in it. -/
theorem expireEach_keeps {onFailure : String → Failure → BackupProgram Unit}
    (hfail : ∀ w n x u, Shrunk readers (Apart w) w u →
      Secures (backupProtocol readers (RanksRecorded readers true))
        (alone (Shrunk readers (Apart w) w) (FirstWhileEligible readers w)) (some config.keepAuto)
        (fun r _ => ∃ y, r = .error y) (onFailure n x) u) (rest deleted : List String) :
    Keeps readers (RanksRecorded readers true) (some config.keepAuto)
      (expireEach readers config onFailure rest deleted) := by
  refine Keeps.of_secures fun s hs => ⟨_, Secures.alone_weaken (fun t ht => ht.kept hs)
    (fun _ _ _ _ _ => trivial) (Shrunk.refl s) (expireEach_secures anyFaults config (hfail s)
      (fun u plan ids hu hplanned hpermitted => ?_) rest deleted (Shrunk.refl s) False.elim)⟩
  obtain ⟨i, v, hv, hp⟩ := hpermitted
  exact expired_apart hu hplanned hv (hp rfl rfl config.keepAuto rfl)

theorem buildRetentionPlan_keeps {γ : Type} {permits : γ → Moment → Effect → World → Prop} {g : γ} :
    Keeps readers permits g (buildRetentionPlan readers config) :=
  Keeps.of_secures fun s _ =>
    ⟨_, buildRetentionPlan_secures anyFaults tolerant_kept config (Same.refl s)⟩

theorem scheduledRetention_keeps : Keeps readers (RanksRecorded readers true) (some config.keepAuto)
    (scheduledRetention readers config) := by
  refine (buildRetentionPlan_keeps config).bind fun plan => ?_
  have hfail : ∀ w (n : String) x u, Shrunk readers (Apart w) w u →
      Secures (backupProtocol readers (RanksRecorded readers true))
        (alone (Shrunk readers (Apart w) w) (FirstWhileEligible readers w)) (some config.keepAuto)
        (fun r _ => ∃ y, r = .error y) (.fail x : BackupProgram Unit) u :=
    fun _ _ x _ _ => Exists.intro x rfl
  refine (expireEach_keeps config hfail plan.expire []).bind fun expired => ?_
  intro s hs
  refine Secures.ite (fun _ => hs) fun _ => ?_
  exact ((Keeps.quiet rfl).bind fun now => (Keeps.quiet rfl).bind fun _ => Keeps.done _) s hs

theorem expireAutomaticBackups_keeps (clock : Utc) :
    Keeps readers (RanksRecorded readers true) (some config.keepAuto)
      (expireAutomaticBackups readers config true clock) := by
  refine (buildRetentionPlan_keeps config).bind fun plan => ?_
  refine (expireEach_keeps config (fun _ n x _ _ => recordExpireFailure_secures anyFaults clock n x)
    plan.expire []).bind fun deleted => ?_
  exact (Keeps.quiet rfl).bind fun _ => Keeps.done _

/-- A dry run deletes nothing, wherever the recorded bundle ranks. -/
theorem dryRun_keeps {γ : Type} {permits : γ → Moment → Effect → World → Prop} {g : γ}
    (clock : Utc) : Keeps readers permits g
      (expireAutomaticBackups readers config false clock) :=
  (buildRetentionPlan_keeps config).bind fun _ => (Keeps.quiet rfl).bind fun _ => Keeps.done _

/-- The status written for a new bundle records a success that is kept. -/
theorem recordSuccess_keeps {γ : Type} {permits : γ → Moment → Effect → World → Prop} {g : γ}
    {s t : World} {success : ScheduledSuccess} {pending : Bool} {status : Status}
    (hrestorable : Restorable readers s success) (hst : Same s t) :
    Secures (backupProtocol readers permits) (alone (Kept readers) fun _ _ => True) g
      (fun _ u => Kept readers u) (writeStatus (recordedSuccess status success pending)) t := by
  have hkept : ∀ i, Kept readers
      (perform readers i (.writeStatus (recordedSuccess status success pending)) t).2 := by
    intro i recorded hrecorded
    have heq : recorded = success := (Option.some.inj hrecorded).symm
    subst heq
    refine ⟨⟨hrestorable.automatic, ?_⟩, ?_⟩
    · have hroot : (perform readers i
          (.writeStatus (recordedSuccess status recorded pending)) t).2.root = s.root := hst.root
      rw [hroot]
      exact hrestorable.bundle
    · simp [World.ledgerIds, perform, recordedSuccess, Status.ledgerIds]
  refine Secures.alone_perform fun hinv i _ => ?_
  have hafter : Kept readers
      (exec readers i (.writeStatus (recordedSuccess status success pending)) t).2 := by
    obtain h | ⟨h, -⟩ := exec_state
    · rw [h]
      exact hkept i
    · rw [h]
      exact hinv
  exact ⟨hafter, trivial, hafter⟩

end Passes
end FrameNest.Backups
