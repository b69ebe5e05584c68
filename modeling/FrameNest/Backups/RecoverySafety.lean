import FrameNest.Backups.RecoveryRuns
import FrameNest.Backups.RetentionSafety

/-! The recorded recovery point over whole runs: where it lasts, and the clock that loses it. -/
namespace FrameNest.Backups
open Concurrent Relational

section Scheduled
variable {readers : Readers} (config : CatalogBackupOpsConfig)

/-- A scheduled run up to its record of success, and the retention pass after it. -/
theorem runScheduledBody_keeps (clock : Utc) (attemptSeq : Nat) :
    Keeps readers (RanksRecorded readers true) (some config.keepAuto)
      (runScheduledBody readers config clock attemptSeq) := by
  have hrest : ∀ made : ScheduledSuccess × Bool,
      Keeps readers (RanksRecorded readers true) (some config.keepAuto) (do
        appendEvent (.scheduledSucceeded clock.format made.1.bundleId attemptSeq)
        let retained ← scheduledRetention readers config
        let status' ← loadStatus
        writeStatus { status' with currentOperation := none }
        pure (ScheduledPipelineResult.mk made.1 retained.1 retained.2 made.2)) := by
    intro made
    refine (Keeps.quiet rfl).bind fun _ => (scheduledRetention_keeps config).bind fun _ => ?_
    refine Keeps.of_leaves fun s _ => ?_
    exact loadStatus_bind (Still.refl s) fun _ _ ht hread =>
      writeStatus_bind ht hread rfl rfl fun _ hu => hu
  intro s hs
  refine Secures.alone_seq (Secures.alone_keeps hs (scheduledBundle_secures clock attemptSeq hs))
    (fun made t h => ?_) fun _ t h => h.2
  obtain ⟨⟨-, hmade⟩, ht⟩ := h
  have hrestorable : Restorable readers t made.1 := hmade made rfl
  have hrecord : Secures (backupProtocol readers (RanksRecorded readers true))
      (alone (Kept readers) fun _ _ => True) (some config.keepAuto) (fun _ u => Kept readers u)
      (loadStatus >>= fun status => writeStatus (recordedSuccess status made.1 made.2)) t :=
    quiet_bind anyFaults tolerant_kept (Same.refl t) rfl
      (fun _ u status _ hu _ => recordSuccess_keeps hrestorable hu) fun _ u _ hu _ => ht.same hu
  have hboth := Secures.alone_seq hrecord (fun _ u hu => hrest made u hu) fun _ _ hu => hu
  rw [Program.bind_assoc] at hboth
  exact hboth

theorem runScheduledCatalogBackup_keeps (clock : Utc) :
    Keeps readers (RanksRecorded readers true) (some config.keepAuto)
      (runScheduledCatalogBackup readers config clock) := by
  have hpipeline : ∀ attemptSeq, Keeps readers (RanksRecorded readers true) (some config.keepAuto)
      (ensuring ((do
        let result ← runScheduledBody readers config clock attemptSeq
        demandOps (!result.pendingCleanup) .pendingCleanup
        pure result).rescue (scheduledFailure clock attemptSeq)) (clearOperation .runScheduled)) := by
    intro attemptSeq
    refine Keeps.ensuring (Keeps.rescue ?_ fun x => ?_) ?_
    · refine (runScheduledBody_keeps config clock attemptSeq).bind fun result => ?_
      exact Keeps.of_leaves fun s _ => (demandOps_leaves (Still.refl s)).bind fun _ _ ht => ht
    · exact Keeps.of_leaves fun s _ => scheduledFailure_leaves clock attemptSeq x (Still.refl s)
    · exact Keeps.of_leaves fun s _ => clearOperation_leaves (Still.refl s)
  refine (Keeps.quiet rfl).bind fun _ s hs => ?_
  refine loadStatus_secures tolerant_kept (fun status t ht hread => ?_) fun _ t ht => hs.same ht
  refine Secures.alone_seq (Secures.alone_keeps (hs.same ht)
    (writeStatus_leaves (Still.refl t) hread rfl rfl)) (fun _ u hu => ?_) fun _ _ hu => hu.2
  exact ((Keeps.quiet rfl).bind fun _ => hpipeline _) u hu.2

end Scheduled

/-- Whatever the operation and wherever it is cut, the recorded success stays restorable. -/
theorem program_keeps {readers : Readers} (call : BackupCall) :
    Keeps readers (RanksRecorded readers true) call.deletesBeyond (call.program readers) := by
  cases call with
  | runScheduled config clock =>
    exact (runScheduledCatalogBackup_keeps config clock).bind fun _ => Keeps.done _
  | expire config apply clock =>
    cases apply with
    | true => exact (expireAutomaticBackups_keeps config clock).bind fun _ => Keeps.done _
    | false => exact (dryRun_keeps config clock).bind fun _ => Keeps.done _
  | verifyRestore name clock =>
    refine Keeps.bind ?_ fun _ => Keeps.done _
    exact Keeps.of_leaves fun s _ => verifyRestoreBundle_leaves name clock (Still.refl s)

theorem kept_of_reachable {readers : Readers} {w₀ w : World} (h₀ : Kept readers w₀)
    (h : SeqReachable (backupSystem readers true) w₀ w) : Kept readers w := by
  induction h with
  | refl => exact h₀
  | tail _ hstep ih =>
    obtain ⟨call, moments, hpermitted, rfl⟩ := hstep
    exact (Secures.alone_run (fun _ _ _ _ => rfl) (program_keeps call _ ih) ih moments
      hpermitted).1

/-- The recorded bundle is on disk and in the ledger, and the selection succeeds on it. -/
def RecoveryPointLasts (readers : Readers) (w : World) : Prop :=
  ∀ success, w.lastSuccess = some success →
    (∃ children, Named.get? w.root success.bundleId = some (.bundle children)) ∧
    success.bundleId ∈ w.ledgerIds ∧
    ∃ selected, selectLatestSuccessful readers w = .ok selected ∧
      selected.recordedSuccess = success

theorem Kept.lasts {readers : Readers} {w : World} (h : Kept readers w) :
    RecoveryPointLasts readers w := by
  intro success hsuccess
  obtain ⟨⟨-, children, catalog, hentry, -⟩, hledger⟩ := h success hsuccess
  exact ⟨⟨children, hentry⟩, hledger, h.selects hsuccess⟩

/-- Scheduled runs, expire passes and manual verifications in any order, with any clock, cut
anywhere: the recovery point lasts if whenever a pass that deletes lists the root, the recorded
bundle is one of the `KEEP_AUTO` greatest eligible ones. -/
theorem recovery_point_lasts (readers : Readers) {w₀ w : World} (hfresh : w₀.status = .absent)
    (h : SeqReachable (backupSystem readers true) w₀ w) : RecoveryPointLasts readers w := by
  have h₀ : Kept readers w₀ := by
    intro success hsuccess
    simp [World.lastSuccess, hfresh] at hsuccess
  exact (kept_of_reachable h₀ h).lasts

section Sample

instance (readers : Readers) (keepAuto : Nat) (w : World) :
    Decidable (RecordedNewest readers keepAuto w) :=
  match h : w.lastSuccess with
  | none => isTrue fun success hsuccess => by simp [h] at hsuccess
  | some success => decidable_of_iff
      (success.bundleId ∈ (newestEligible readers w).take keepAuto) <| by
    simp [RecordedNewest, h]

instance (readers : Readers) (ranked : Bool) (deletes : Option Nat) (i : Moment) (e : Effect)
    (w : World) : Decidable (RanksRecorded readers ranked deletes i e w) :=
  match deletes with
  | none => isTrue fun _ _ keepAuto hkeep => by cases hkeep
  | some keepAuto => decidable_of_iff
      (ranked = true → e = .iterdir → RecordedNewest readers keepAuto w) <| by
    simp [RanksRecorded]

instance (readers : Readers) (ranked : Bool) (deletes : Option Nat) (i : Moment) (e : Effect)
    (w : World) : Decidable ((backupSystem readers ranked).permits deletes i e w) :=
  inferInstanceAs (Decidable (RanksRecorded readers ranked deletes i e w))

/- The day in the text of a sample manifest. -/
def sampleDayOf (manifest : Bytes) : Utc :=
  sampleDay (Utc.value (((manifest.drop 319).take 2).map fun b => Char.ofNat b.toNat))

/- `json.dumps` and `json.loads` of the manifests made in one January. -/
def januaryReaders : Readers := { sampleReaders with
  dumps payload := match payload with
    | .obj members => match member members "created_at_utc" with
      | .str text => sampleManifest (Utc.ofText text)
      | _ => []
    | _ => []
  loads content := .value (buildManifest "1.0.0" (sampleDayOf content) ⟨3, sampleDigest, "0001"⟩) }

def sampleMoment (day : Nat) : Moment :=
  ⟨none, false, sampleDay day, "0000000a", by decide, "", some sampleCatalog⟩

def scheduledOn (day : Nat) : BackupCall × List Moment :=
  (.runScheduled ⟨3, le_refl 3⟩ (sampleDay day), List.replicate 120 (sampleMoment day))

def freshWorld : World := ⟨.empty, .absent, [], .empty⟩

/-- Two runs, one day after the other. -/
theorem recovery_point_lasts_two_days :
    RecoveryPointLasts januaryReaders
        (callEach (backupSystem januaryReaders true) [scheduledOn 1, scheduledOn 2] freshWorld) ∧
      (callEach (backupSystem januaryReaders true) [scheduledOn 1, scheduledOn 2]
        freshWorld).lastSuccess.map ScheduledSuccess.bundleId = some (sampleName 2) :=
  ⟨recovery_point_lasts januaryReaders rfl (callEach_reachable _ _ (by decide +kernel)),
    by decide +kernel⟩

/-- Three runs, and a fourth after the clock was set back: the retention pass that ends
the fourth deletes the bundle it has just recorded. -/
theorem clock_set_back_loses_recovery_point :
    ¬∀ (readers : Readers) (w₀ w : World), w₀.status = .absent →
      SeqReachable (backupSystem readers false) w₀ w → RecoveryPointLasts readers w := by
  intro h
  have hreachable : SeqReachable (backupSystem januaryReaders false) freshWorld
      (callEach (backupSystem januaryReaders false)
        [scheduledOn 10, scheduledOn 11, scheduledOn 12, scheduledOn 1] freshWorld) :=
    callEach_reachable _ _ (allPermitted_of_forall (fun _ _ _ _ hranked => (nomatch hranked)) _ _)
  have hlost : ((callEach (backupSystem januaryReaders false)
      [scheduledOn 10, scheduledOn 11, scheduledOn 12, scheduledOn 1] freshWorld).lastSuccess.map
        ScheduledSuccess.bundleId) = some (sampleName 1) ∧
      (Named.get? (callEach (backupSystem januaryReaders false)
        [scheduledOn 10, scheduledOn 11, scheduledOn 12, scheduledOn 1] freshWorld).root
          (sampleName 1)).isNone = true := by decide +kernel
  have hlasts := h januaryReaders freshWorld _ rfl hreachable
  generalize callEach (backupSystem januaryReaders false)
    [scheduledOn 10, scheduledOn 11, scheduledOn 12, scheduledOn 1] freshWorld = w at *
  obtain ⟨success, hsuccess, hname⟩ := Option.map_eq_some_iff.mp hlost.1
  obtain ⟨⟨children, hentry⟩, -⟩ := hlasts success hsuccess
  rw [hname] at hentry
  simp [hentry] at hlost

end Sample
end FrameNest.Backups
