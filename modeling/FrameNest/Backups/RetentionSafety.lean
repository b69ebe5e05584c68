import FrameNest.Backups.ExpiryLoop
import FrameNest.Text.Json

/-! What a whole retention pass may delete, and when it deletes all it should. -/
namespace FrameNest.Backups
open Concurrent Relational

inductive RetentionPass where
  | scheduled
  | expire (clock : Utc)

/-- The retention pass of a scheduled run, or `expire --apply`. -/
def retentionPass (readers : Readers) (config : CatalogBackupOpsConfig) :
    RetentionPass → BackupProgram Unit
  | .scheduled => do
    let _ ← scheduledRetention readers config
    pure ()
  | .expire clock => do
    let _ ← expireAutomaticBackups readers config true clock
    pure ()

/-- A complete bundle has a manifest that `json.loads` neither parses nor refuses as no JSON. -/
def HasUndecodableManifest (readers : Readers) (w : World) : Prop :=
  ∃ name children manifest catalog, Named.get? w.root name = some (.bundle children) ∧
    startsWith name "." = false ∧ bundleLooksComplete (Named.names children) = true ∧
    Named.get? children manifestName = some (.file manifest) ∧
    Named.get? children catalogName = some (.file catalog) ∧
    readers.loads manifest = .unreadable

/-- What is asked of a retention pass on a world. -/
structure DeletesOnlyWhatItMay (readers : Readers) (config : CatalogBackupOpsConfig)
    (pass : RetentionPass) (w : World) : Prop where
  /-- However early the pass is cut and whatever fails in it, a name that its next call
  changes for the first time is an eligible bundle at that moment. -/
  onlyEligible : ∀ is i name,
    Named.get? (Program.run (exec readers) is (retentionPass readers config pass) w).2.root name =
      Named.get? w.root name →
    Named.get? (Program.run (exec readers) (is ++ [i])
      (retentionPass readers config pass) w).2.root name ≠ Named.get? w.root name →
    Eligible readers (Program.run (exec readers) is (retentionPass readers config pass) w).2 name
  untouched : ∀ is name, ¬Eligible readers w name →
    Named.get? (Program.run (exec readers) is (retentionPass readers config pass) w).2.root name =
      Named.get? w.root name
  /-- A pass without a fault comes to its end. -/
  ends : ∀ stream : Nat → Moment, (∀ n, (stream n).fault = none) → ∃ n,
    (Program.run (exec readers) ((List.range n).map stream)
      (retentionPass readers config pass) w).1.settled = true
  /-- There the greatest `KEEP_AUTO` eligible bundles survive, and no other does. -/
  newestSurvive : ∀ is, (∀ i ∈ is, i.fault = none) →
    (Program.run (exec readers) is (retentionPass readers config pass) w).1.settled = true →
    (∀ name ∈ (newestEligible readers w).take config.keepAuto,
      Named.get? (Program.run (exec readers) is (retentionPass readers config pass) w).2.root name =
        Named.get? w.root name) ∧
    ∀ name ∈ (newestEligible readers w).drop config.keepAuto,
      Named.get? (Program.run (exec readers) is (retentionPass readers config pass) w).2.root name =
        none

section Passes
variable {readers : Readers} {config : CatalogBackupOpsConfig} {pass : RetentionPass} {w : World}

theorem undecodable_iff {children : Children} : Undecodable readers (.bundle children) ↔
    bundleLooksComplete (Named.names children) = true ∧ ∃ manifest catalog,
      Named.get? children manifestName = some (.file manifest) ∧
      Named.get? children catalogName = some (.file catalog) ∧
      readers.loads manifest = .unreadable := by
  refine and_congr_right fun hlooks => ?_
  have hstate : rejectUnexpectedBundleState children = .ok () := by
    simp only [bundleLooksComplete, Bool.and_eq_true] at hlooks
    simp only [rejectUnexpectedBundleState, hlooks.1.1.1, hlooks.2]
    rfl
  rw [verifyChildren_impolite]
  exact and_iff_right hstate

theorem troubled_iff : Troubled readers w ↔ HasUndecodableManifest readers w := by
  constructor
  · rintro ⟨name, entry, hentry, hshown, htrouble⟩
    cases entry with
    | bundle children =>
      obtain ⟨hlooks, manifest, catalog, h⟩ := undecodable_iff.mp htrouble
      exact ⟨name, children, manifest, catalog, hentry, hshown, hlooks, h⟩
    | file => exact htrouble.elim
    | symlink target => exact htrouble.elim
  · rintro ⟨name, children, manifest, catalog, hentry, hshown, hlooks, h⟩
    exact ⟨name, _, hentry, hshown, undecodable_iff.mpr ⟨hlooks, manifest, catalog, h⟩⟩

/-- Faults are permitted unless they are ruled out. -/
def withFaults (faultless : Prop) (_ : Unit) (i : Moment) (_ : Effect) (_ : World) : Prop :=
  faultless → i.fault = none

theorem faultless_withFaults (faultless : Prop) : Faultless (withFaults faultless) faultless :=
  fun hf _ _ _ _ hp => hp hf

/-- What a pass that ended without a fault has done. -/
structure Finished (readers : Readers) (keepAuto : Nat) (w t : World) : Prop where
  survive : ∀ name ∈ (newestEligible readers w).take keepAuto,
    Named.get? t.root name = Named.get? w.root name
  gone : ∀ name ∈ (newestEligible readers w).drop keepAuto, Named.get? t.root name = none

theorem Progress.finished {keepAuto : Nat} {t : World} {gone : List String}
    (h : Progress readers keepAuto w t gone []) : Finished readers keepAuto w t := by
  have hsplit : (newestEligible readers w).drop keepAuto = gone := by
    simpa using h.split
  have hnodup : (newestEligible readers w).Nodup := nodup_newestEligible
  rw [← List.take_append_drop keepAuto (newestEligible readers w), hsplit] at hnodup
  refine ⟨fun name hname => ?_, fun name hname => ?_⟩
  · have hkept : name ∉ gone := fun hgone => (List.nodup_append.mp hnodup).2.2 _ hname _ hgone rfl
    rw [h.root, if_neg hkept]
  · rw [hsplit] at hname
    rw [h.root, if_pos hname]

theorem Progress.start {keepAuto : Nat} {t : World} (hsame : Same w t) (hreadable : ¬w.Rejected)
    (hdecodable : ¬Troubled readers w) :
    Progress readers keepAuto w t [] ((newestEligible readers w).drop keepAuto) where
  split := rfl
  root n := by simp [hsame.root]
  ledger n := by simp [hsame.ledger]
  readable hrejected := hreadable (hsame.rejected_iff.mp hrejected)
  decodable := hdecodable

theorem rejected_empty (h : w.Rejected) : newestEligible readers w = [] := by
  obtain ⟨code, hcode⟩ := h
  refine List.eq_nil_iff_forall_not_mem.mpr fun name hname => ?_
  have hledger := (mem_newestEligible.mp hname).ledgered
  simp [World.ledgerIds, hcode] at hledger

/- Where a pass ends, if nothing failed. -/
def PassEnd (readers : Readers) (faultless : Prop) (keepAuto : Nat) (w t : World) : Prop :=
  faultless → (Troubled readers w → t.root = w.root) ∧
    (¬Troubled readers w → Finished readers keepAuto w t)

/-- A plan, the deletion loop over what it expires, and an end that leaves the root alone. -/
theorem planned_loop_secures {β : Type} (faultless : Prop)
    {onFailure : String → Failure → BackupProgram Unit}
    {f : RetentionPlan → List String → BackupProgram β}
    (hfail : ∀ n x u, Shrunk readers (Eligible readers w) w u →
      Secures (backupProtocol readers (withFaults faultless))
        (alone (Shrunk readers (Eligible readers w) w) (FirstWhileEligible readers w)) ()
        (fun r _ => ∃ y, r = .error y) (onFailure n x) u)
    (hend : ∀ plan deleted u, Secures (backupProtocol readers (withFaults faultless))
      (alone (Shrunk readers (Eligible readers w) w) (FirstWhileEligible readers w)) ()
      (fun _ v => Same u v) (f plan deleted) u) :
    Secures (backupProtocol readers (withFaults faultless))
      (alone (Shrunk readers (Eligible readers w) w) (FirstWhileEligible readers w)) ()
      (fun _ t => PassEnd readers faultless config.keepAuto w t)
      (do
        let plan ← buildRetentionPlan readers config
        let deleted ← expireEach readers config onFailure plan.expire []
        f plan deleted) w := by
  have hq := faultless_withFaults faultless
  refine Secures.alone_seq (Secures.alone_keeps (Shrunk.refl w)
    (buildRetentionPlan_secures hq tolerant_shrunk config (Same.refl w)))
    (fun plan t h => ?_) fun x t h hf => ⟨fun _ => h.1.1.root, fun hdecodable => ?_⟩
  · obtain ⟨⟨hsame, ⟨ids, hplanned⟩, hdecodable, hreadable, -⟩, hinv⟩ := h
    have hmay : ∀ u plan' ids', Shrunk readers (Eligible readers w) w u →
        Planned readers faultless u config.keepAuto plan' ids' →
        (∃ i v, Same u v ∧ withFaults faultless () i .iterdir v) →
        ∀ n ∈ plan'.expire, Eligible readers w n := by
      intro u plan' ids' hu hplanned' _ n hn
      rw [hplanned'.expire] at hn
      exact (hu.eligible (hplanned'.eligible n (List.mem_of_mem_drop hn))).2
    have hstart : faultless → ∃ gone, Progress readers config.keepAuto w t gone plan.expire := by
      intro hf
      refine ⟨[], ?_⟩
      rw [hplanned.expire, hplanned.complete hf]
      exact Progress.start hsame hreadable (hdecodable hf)
    refine Secures.alone_seq (expireEach_secures hq config hfail hmay plan.expire [] hinv hstart)
      (fun deleted u h => ?_) fun x u h hf => absurd hf h
    refine Secures.mono (fun _ v hv hf => ?_) (hend plan deleted u)
    obtain ⟨gone, hgone⟩ := h hf
    exact ⟨fun htrouble => absurd htrouble (hdecodable hf), fun _ => (hgone.same hv).finished⟩
  · obtain htrouble | hrejected := h.1.2 hf
    · exact absurd htrouble hdecodable
    · have hempty : newestEligible readers w = [] := rejected_empty hrejected
      exact ⟨by simp [hempty], by simp [hempty]⟩

theorem retentionPass_secures (faultless : Prop) :
    Secures (backupProtocol readers (withFaults faultless))
      (alone (Shrunk readers (Eligible readers w) w) (FirstWhileEligible readers w)) ()
      (fun _ t => PassEnd readers faultless config.keepAuto w t)
      (retentionPass readers config pass) w := by
  have hq := faultless_withFaults faultless
  cases pass with
  | scheduled =>
    refine Secures.alone_seq (planned_loop_secures faultless (fun n x u _ => ⟨x, rfl⟩)
      fun plan deleted u => ?_) (fun _ t h => h) fun _ t h => h
    refine Secures.ite (fun _ => Same.refl u) fun _ => ?_
    refine quiet_bind hq tolerant_shrunk (Same.refl u) rfl (fun i v now _ hv _ => ?_)
      fun i v x hv _ => hv
    exact quiet_bind hq tolerant_shrunk hv rfl (fun i v' _ _ hv' _ => hv') fun i v' x hv' _ => hv'
  | expire clock =>
    refine Secures.alone_seq (planned_loop_secures faultless
      (fun n x u _ => recordExpireFailure_secures hq clock n x) fun plan deleted u => ?_)
      (fun _ t h => h) fun _ t h => h
    exact quiet_bind hq tolerant_shrunk (Same.refl u) rfl (fun i v' _ _ hv' _ => hv')
      fun i v' x hv' _ => hv'

theorem permitted_all {faultless : Prop} {is : List Moment}
    (h : faultless → ∀ i ∈ is, i.fault = none) {α : Type} (p : BackupProgram α) (s : World) :
    Permitted (backupProtocol readers (withFaults faultless)) is p () s := by
  induction is generalizing p s with
  | nil => cases p <;> trivial
  | cons i is ih =>
    cases p with
    | done a => trivial
    | fail x => trivial
    | call e next =>
      exact ⟨fun hf => h hf i (by simp), ih (fun hf j hj => h hf j (by simp [hj])) _ _⟩

/-- Where a faultless pass comes to its end. -/
theorem pass_ended {is : List Moment} (h : ∀ i ∈ is, i.fault = none)
    (hsettled : (Program.run (exec readers) is (retentionPass readers config pass) w).1.settled =
      true) : PassEnd readers True config.keepAuto w
      (Program.run (exec readers) is (retentionPass readers config pass) w).2 := by
  have hrun : Secures (backupProtocol readers (withFaults True))
      (alone (Shrunk readers (Eligible readers w) w) (FirstWhileEligible readers w)) ()
      (fun _ t => PassEnd readers True config.keepAuto w t)
      (Program.run (exec readers) is (retentionPass readers config pass) w).1
      (Program.run (exec readers) is (retentionPass readers config pass) w).2 :=
    (Secures.alone_run (fun _ _ _ _ => rfl) (retentionPass_secures True) (Shrunk.refl w) is
      (permitted_all (fun _ => h) _ _)).2
  generalize (Program.run (exec readers) is (retentionPass readers config pass) w).1 = p at *
  cases p with
  | done a => exact hrun
  | fail x => exact hrun
  | call e next => cases hsettled

/-- A call that meets no fault. -/
def calmMoment : Moment := ⟨none, false, ⟨2026, 1, 1, 0, 0, 0⟩, "00000000", by decide, "", none⟩

/-- A manifest that cannot be decoded stops the pass before its first deletion. -/
theorem stopped_pass (h : DeletesOnlyWhatItMay readers config pass w) :
    (newestEligible readers w).length ≤ config.keepAuto ∨ ¬HasUndecodableManifest readers w := by
  by_cases hmanifest : HasUndecodableManifest readers w
  · refine Or.inl (Nat.le_of_not_lt fun hlong => ?_)
    obtain ⟨n, hsettled⟩ := h.ends (fun _ => calmMoment) fun _ => rfl
    have hcalm : ∀ i ∈ (List.range n).map fun _ => calmMoment, i.fault = none := by
      intro i hi
      obtain ⟨m, -, rfl⟩ := List.mem_map.mp hi
      rfl
    have hnonempty : (newestEligible readers w).drop config.keepAuto ≠ [] := by
      simpa using hlong
    obtain ⟨name, hname⟩ := List.exists_mem_of_ne_nil _ hnonempty
    have hgone := (h.newestSurvive _ hcalm hsettled).2 name hname
    rw [(pass_ended hcalm hsettled trivial).1 (troubled_iff.mpr hmanifest)] at hgone
    have heligible : Eligible readers w name := mem_newestEligible.mp (List.mem_of_mem_drop hname)
    have hthere := Named.mem_names.mp heligible.mem_names
    simp [hgone] at hthere
  · exact Or.inr hmanifest

end Passes

section Sample

/- One complete bundle of a root: its two files. -/
def sampleBundle (manifest catalog : Bytes) : Entry :=
  .bundle ⟨[(manifestName, .file manifest), (catalogName, .file catalog)], by
    simp [manifestName, catalogName]⟩

def sampleDigest : String := String.ofList (List.replicate 64 '0')

def sampleCatalog : Bytes := [83, 81, 76]

/- The text of a manifest, its keys sorted. -/
def sampleManifest (now : Utc) : Bytes :=
  (Json.dumps (.obj [
    ("algorithms", .obj [("digest", .str "sha256"),
      ("sqlite_integrity", .str "pragma_integrity_check")]),
    ("application", .obj [("name", .str "framenest"), ("version", .str "1.0.0")]),
    ("catalog", .obj [("alembic_revision", .str "0001"), ("logical_name", .str catalogName),
      ("sha256", .str sampleDigest), ("size_bytes", .int 3)]),
    ("created_at_utc", .str now.format),
    ("excluded_state", .arr (excludedState.map .str)),
    ("included_state", .arr (includedState.map .str)),
    ("schema_version", .int 1)])).map fun c => UInt8.ofNat c.toNat

def sampleDay (day : Nat) : Utc := ⟨2026, 1, day, 0, 0, 0⟩

/- `json.loads` of the manifests that occur here; 0xff begins no UTF-8 text. -/
def sampleReaders : Readers where
  loads content :=
    if content = [0xff] then .unreadable
    else match (List.range 32).find? fun day => sampleManifest (sampleDay day) = content with
      | some day => .value (buildManifest "1.0.0" (sampleDay day) ⟨3, sampleDigest, "0001"⟩)
      | none => .notJson
  dumps _ := []
  sha256 _ := sampleDigest
  integrityCheck _ := true
  foreignKeyCheck _ := true
  catalogRevision _ := some "0001"
  semanticCounts _ := some []
  isDecimal c := '0' ≤ c && c ≤ '9'
  decimal_digits := by simp
  separators_undecimal := by simp
  applicationVersion := "1.0.0"

def sampleName (day : Nat) : String :=
  String.ofList ("auto-".toList ++ (sampleDay day).stamp.toList ++ "-0000000a".toList)

/- Four automatic bundles, and one that an operator pinned and whose manifest is damaged. -/
def sampleRoot : Root :=
  ⟨[1, 2, 3, 4].map (fun day => (sampleName day,
      sampleBundle (sampleManifest (sampleDay day)) sampleCatalog)) ++
    [("before-upgrade", sampleBundle [0xff] sampleCatalog)], by decide +kernel⟩

def sampleLedgerEntry (day : Nat) : LedgerEntry :=
  ⟨sampleName day, (sampleDay day).format, sampleDigest, "0001"⟩

def sampleWorld : World :=
  ⟨sampleRoot, .loaded { Status.empty (sampleDay 5) with
    autoLedger := [1, 2, 3, 4].map sampleLedgerEntry }, [], .empty⟩

end Sample
end FrameNest.Backups
