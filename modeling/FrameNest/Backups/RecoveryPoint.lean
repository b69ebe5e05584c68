import FrameNest.Backups.ExpiryLoop
import FrameNest.Backups.Scheduled

/-! The recorded recovery point: what the status file promises of it, and the calls of the
backup operations that leave it alone. -/
namespace FrameNest.Backups
open Concurrent Relational

variable {γ : Type} {readers : Readers}

/-- What a recorded success says, true of a world: an automatic bundle that still verifies
as it did, with the semantic facts read from its catalog. -/
structure Restorable (readers : Readers) (w : World) (success : ScheduledSuccess) : Prop where
  automatic : isAutomaticBundleName readers success.bundleId = true
  bundle : ∃ children catalog, Named.get? w.root success.bundleId = some (.bundle children) ∧
    verifyChildren readers children =
      .ok ⟨success.catalogSizeBytes, success.catalogSha256, success.alembicRevision⟩ ∧
    Named.get? children catalogName = some (.file catalog) ∧
    captureSemanticSnapshot readers catalog = .ok success.semantic

/-- The recorded success is restorable and in the ledger. -/
def Kept (readers : Readers) (w : World) : Prop :=
  ∀ success, w.lastSuccess = some success →
    Restorable readers w success ∧ success.bundleId ∈ w.ledgerIds

/-- The selection of the recovery point succeeds on it. -/
theorem Kept.selects {w : World} (h : Kept readers w) {success : ScheduledSuccess}
    (hs : w.lastSuccess = some success) : ∃ selected,
      selectLatestSuccessful readers w = .ok selected ∧ selected.recordedSuccess = success := by
  obtain ⟨⟨hauto, children, catalog, hentry, hverify, hcatalog, hsemantic⟩, hledger⟩ := h success hs
  cases hstatus : w.status with
  | absent => simp [World.lastSuccess, hstatus] at hs
  | rejected code => simp [World.lastSuccess, hstatus] at hs
  | loaded status =>
    simp only [World.lastSuccess, hstatus] at hs
    simp only [World.ledgerIds, hstatus] at hledger
    refine ⟨⟨success.bundleId, ⟨success.catalogSizeBytes, success.catalogSha256,
      success.alembicRevision⟩, success.semantic, success⟩, ?_, rfl⟩
    simp [selectLatestSuccessful, hstatus, hs, hauto, hledger, hentry, hverify, demand, bind,
      Except.bind, existingRegularFile_ok.mpr hcatalog, hsemantic, pure, Except.pure]

section Leaving
variable {s t w : World} {name : String}

/-- Two worlds with one ledger and one recorded success. -/
structure Still (s t : World) : Prop where
  ledger : t.ledgerIds = s.ledgerIds
  lastSuccess : t.lastSuccess = s.lastSuccess
  rejected : ∀ code, t.status = .rejected code ↔ s.status = .rejected code

theorem Still.refl (s : World) : Still s s := ⟨rfl, rfl, fun _ => Iff.rfl⟩

theorem Still.trans {u : World} (h : Still s t) (h' : Still t u) : Still s u :=
  ⟨h'.ledger.trans h.ledger, h'.lastSuccess.trans h.lastSuccess,
    fun code => (h'.rejected code).trans (h.rejected code)⟩

theorem Same.still (h : Same s t) : Still s t := ⟨h.ledger, h.lastSuccess, h.rejected⟩

theorem OnlyAt.still (h : OnlyAt name s t) : Still s t := ⟨h.ledger, h.lastSuccess, h.rejected⟩

/-- The recorded success is another bundle. -/
def Apart (w : World) (name : String) : Prop :=
  ∀ success, w.lastSuccess = some success → success.bundleId ≠ name

theorem Apart.still (h : Apart s name) (hst : Still s t) : Apart t name :=
  fun success hs => h success (hst.lastSuccess ▸ hs)

theorem Kept.onlyAt (h : Kept readers s) (ho : OnlyAt name s t) (ha : Apart s name) :
    Kept readers t := by
  intro success hs
  rw [ho.lastSuccess] at hs
  obtain ⟨⟨hauto, hbundle⟩, hledger⟩ := h success hs
  refine ⟨⟨hauto, ?_⟩, ho.ledger ▸ hledger⟩
  rw [ho.root _ (Ne.symm (ha success hs))]
  exact hbundle

theorem Kept.same (h : Kept readers s) (hst : Same s t) : Kept readers t := by
  intro success hs
  rw [hst.lastSuccess] at hs
  obtain ⟨⟨hauto, hbundle⟩, hledger⟩ := h success hs
  exact ⟨⟨hauto, hst.root ▸ hbundle⟩, hst.ledger ▸ hledger⟩

/-- A free name is not that of the recorded bundle. -/
theorem Kept.apart (h : Kept readers s) (hfree : Named.get? s.root name = none) : Apart s name := by
  rintro success hs rfl
  obtain ⟨⟨-, children, catalog, hentry, -⟩, -⟩ := h success hs
  rw [hfree] at hentry
  cases hentry

theorem Kept.apart_of_manual (h : Kept readers s)
    (hname : isAutomaticBundleName readers name = false) : Apart s name := by
  rintro success hs rfl
  rw [(h success hs).1.automatic] at hname
  cases hname

end Leaving

/-- The one name of the root a call can change. -/
def Effect.touches : Effect → Option String
  | .unlink name _ | .rmdir name | .mkdir name | .onlineBackup name | .writeManifest name _
  | .link _ name _ | .rmtree name => some name
  | _ => none

section Touching
variable {i : Moment} {s : World} {name : String}

theorem onBundle_onlyAt (name : String) (f : Children → Option Children) (s : World) :
    OnlyAt name s (onBundle name f s).2 := by
  unfold onBundle
  split
  · split
    · refine ⟨fun other hne => ?_, rfl, rfl, fun _ => Iff.rfl⟩
      simp [Named.get?_set, hne]
    · exact OnlyAt.refl _ _
  · exact OnlyAt.refl _ _

theorem perform_touches {e : Effect} (h : e.touches = some name) :
    OnlyAt name s (perform readers i e s).2 := by
  cases e with
  | unlink n file =>
    cases h
    exact onBundle_onlyAt _ _ _
  | onlineBackup n =>
    cases h
    simp only [perform]
    split
    · exact onBundle_onlyAt _ _ _
    · exact OnlyAt.refl _ _
  | writeManifest n result =>
    cases h
    exact onBundle_onlyAt _ _ _
  | link source n file =>
    cases h
    simp only [perform, linkFile]
    split
    · split
      · split
        · exact OnlyAt.refl _ _
        · exact onBundle_onlyAt _ _ _
      · exact OnlyAt.refl _ _
    · exact OnlyAt.refl _ _
  | rmtree n =>
    cases h
    refine ⟨fun other hne => ?_, rfl, rfl, fun _ => Iff.rfl⟩
    simp [perform, Named.get?_erase, hne]
  | rmdir n =>
    cases h
    simp only [perform]
    split
    · split
      · refine ⟨fun other hne => ?_, rfl, rfl, fun _ => Iff.rfl⟩
        simp [Named.get?_erase, hne]
      · exact OnlyAt.refl _ _
    · exact OnlyAt.refl _ _
  | mkdir n =>
    cases h
    simp only [perform]
    split
    · rename_i root hroot
      refine ⟨fun other hne => ?_, rfl, rfl, fun _ => Iff.rfl⟩
      simp [(Named.put?_some hroot).2, hne]
    · exact OnlyAt.refl _ _
  | _ => cases h

/-- A directory is made under a free name only. -/
theorem perform_mkdir : Named.get? s.root name = none ∨
    (perform readers i (.mkdir name) s).2 = s := by
  simp only [perform]
  split
  · rename_i root hroot
    exact Or.inl (Named.put?_some hroot).1
  · exact Or.inr rfl

end Touching

theorem anyFaults {permits : γ → Moment → Effect → World → Prop} : Faultless permits False :=
  False.elim

theorem tolerant_kept : Tolerant (Kept readers) fun _ _ => True :=
  ⟨fun _ _ hst h => h.same hst, fun _ _ _ => trivial⟩

/-- Programs that leave the ledger and the recorded success of `w` alone, whatever fails. -/
def Leaves {α : Type} (readers : Readers) (permits : γ → Moment → Effect → World → Prop) (g : γ)
    (w : World) (p : BackupProgram α) (s : World) : Prop :=
  Secures (backupProtocol readers permits) (alone (Kept readers) fun _ _ => True) g
    (fun _ t => Still w t) p s

section Leaving
variable {permits : γ → Moment → Effect → World → Prop} {g : γ} {w s : World} {α β : Type}

theorem Leaves.bind {p : BackupProgram α} {f : α → BackupProgram β}
    (hp : Leaves readers permits g w p s)
    (hf : ∀ a t, Still w t → Leaves readers permits g w (f a) t) :
    Leaves readers permits g w (p >>= f) s :=
  Secures.alone_seq hp hf fun _ _ h => h

theorem Leaves.rescue {p : BackupProgram α} {handler : Failure → BackupProgram α}
    (hp : Leaves readers permits g w p s)
    (hhandler : ∀ x t, Still w t → Leaves readers permits g w (handler x) t) :
    Leaves readers permits g w (p.rescue handler) s :=
  Secures.alone_rescue hp (fun _ _ h => h) hhandler

theorem Leaves.ite {c : Prop} [Decidable c] {p q : BackupProgram α}
    (hp : c → Leaves readers permits g w p s) (hq : ¬c → Leaves readers permits g w q s) :
    Leaves readers permits g w (if c then p else q) s :=
  Secures.ite hp hq

theorem Leaves.quiet {e : Effect} (h : Still w s) (he : e.isQuiet = true) :
    Leaves readers permits g w (Program.perform e) s :=
  quiet_perform anyFaults tolerant_kept (Same.refl s) he
    (fun _ _ _ ht _ => h.trans ht.still) fun _ _ _ ht _ => h.trans ht.still

theorem Leaves.touch {e : Effect} {name : String} (h : Still w s) (he : e.touches = some name)
    (hname : Apart w name) : Leaves readers permits g w (Program.perform e) s := by
  refine call_perform anyFaults trivial (fun hinv i _ => ⟨?_, trivial⟩)
    (fun _ i _ _ _ => h.trans (perform_touches he).still) fun i t x ht _ => ?_
  · exact hinv.onlyAt (perform_touches he) (hname.still h)
  · obtain rfl | rfl := ht
    · exact h.trans (perform_touches he).still
    · exact h

/-- A directory that was made is apart from the recorded bundle. -/
theorem mkdir_secures {name : String} (h : Still w s) :
    Secures (backupProtocol readers permits) (alone (Kept readers) fun _ _ => True) g
      (fun r t => Still w t ∧ ∀ u, r = .ok u → Apart w name)
      (Program.perform (Effect.mkdir name)) s := by
  refine call_perform anyFaults trivial (fun hinv i _ => ⟨?_, trivial⟩)
    (fun hinv i a ha _ => ⟨h.trans (perform_touches rfl).still, fun _ _ => ?_⟩)
    fun i t x ht _ => ⟨?_, fun _ hx => (nomatch hx)⟩
  · obtain hfree | hsame : Named.get? s.root name = none ∨
        (perform readers i (.mkdir name) s).2 = s := perform_mkdir
    · exact hinv.onlyAt (perform_touches rfl) (hinv.apart hfree)
    · rw [hsame]
      exact hinv
  · have hfree : Named.get? s.root name = none := by
      simp only [perform] at ha
      split at ha
      · rename_i root hroot
        exact (Named.put?_some hroot).1
      · cases ha
    intro success hs
    exact hinv.apart hfree success (h.lastSuccess ▸ hs)
  · obtain rfl | rfl := ht
    · exact h.trans (perform_touches rfl).still
    · exact h

end Leaving

section Creating
variable {permits : γ → Moment → Effect → World → Prop} {g : γ} {w s : World}

theorem demandBackup_leaves {b : Bool} {code : ErrorCode} (h : Still w s) :
    Leaves readers permits g w (demandBackup b code) s :=
  Leaves.ite (fun _ => h) fun _ => h

theorem demandOps_leaves {b : Bool} {code : ErrorCode} (h : Still w s) :
    Leaves readers permits g w (demandOps b code) s :=
  Leaves.ite (fun _ => h) fun _ => h

theorem ignoringOSError_leaves {p : BackupProgram Unit} (hp : Leaves readers permits g w p s) :
    Leaves readers permits g w (ignoringOSError p) s :=
  hp.rescue fun _ _ ht => Leaves.ite (fun _ => ht) fun _ => ht

theorem ensuring_leaves {α : Type} {p : BackupProgram α} {q : BackupProgram Unit}
    (hp : Leaves readers permits g w p s)
    (hq : ∀ t, Still w t → Leaves readers permits g w q t) :
    Leaves readers permits g w (ensuring p q) s := by
  refine Leaves.bind (hp.rescue fun x t ht => (hq t ht).bind fun _ u hu => hu) fun a t ht => ?_
  exact (hq t ht).bind fun _ u hu => hu

theorem removeOwnedTempBundle_leaves {temp : String} (h : Still w s) (htemp : Apart w temp) :
    Leaves readers permits g w (removeOwnedTempBundle temp) s := by
  refine (Leaves.quiet h rfl).bind fun entry t ht => ?_
  obtain _ | (_ | _ | _) := entry
  · exact ht
  · exact ignoringOSError_leaves (Leaves.touch ht rfl htemp)
  · exact ht
  · exact ht

theorem removeOwnedFinalBundle_leaves {bundle : String} (h : Still w s)
    (hbundle : Apart w bundle) : Leaves readers permits g w (removeOwnedFinalBundle bundle) s := by
  refine (ignoringOSError_leaves (Leaves.touch h rfl hbundle)).bind fun _ t ht => ?_
  refine (ignoringOSError_leaves (Leaves.touch ht rfl hbundle)).bind fun _ u hu => ?_
  exact ignoringOSError_leaves (Leaves.touch hu rfl hbundle)

theorem withdrawBundle_leaves {bundle : String} (h : Still w s) (hbundle : Apart w bundle)
    (x : Failure) : Leaves readers permits g w (withdrawBundle bundle x) s := by
  cases x with
  | fileExists => exact h
  | osError => exact (removeOwnedFinalBundle_leaves h hbundle).bind fun _ t ht => ht
  | operations code => exact (removeOwnedFinalBundle_leaves h hbundle).bind fun _ t ht => ht
  | backup code => exact (removeOwnedFinalBundle_leaves h hbundle).bind fun _ t ht => ht
  | other => exact h

theorem fillBundle_leaves {temp bundle : String} (h : Still w s) (hbundle : Apart w bundle) :
    Leaves readers permits g w (fillBundle temp bundle) s := by
  refine (Leaves.quiet h rfl).bind fun _ t ht => ?_
  refine (Leaves.touch ht rfl hbundle).bind fun _ u hu => ?_
  refine (Leaves.touch hu rfl hbundle).bind fun _ v hv => ?_
  exact (Leaves.quiet hv rfl).bind fun _ v' hv' => hv'

/-- Publishing touches a bundle only after having made its directory. -/
theorem publishBundleNoReplace_leaves {temp bundle : String} (h : Still w s)
    (htemp : Apart w temp) :
    Leaves readers permits g w (publishBundleNoReplace temp bundle) s := by
  have hdirectory : Secures (backupProtocol readers permits)
      (alone (Kept readers) fun _ _ => True) g
      (fun r t => Still w t ∧ ∀ u, r = .ok u → Apart w bundle)
      ((Program.perform (Effect.mkdir bundle)).rescue refusedDirectory) s := by
    refine Secures.alone_rescue (mkdir_secures h) (fun _ _ ht => ht) fun x t ht => ?_
    cases x <;> exact ⟨ht.1, fun _ hx => (nomatch hx)⟩
  refine Secures.alone_seq hdirectory (fun _ t ht => ?_) fun _ t ht => ht.1
  have hbundle : Apart w bundle := ht.2 _ rfl
  refine ((fillBundle_leaves ht.1 hbundle).rescue fun x u hu =>
    withdrawBundle_leaves hu hbundle x).bind fun _ u hu => ?_
  exact removeOwnedTempBundle_leaves hu htemp

theorem createInTemp_leaves {temp bundle : String} (h : Still w s) (htemp : Apart w temp) :
    Leaves readers permits g w (createInTemp temp bundle) s := by
  refine (Leaves.touch h rfl htemp).bind fun _ t₁ h₁ => ?_
  refine (Leaves.touch h₁ rfl htemp).bind fun _ t₂ h₂ => ?_
  refine (Leaves.quiet h₂ rfl).bind fun _ t₃ h₃ => ?_
  refine (Leaves.touch h₃ rfl htemp).bind fun _ t₄ h₄ => ?_
  refine (Leaves.quiet h₄ rfl).bind fun result t₅ h₅ => ?_
  refine (Leaves.quiet h₅ rfl).bind fun taken t₆ h₆ => ?_
  refine (demandBackup_leaves h₆).bind fun _ t₇ h₇ => ?_
  exact (publishBundleNoReplace_leaves h₇ htemp).bind fun _ t₈ h₈ => h₈

theorem temp_not_automatic (bundle token : String) :
    isAutomaticBundleName readers (tempPrefix ++ bundle ++ "." ++ token) = false := by
  have hfirst : (tempPrefix ++ bundle ++ "." ++ token).toList.take 5 = ".fram".toList := by
    simp [tempPrefix, String.toList_append]
  have hno : ".fram".toList ≠ "auto-".toList := by decide
  simp only [isAutomaticBundleName, hfirst, hno, decide_false, Bool.and_false, Bool.false_and]

theorem createCatalogBackup_leaves {bundle : String} (h : Still w s)
    (hw : ∀ name, isAutomaticBundleName readers name = false → Apart w name) :
    Leaves readers permits g w (createCatalogBackup bundle) s := by
  refine (Leaves.quiet h rfl).bind fun _ t₁ h₁ => ?_
  refine (demandBackup_leaves h₁).bind fun _ t₂ h₂ => ?_
  refine (Leaves.quiet h₂ rfl).bind fun _ t₃ h₃ => ?_
  refine (demandBackup_leaves h₃).bind fun _ t₄ h₄ => ?_
  refine (Leaves.quiet h₄ rfl).bind fun token t₅ h₅ => ?_
  have htemp := hw _ (temp_not_automatic bundle token)
  refine ensuring_leaves ((createInTemp_leaves h₅ htemp).rescue fun _ _ ht =>
    Leaves.ite (fun _ => ht) fun _ => ht) fun t ht => ?_
  exact removeOwnedTempBundle_leaves ht htemp

end Creating
end FrameNest.Backups
