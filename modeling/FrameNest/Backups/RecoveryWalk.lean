import FrameNest.Backups.RecoveryPoint

/-! What a scheduled run records: a bundle it has verified and restored, beside all that was
recorded before. -/
namespace FrameNest.Backups
open Concurrent Relational

variable {γ : Type} {readers : Readers} {permits : γ → Moment → Effect → World → Prop} {g : γ}
  {w s : World}

section Names

theorem digit_mem (n : Nat) : Utc.digit n ∈ "0123456789".toList := by
  have hall : ∀ m < 10, Char.ofNat (48 + m) ∈ "0123456789".toList := by decide
  exact hall _ (Nat.mod_lt n (by decide))

theorem digit_decimal (n : Nat) : readers.isDecimal (Utc.digit n) = true :=
  readers.decimal_digits _ (digit_mem n)

/-- An allocated name has the accepted form. -/
theorem automaticName_automatic (clock : Utc) {token : String} (h : isTokenHex4 token = true) :
    isAutomaticBundleName readers (automaticName clock token) = true := by
  simp only [isTokenHex4, Bool.and_eq_true, decide_eq_true_eq] at h
  obtain ⟨hlength, hhex⟩ := h
  have hlist : (automaticName clock token).toList =
      "auto-".toList ++ (Utc.four clock.year ++ Utc.two clock.month ++ Utc.two clock.day ++
        'T' :: Utc.two clock.hour ++ Utc.two clock.minute ++ Utc.two clock.second ++ ['Z']) ++
        '-' :: token.toList := by
    simp [automaticName, Utc.stamp, String.toList_append]
  unfold isAutomaticBundleName
  rw [hlist]
  simp [Utc.four, Utc.two, digit_decimal, hlength]
  simpa using hhex

end Names

theorem allocateBundle_secures (clock : Utc) (h : Still w s) :
    Secures (backupProtocol readers permits) (alone (Kept readers) fun _ _ => True) g
      (fun r t => Still w t ∧ ∀ name, r = .ok name → isAutomaticBundleName readers name = true)
      (allocateBundle clock) s := by
  have htoken : ∀ {i : Moment} {u : World} {token : String},
      (perform readers i .tokenHex u).1 = .ok token →
      isAutomaticBundleName readers (automaticName clock token) = true := by
    intro i u token hi
    have heq : i.token = token := Except.ok.inj hi
    exact automaticName_automatic clock (heq ▸ i.isToken)
  refine quiet_bind anyFaults tolerant_kept (Same.refl s) rfl (fun i t₁ token _ h₁ hi => ?_)
    fun _ t _ ht _ => ⟨h.trans ht.still, fun _ hx => (nomatch hx)⟩
  refine quiet_bind anyFaults tolerant_kept h₁ rfl (fun _ t₂ taken _ h₂ _ => ?_)
    fun _ t _ ht _ => ⟨h.trans ht.still, fun _ hx => (nomatch hx)⟩
  refine Secures.ite (fun _ => ⟨h.trans h₂.still, ?_⟩) fun _ => ?_
  · rintro name hname
    cases hname
    exact htoken hi
  refine quiet_bind anyFaults tolerant_kept h₂ rfl (fun j t₃ token' _ h₃ hj => ?_)
    fun _ t _ ht _ => ⟨h.trans ht.still, fun _ hx => (nomatch hx)⟩
  refine quiet_bind anyFaults tolerant_kept h₃ rfl (fun _ t₄ taken' _ h₄ _ => ?_)
    fun _ t _ ht _ => ⟨h.trans ht.still, fun _ hx => (nomatch hx)⟩
  refine Secures.alone_seq (demandOps_leaves (h.trans h₄.still)) (fun _ t ht => ⟨ht, ?_⟩)
    fun _ t ht => ⟨ht, fun _ hx => (nomatch hx)⟩
  rintro name hname
  cases hname
  exact htoken hj

theorem perform_restore {i : Moment} {name destination : String} {u : Unit}
    (h : (perform readers i (.restoreCatalogBackup name destination) s).1 = .ok u) :
    ∃ content, catalogContent (Named.get? s.root name) = some content ∧
      Named.get? (perform readers i (.restoreCatalogBackup name destination) s).2.restored
        destination = some content := by
  simp only [perform, restore] at h ⊢
  split at h
  · rename_i content _ hcontent
    split at h
    · rename_i restored hput
      refine ⟨content, hcontent, ?_⟩
      simp [(Named.put?_some hput).2]
    · cases h
  · cases h
  · cases h

theorem removeDisposable_secures {u : World} (destination : String) (h : Same s u) :
    Secures (backupProtocol readers permits) (alone (Kept readers) fun _ _ => True) g
      (fun _ t => Same s t) (removeDisposable destination) u := by
  have hunlink : Secures (backupProtocol readers permits) (alone (Kept readers) fun _ _ => True) g
      (fun _ t => Same s t)
      (unlinkRestored destination >>= fun _ => (pure false : BackupProgram Bool)) u :=
    quiet_bind anyFaults tolerant_kept h rfl (fun _ t _ _ ht _ => ht) fun _ t _ ht _ => ht
  have hrescued : Secures (backupProtocol readers permits) (alone (Kept readers) fun _ _ => True) g
      (fun _ t => Same s t) ((unlinkRestored destination >>= fun _ => pure false).rescue fun x =>
        if x.isOSError then pure true else .fail x) u := by
    refine Secures.alone_rescue hunlink (fun _ _ ht => ht) fun x t ht => ?_
    exact Secures.ite (fun _ => ht) fun _ => ht
  refine Secures.alone_seq hrescued (fun _ t ht => ?_) fun _ _ ht => ht
  exact quiet_bind anyFaults tolerant_kept ht rfl (fun _ v _ _ hv _ => hv) fun _ v _ hv _ => hv

/-- A restore leaves the root alone, and the facts it reads are those of the catalog. -/
theorem restoreAndSemantic_secures (name : String) (verified : BackupResult) (clock : Utc) :
    Secures (backupProtocol readers permits) (alone (Kept readers) fun _ _ => True) g
      (fun r t => Same s t ∧ ∀ found, r = .ok found →
        ∃ content, catalogContent (Named.get? s.root name) = some content ∧
          captureSemanticSnapshot readers content = .ok found.1)
      (restoreAndSemantic name verified clock) s := by
  refine quiet_bind anyFaults tolerant_kept (Same.refl s) rfl (fun _ t₁ token _ h₁ _ => ?_)
    fun _ t _ ht _ => ⟨ht, fun _ hx => (nomatch hx)⟩
  generalize disposableName name clock token = disposable
  refine quiet_bind anyFaults tolerant_kept h₁ rfl (fun _ t₂ taken _ h₂ _ => ?_)
    fun _ t _ ht _ => ⟨ht, fun _ hx => (nomatch hx)⟩
  refine Secures.alone_seq (Secures.ite (fun _ => h₂) fun _ => h₂ :
    Secures _ _ _ (fun _ t => Same s t) (demandOps (!taken) .destinationExists) t₂)
    (fun _ t₃ h₃ => ?_) fun _ t ht => ⟨ht, fun _ hx => (nomatch hx)⟩
  have hquiet : ∀ {e : Effect} {u : World}, e.isQuiet = true → Kept readers u →
      ∀ i, permits g i e u → Kept readers (perform readers i e u).2 ∧ True :=
    fun he hinv _ _ => ⟨hinv.same (perform_quiet he), trivial⟩
  have hfailed : ∀ {e : Effect} {u t : World} {i : Moment}, e.isQuiet = true → Same s u →
      (t = (perform readers i e u).2 ∨ t = u) → Same s t := by
    rintro e u t i he hu (rfl | rfl)
    · exact hu.trans (perform_quiet he)
    · exact hu
  refine call_bind anyFaults trivial (hquiet rfl) (fun _ i _ hrestore _ => ?_)
    fun _ t _ ht _ => ⟨hfailed rfl h₃ ht, fun _ hx => (nomatch hx)⟩
  obtain ⟨content, hcontent, hrestored⟩ := perform_restore hrestore
  have h₄ : Same s (perform readers i (.restoreCatalogBackup name disposable) t₃).2 :=
    h₃.trans (perform_quiet rfl)
  generalize (perform readers i (.restoreCatalogBackup name disposable) t₃).2 = t₄ at *
  refine call_bind anyFaults trivial (hquiet rfl) (fun _ j _ _ _ => ?_)
    fun _ t _ ht _ => ⟨hfailed rfl h₄ ht, fun _ hx => (nomatch hx)⟩
  change Secures _ _ _ _ _ t₄
  refine quiet_bind anyFaults tolerant_kept h₄ rfl (fun k t₅ semantic _ h₅ hsemantic => ?_)
    fun _ t _ ht _ => ⟨ht, fun _ hx => (nomatch hx)⟩
  have hread : captureSemanticSnapshot readers content = .ok semantic := by
    simp only [perform, hrestored] at hsemantic
    exact hsemantic
  have hfound : catalogContent (Named.get? s.root name) = some content := by
    rw [← h₃.root]
    exact hcontent
  refine Secures.alone_seq (Secures.ite (fun _ => h₅) fun _ => h₅ : Secures _ _ _
    (fun _ t => Same s t) (demandOps (semantic.alembicRevision = verified.alembicRevision)
      .restoreRevisionMismatch) t₅)
    (fun _ t₆ h₆ => ?_) fun _ t ht => ⟨ht, fun _ hx => (nomatch hx)⟩
  refine Secures.alone_seq (removeDisposable_secures disposable h₆)
    (fun pending t₇ h₇ => ⟨h₇, ?_⟩) fun _ t ht => ⟨ht, fun _ hx => (nomatch hx)⟩
  rintro found hok
  cases hok
  exact ⟨content, hfound, hread⟩

theorem demandOps_same {b : Bool} {code : ErrorCode} {u : World} (h : Same s u) :
    Secures (backupProtocol readers permits) (alone (Kept readers) fun _ _ => True) g
      (fun _ t => Same s t) (demandOps b code) u :=
  Secures.ite (fun _ => h) fun _ => h

/-- The evidence of a verification and of a restore, of one bundle in one root. -/
theorem restorable_of {u : World} {bundleId : String} {verified : BackupResult}
    {semantic : SemanticSnapshot} {content : Bytes} {completed : String} {attemptSeq : Nat}
    (hauto : isAutomaticBundleName readers bundleId = true)
    (hverified : verifyCatalogBackup readers (Named.get? u.root bundleId) = .ok verified)
    (hcontent : catalogContent (Named.get? u.root bundleId) = some content)
    (hsemantic : captureSemanticSnapshot readers content = .ok semantic) :
    Restorable readers u ⟨bundleId, completed, verified.catalogSha256, verified.alembicRevision,
      verified.catalogSizeBytes, semantic, attemptSeq⟩ := by
  refine ⟨hauto, ?_⟩
  cases hentry : Named.get? u.root bundleId with
  | none =>
    rw [hentry] at hverified
    cases hverified
  | some entry =>
    rw [hentry] at hverified hcontent
    cases entry with
    | bundle children =>
      refine ⟨children, content, rfl, hverified, ?_, hsemantic⟩
      simp only [catalogContent] at hcontent
      split at hcontent
      · rename_i found hfound
        rw [hfound, ← Option.some.inj hcontent]
      · cases hcontent
    | file => cases hverified
    | symlink target => cases hverified

/-- A run that gets so far has made a bundle that can be restored. -/
theorem scheduledBundle_secures (clock : Utc) (attemptSeq : Nat) (hinv : Kept readers s) :
    Secures (backupProtocol readers permits) (alone (Kept readers) fun _ _ => True) g
      (fun r t => Still s t ∧ ∀ made, r = .ok made → Restorable readers t made.1)
      (scheduledBundle clock attemptSeq) s := by
  refine Secures.alone_seq (Leaves.quiet (Still.refl s) rfl) (fun _ t₁ h₁ => ?_)
    fun _ t ht => ⟨ht, fun _ hx => (nomatch hx)⟩
  refine Secures.alone_seq (Leaves.quiet h₁ rfl) (fun isFile t₂ h₂ => ?_)
    fun _ t ht => ⟨ht, fun _ hx => (nomatch hx)⟩
  refine Secures.alone_seq (demandOps_leaves h₂) (fun _ t₃ h₃ => ?_)
    fun _ t ht => ⟨ht, fun _ hx => (nomatch hx)⟩
  refine Secures.alone_seq (allocateBundle_secures clock h₃) (fun bundleId t₄ h₄ => ?_)
    fun _ t ht => ⟨ht.1, fun _ hx => (nomatch hx)⟩
  have hauto : isAutomaticBundleName readers bundleId = true := h₄.2 bundleId rfl
  refine Secures.alone_seq (createCatalogBackup_leaves h₄.1 fun _ hname =>
    hinv.apart_of_manual hname) (fun created t₅ h₅ => ?_)
    fun _ t ht => ⟨ht, fun _ hx => (nomatch hx)⟩
  refine quiet_bind anyFaults tolerant_kept (Same.refl t₅) rfl
    (fun _ t₆ verified _ h₆ hverified => ?_)
    fun _ t _ ht _ => ⟨h₅.trans ht.still, fun _ hx => (nomatch hx)⟩
  have hverified : verifyCatalogBackup readers (Named.get? t₅.root bundleId) = .ok verified :=
    hverified
  refine Secures.alone_seq (demandOps_same h₆) (fun _ t₇ h₇ => ?_)
    fun _ t ht => ⟨h₅.trans ht.still, fun _ hx => (nomatch hx)⟩
  refine quiet_bind anyFaults tolerant_kept h₇ rfl (fun _ t₈ stillFile _ h₈ _ => ?_)
    fun _ t _ ht _ => ⟨h₅.trans ht.still, fun _ hx => (nomatch hx)⟩
  refine Secures.alone_seq (demandOps_same h₈) (fun _ t₉ h₉ => ?_)
    fun _ t ht => ⟨h₅.trans ht.still, fun _ hx => (nomatch hx)⟩
  refine Secures.alone_seq (restoreAndSemantic_secures bundleId verified clock)
    (fun restored u hu => ?_)
    fun _ t ht => ⟨h₅.trans (h₉.trans ht.1).still, fun _ hx => (nomatch hx)⟩
  obtain ⟨content, hcontent, hsemantic⟩ := hu.2 restored rfl
  have hsame : Same t₅ u := h₉.trans hu.1
  refine Secures.alone_seq (demandOps_same hsame) (fun _ v hv => ⟨h₅.trans hv.still, ?_⟩)
    fun _ t ht => ⟨h₅.trans ht.still, fun _ hx => (nomatch hx)⟩
  rintro made hmade
  cases hmade
  refine restorable_of hauto ?_ ?_ hsemantic
  · rw [hv.root]
    exact hverified
  · rw [hv.root, ← h₉.root]
    exact hcontent

end FrameNest.Backups
