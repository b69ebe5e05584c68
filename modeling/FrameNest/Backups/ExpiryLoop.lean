import FrameNest.Backups.Deletion

/-! The deletion loop of a retention pass: a plan before every deletion, the ledger after
it. Without a fault the loop deletes exactly what the first plan expired. -/
namespace FrameNest.Backups
open Concurrent Relational

variable {γ : Type} {readers : Readers} {permits : γ → Moment → Effect → World → Prop}
  {faultless : Prop} {g : γ} {may : String → Prop} {w s t : World} {name : String}

theorem filtered_ledger {status : Status} {n : String} :
    n ∈ (status.autoLedger.filter fun entry => entry.bundleId ≠ name).map LedgerEntry.bundleId ↔
      n ∈ status.ledgerIds ∧ n ≠ name := by
  simp only [Status.ledgerIds, List.mem_map, List.mem_filter, decide_eq_true_eq]
  constructor
  · rintro ⟨entry, ⟨hentry, hne⟩, rfl⟩
    exact ⟨⟨entry, hentry, rfl⟩, hne⟩
  · rintro ⟨⟨entry, hentry, rfl⟩, hne⟩
    exact ⟨entry, ⟨hentry, hne⟩, rfl⟩

theorem removeLedgerEntry_secures (hq : Faultless permits faultless)
    (hinv : Shrunk readers may w s) (hmay : may name) :
    Secures (backupProtocol readers permits)
      (alone (Shrunk readers may w) (FirstWhileEligible readers w)) g
      (fun r t => t.root = s.root ∧ match r with
        | .ok _ => (∀ n, n ∈ t.ledgerIds ↔ n ∈ s.ledgerIds ∧ n ≠ name) ∧ ¬t.Rejected
        | .error _ => faultless → s.Rejected) (removeLedgerEntry name) s := by
  refine quiet_bind hq tolerant_shrunk (Same.refl s) rfl (fun i s₁ status _ hs₁ hstatus => ?_)
    fun i t x ht hx => ⟨ht.root, fun hf => loadStatus_error (hx hf)⟩
  obtain ⟨hledger, hsuccess, -⟩ := loadStatus_ok hstatus
  have hinv₁ : Shrunk readers may w s₁ := tolerant_shrunk.inv _ _ hs₁ hinv
  have hids : ∀ (updated : String) n, n ∈ (World.ledgerIds { s₁ with status := .loaded { status with
      autoLedger := status.autoLedger.filter fun entry => entry.bundleId ≠ name
      updatedAtUtc := updated } }) ↔ n ∈ s.ledgerIds ∧ n ≠ name := by
    intro updated n
    rw [← hledger]
    exact filtered_ledger
  refine call_perform hq FirstWhileEligible.refl (fun _ i _ => ⟨?_, ?_⟩)
    (fun _ i _ _ _ => ⟨hs₁.root, fun n => hids _ n, ?_⟩) fun i t x ht hx => ⟨?_, fun hf => ?_⟩
  · refine ⟨hinv₁.entries, fun n hn => ?_, fun n hn hno => ?_, ?_⟩
    · exact hinv.ledger n ((hids _ n).mp hn).1
    · refine (hids _ n).mpr ⟨hinv.ledgered n hn hno, ?_⟩
      rintro rfl
      exact hno hmay
    · exact hsuccess.trans hinv.lastSuccess
  · exact fun n hsame hchanged => absurd hsame hchanged
  · rintro ⟨code, hcode⟩
    cases hcode
  · obtain rfl | rfl := ht
    · exact hs₁.root
    · exact hs₁.root
  · cases hx hf

/-- A failed deletion is recorded and raised again. -/
theorem recordExpireFailure_secures (hq : Faultless permits faultless) (clock : Utc) (n : String)
    (x : Failure) :
    Secures (backupProtocol readers permits)
      (alone (Shrunk readers may w) (FirstWhileEligible readers w)) g
      (fun r _ => ∃ y, r = .error y) (recordExpireFailure clock n x) s := by
  have hT : Tolerant (Shrunk readers may w) (FirstWhileEligible readers w) := tolerant_shrunk
  cases x with
  | operations code =>
    refine quiet_bind hq hT (Same.refl s) rfl
      (fun i t₁ status _ ht₁ hstatus => ?_) fun i u y _ _ => ⟨y, rfl⟩
    obtain ⟨hledger, hsuccess, hreadable⟩ := loadStatus_ok hstatus
    have hsame : ∀ i, Same t₁ (perform readers i (.writeStatus { status with
        recentFailure := some ⟨clock.format, code, .expire, none⟩ }) t₁).2 := by
      intro i
      exact writeStatus_same (hledger.trans ht₁.ledger.symm) (hsuccess.trans ht₁.lastSuccess.symm)
        fun h => hreadable (ht₁.rejected_iff.mp h)
    refine call_bind hq FirstWhileEligible.refl
      (fun hinv₁ i _ => ⟨hT.inv _ _ (hsame i) hinv₁, hT.guar _ _ (hsame i)⟩)
      (fun _ i _ _ _ => ?_) fun i u y _ _ => ⟨y, rfl⟩
    exact quiet_bind hq hT (Same.refl _) rfl (fun _ _ _ _ _ _ => ⟨_, rfl⟩)
      fun i u y _ _ => ⟨y, rfl⟩
  | backup code => exact ⟨_, rfl⟩
  | fileExists => exact ⟨_, rfl⟩
  | osError => exact ⟨_, rfl⟩
  | other => exact ⟨_, rfl⟩

/-- How far a faultless loop has come: the bundles in `gone` are deleted and struck from
the ledger, those in `rest` are still to go. -/
structure Progress (readers : Readers) (keepAuto : Nat) (w s : World) (gone rest : List String) :
    Prop where
  split : (newestEligible readers w).drop keepAuto = gone ++ rest
  root : ∀ n, Named.get? s.root n = if n ∈ gone then none else Named.get? w.root n
  ledger : ∀ n, n ∈ s.ledgerIds ↔ n ∈ w.ledgerIds ∧ n ∉ gone
  readable : ¬s.Rejected
  decodable : ¬Troubled readers w

namespace Progress
variable {keepAuto : Nat} {gone rest : List String}

theorem eligible (h : Progress readers keepAuto w s gone rest) {n : String} :
    Eligible readers s n ↔ Eligible readers w n ∧ n ∉ gone := by
  constructor
  · intro hn
    have hgone : n ∉ gone := ((h.ledger n).mp hn.ledgered).2
    obtain ⟨result, hresult⟩ := hn.verifies
    rw [h.root, if_neg hgone] at hresult
    exact ⟨⟨hn.automatic, ((h.ledger n).mp hn.ledgered).1, result, hresult⟩, hgone⟩
  · rintro ⟨hn, hgone⟩
    refine ⟨hn.automatic, (h.ledger n).mpr ⟨hn.ledgered, hgone⟩, ?_⟩
    rw [h.root, if_neg hgone]
    exact hn.verifies

/-- What is left is in the old order, without the deleted ones. -/
theorem newestEligible_eq (h : Progress readers keepAuto w s gone rest) :
    newestEligible readers s = (newestEligible readers w).take keepAuto ++ rest := by
  have hall : newestEligible readers w =
      (newestEligible readers w).take keepAuto ++ (gone ++ rest) := by
    rw [← h.split, List.take_append_drop]
  have hsub : ((newestEligible readers w).take keepAuto ++ rest).Sublist
      (newestEligible readers w) := by
    conv_rhs => rw [hall]
    exact (List.Sublist.refl _).append (List.sublist_append_right _ _)
  have hnodup : ((newestEligible readers w).take keepAuto ++ (gone ++ rest)).Nodup :=
    hall ▸ nodup_newestEligible
  have hmem : ∀ n, n ∈ (newestEligible readers w).take keepAuto ++ rest ↔
      Eligible readers w n ∧ n ∉ gone := by
    intro n
    constructor
    · intro hn
      refine ⟨mem_newestEligible.mp (hsub.subset hn), fun hgone => ?_⟩
      obtain hn | hn := List.mem_append.mp hn
      · exact (List.nodup_append.mp hnodup).2.2 n hn n (by simp [hgone]) rfl
      · exact (List.nodup_append.mp (List.nodup_append.mp hnodup).2.1).2.2 n hgone n hn rfl
    · rintro ⟨hn, hgone⟩
      have hin : n ∈ newestEligible readers w := mem_newestEligible.mpr hn
      rw [hall] at hin
      simpa [hgone] using hin
  refine newestFirst_unique keyAt_injective nodup_newestEligible (nodup_newestEligible.sublist hsub)
    pairwise_newestEligible ?_ fun n => ?_
  · refine (pairwise_newestEligible.sublist hsub).imp_of_mem fun {a b} ha hb hab => ?_
    have hkey : ∀ n, n ∉ gone → keyAt readers s n = keyAt readers w n := by
      intro n hn
      simp [keyAt, h.root, hn]
    simpa [notBehind, hkey a ((hmem a).mp ha).2, hkey b ((hmem b).mp hb).2] using hab
  · rw [mem_newestEligible, h.eligible, hmem]

theorem decodable_now (h : Progress readers keepAuto w s gone rest) : ¬Troubled readers s := by
  rintro ⟨n, entry, hentry, hshown, htrouble⟩
  rw [h.root] at hentry
  by_cases hgone : n ∈ gone
  · simp [hgone] at hentry
  · rw [if_neg hgone] at hentry
    exact h.decodable ⟨n, entry, hentry, hshown, htrouble⟩

/-- The next bundle to go is expired by the plan made now. -/
theorem expires {n : String} (h : Progress readers keepAuto w s gone (n :: rest)) :
    n ∈ (newestEligible readers s).drop keepAuto := by
  have hlong : keepAuto < (newestEligible readers w).length := by
    have hlength := congrArg List.length h.split
    simp only [List.length_drop, List.length_append, List.length_cons] at hlength
    omega
  rw [h.newestEligible_eq, List.drop_append_of_le_length (by simp; omega), List.drop_eq_nil_of_le]
  · simp
  · simp

/-- One bundle deleted and struck from the ledger. -/
theorem next {n : String} {u v : World} (h : Progress readers keepAuto w s gone (n :: rest))
    (hdeleted : OnlyAt n s u) (hgone : Named.get? u.root n = none) (hroot : v.root = u.root)
    (hledger : ∀ m, m ∈ v.ledgerIds ↔ m ∈ u.ledgerIds ∧ m ≠ n) (hreadable : ¬v.Rejected) :
    Progress readers keepAuto w v (gone ++ [n]) rest where
  split := by
    rw [h.split]
    simp
  root m := by
    rw [hroot]
    by_cases heq : n = m
    · subst heq
      simp [hgone]
    · rw [hdeleted.root m heq, h.root]
      simp [Ne.symm heq]
  ledger m := by
    rw [hledger, hdeleted.ledger, h.ledger]
    simp only [List.mem_append, List.mem_singleton, not_or, and_assoc]
  readable := hreadable
  decodable := h.decodable

theorem same {u : World} (h : Progress readers keepAuto w s gone rest) (hsame : Same s u) :
    Progress readers keepAuto w u gone rest where
  split := h.split
  root m := hsame.root ▸ h.root m
  ledger m := hsame.ledger ▸ h.ledger m
  readable hrejected := h.readable (hsame.rejected_iff.mp hrejected)
  decodable := h.decodable

end Progress

/-- The loop: whatever fails, only names that may be deleted go; without a fault, all of
them go. -/
theorem expireEach_secures (hq : Faultless permits faultless) (config : CatalogBackupOpsConfig)
    {onFailure : String → Failure → BackupProgram Unit}
    (hfail : ∀ n x u, Shrunk readers may w u → Secures (backupProtocol readers permits)
      (alone (Shrunk readers may w) (FirstWhileEligible readers w)) g
      (fun r _ => ∃ y, r = .error y) (onFailure n x) u)
    (hmay : ∀ u plan ids, Shrunk readers may w u →
      Planned readers faultless u config.keepAuto plan ids →
      (∃ i v, Same u v ∧ permits g i .iterdir v) → ∀ n ∈ plan.expire, may n)
    (rest deleted : List String) (hinv : Shrunk readers may w s)
    (hprogress : faultless → ∃ gone, Progress readers config.keepAuto w s gone rest) :
    Secures (backupProtocol readers permits)
      (alone (Shrunk readers may w) (FirstWhileEligible readers w)) g
      (fun r t => match r with
        | .ok _ => faultless → ∃ gone, Progress readers config.keepAuto w t gone []
        | .error _ => ¬faultless) (expireEach readers config onFailure rest deleted) s := by
  induction rest generalizing s deleted with
  | nil => exact hprogress
  | cons n rest ih =>
    refine Secures.alone_seq (Secures.alone_keeps hinv
      (buildRetentionPlan_secures hq tolerant_shrunk config (Same.refl s)))
      (fun plan t h => ?_) fun x t h => ?_
    · obtain ⟨⟨hsame, ⟨ids, hplanned⟩, -, -, hpermitted⟩, hinv₁⟩ := h
      refine Secures.ite (fun hexpired => ?_) fun hkept => ?_
      · have hn : Eligible readers t n := by
          rw [hplanned.expire] at hexpired
          exact (Eligible.congr hsame.root hsame.ledger).mpr
            (hplanned.eligible n (List.mem_of_mem_drop hexpired))
        have hmayn : may n := hmay s plan ids hinv hplanned hpermitted n hexpired
        have hrescued : Secures (backupProtocol readers permits)
            (alone (Shrunk readers may w) (FirstWhileEligible readers w)) g
            (fun r u => match r with
              | .ok _ => OnlyAt n t u ∧ Named.get? u.root n = none ∧ Shrunk readers may w u
              | .error _ => ¬faultless)
            ((deleteEligibleBundle readers n).rescue (onFailure n)) t := by
          refine Secures.alone_rescue
            (Secures.alone_keeps hinv₁ (deleteEligibleBundle_secures hq hn hmayn hinv₁))
            (fun _ u h => ⟨h.1.1, h.1.2, h.2⟩) fun x u h => ?_
          refine Secures.mono (fun r v hr => ?_) (hfail n x u h.2)
          obtain ⟨y, rfl⟩ := hr
          exact h.1.2
        refine Secures.alone_seq hrescued (fun _ u h => ?_) fun x u h => h
        obtain ⟨honly, hgone, hinv₂⟩ := h
        refine Secures.alone_seq
          (Secures.alone_keeps hinv₂ (removeLedgerEntry_secures hq hinv₂ hmayn))
          (fun _ v h => ?_) fun x v h hf => ?_
        · obtain ⟨⟨hroot, hledger, hreadable⟩, hinv₃⟩ := h
          refine ih (deleted ++ [n]) hinv₃ fun hf => ?_
          obtain ⟨gone, hgones⟩ := hprogress hf
          exact ⟨_, (hgones.same hsame).next honly hgone hroot hledger hreadable⟩
        · obtain ⟨gone, hgones⟩ := hprogress hf
          have hrejected : u.Rejected := h.1.2 hf
          exact (hgones.same hsame).readable
            (exists_congr (fun code => honly.rejected code) |>.mp hrejected)
      · refine ih deleted hinv₁ fun hf => ?_
        obtain ⟨gone, hgones⟩ := hprogress hf
        refine absurd ?_ hkept
        rw [hplanned.expire, hplanned.complete hf]
        exact hgones.expires
    · intro hf
      obtain ⟨gone, hgones⟩ := hprogress hf
      obtain htrouble | hrejected := h.1.2 hf
      · exact hgones.decodable_now htrouble
      · exact hgones.readable hrejected

end FrameNest.Backups
