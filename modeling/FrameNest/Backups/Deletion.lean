import FrameNest.Backups.RetentionWalk

/-! What deleting bundles one after another does to the root and the ledger, and what is
left of the eligible bundles when nothing fails. -/
namespace FrameNest.Backups
open Concurrent Relational

variable {γ : Type} {readers : Readers}

/-- Nothing that retention reads differs between two worlds but one name of the root. -/
structure OnlyAt (name : String) (s t : World) : Prop where
  root : ∀ other, name ≠ other → Named.get? t.root other = Named.get? s.root other
  ledger : t.ledgerIds = s.ledgerIds
  lastSuccess : t.lastSuccess = s.lastSuccess
  rejected : ∀ code, t.status = .rejected code ↔ s.status = .rejected code

theorem Same.onlyAt {s t : World} (h : Same s t) (name : String) : OnlyAt name s t :=
  ⟨fun _ _ => by rw [h.root], h.ledger, h.lastSuccess, h.rejected⟩

theorem OnlyAt.refl (name : String) (s : World) : OnlyAt name s s := (Same.refl s).onlyAt name

theorem OnlyAt.trans {name : String} {s t u : World} (h : OnlyAt name s t) (h' : OnlyAt name t u) :
    OnlyAt name s u :=
  ⟨fun other hne => (h'.root other hne).trans (h.root other hne), h'.ledger.trans h.ledger,
    h'.lastSuccess.trans h.lastSuccess, fun code => (h'.rejected code).trans (h.rejected code)⟩

section Effects
variable {i : Moment} {s : World} {name : String} {children : Children}

theorem perform_unlink {file : String} (hentry : Named.get? s.root name = some (.bundle children)) :
    OnlyAt name s (perform readers i (.unlink name file) s).2 ∧
      ∀ u, (perform readers i (.unlink name file) s).1 = .ok u →
        Named.get? (perform readers i (.unlink name file) s).2.root name =
          some (.bundle (Named.erase children file)) := by
  simp only [perform, onBundle, hentry]
  split
  · rename_i children' hchildren
    have herase : children' = Named.erase children file := by
      split at hchildren
      · cases hchildren
      · exact (Option.some.inj hchildren).symm
    rw [herase]
    refine ⟨⟨fun other hne => ?_, rfl, rfl, fun _ => Iff.rfl⟩, fun _ _ => ?_⟩
    · simp [Named.get?_set, hne]
    · simp [Named.get?_set, hentry]
  · exact ⟨OnlyAt.refl _ _, fun _ h => by cases h⟩

theorem perform_unlink_file {file : String} {content : Bytes}
    (hentry : Named.get? s.root name = some (.bundle children))
    (hfile : Named.get? children file = some (.file content)) :
    (perform readers i (.unlink name file) s).1 = .ok () := by
  simp only [perform, onBundle, hentry, hfile]
  rfl

theorem perform_rmdir (hentry : Named.get? s.root name = some (.bundle children)) :
    OnlyAt name s (perform readers i (.rmdir name) s).2 ∧
      (∀ u, (perform readers i (.rmdir name) s).1 = .ok u →
        Named.get? (perform readers i (.rmdir name) s).2.root name = none) ∧
      (Named.get? (perform readers i (.rmdir name) s).2.root name = none ∨
        (perform readers i (.rmdir name) s).2 = s) ∧
      (children.rows = [] → (perform readers i (.rmdir name) s).1 = .ok ()) := by
  simp only [perform, hentry]
  split
  · refine ⟨⟨fun other hne => ?_, rfl, rfl, fun _ => Iff.rfl⟩, fun _ _ => ?_, Or.inl ?_,
      fun _ => rfl⟩
    · simp [Named.get?_erase, hne]
    · simp [Named.get?_erase]
    · simp [Named.get?_erase]
  · rename_i hrows
    exact ⟨OnlyAt.refl _ _, fun _ h => (by cases h), Or.inr rfl, fun h => absurd h hrows⟩

end Effects

/-- What a retention pass that began in `w` has made of the world: names are as they were,
or they may be deleted and are no bundles any more. -/
structure Shrunk (readers : Readers) (may : String → Prop) (w s : World) : Prop where
  entries : ∀ name, Named.get? s.root name = Named.get? w.root name ∨
    may name ∧ ∀ result, verifyCatalogBackup readers (Named.get? s.root name) ≠ .ok result
  ledger : ∀ name ∈ s.ledgerIds, name ∈ w.ledgerIds
  ledgered : ∀ name ∈ w.ledgerIds, ¬may name → name ∈ s.ledgerIds
  lastSuccess : s.lastSuccess = w.lastSuccess

/-- A name changes for the first time while it is eligible. -/
def FirstWhileEligible (readers : Readers) (w s t : World) : Prop :=
  ∀ name, Named.get? s.root name = Named.get? w.root name →
    Named.get? t.root name ≠ Named.get? w.root name → Eligible readers s name

section Shrinking
variable {may : String → Prop} {w s t : World} {name : String}

theorem Shrunk.refl (w : World) : Shrunk readers may w w :=
  ⟨fun _ => Or.inl rfl, fun _ => id, fun _ h _ => h, rfl⟩

theorem tolerant_shrunk : Tolerant (Shrunk readers may w) (FirstWhileEligible readers w) where
  inv s t h hs := by
    refine ⟨fun name => ?_, fun name hmem => ?_, fun name hmem hno => ?_, ?_⟩
    · rw [h.root]
      exact hs.entries name
    · rw [h.ledger] at hmem
      exact hs.ledger name hmem
    · rw [h.ledger]
      exact hs.ledgered name hmem hno
    · exact h.lastSuccess.trans hs.lastSuccess
  guar s t h name hsame hchanged := by
    rw [h.root] at hchanged
    exact absurd hsame hchanged

theorem FirstWhileEligible.refl : FirstWhileEligible readers w s s :=
  fun _ hsame hchanged => absurd hsame hchanged

/-- An eligible bundle has not been touched yet. -/
theorem Shrunk.eligible (hs : Shrunk readers may w s) (h : Eligible readers s name) :
    Named.get? s.root name = Named.get? w.root name ∧ Eligible readers w name := by
  obtain hsame | ⟨-, hno⟩ := hs.entries name
  · obtain ⟨result, hresult⟩ := h.verifies
    exact ⟨hsame, h.automatic, hs.ledger name h.ledgered, result, hsame ▸ hresult⟩
  · obtain ⟨result, hresult⟩ := h.verifies
    exact absurd hresult (hno result)

theorem Shrunk.onlyAt (hs : Shrunk readers may w s) (h : OnlyAt name s t) (hmay : may name)
    (hno : ∀ result, verifyCatalogBackup readers (Named.get? t.root name) ≠ .ok result) :
    Shrunk readers may w t where
  entries other := by
    by_cases heq : name = other
    · subst heq
      exact Or.inr ⟨hmay, hno⟩
    · rw [h.root other heq]
      exact hs.entries other
  ledger other hmem := hs.ledger other (h.ledger ▸ hmem)
  ledgered other hmem hother := h.ledger ▸ hs.ledgered other hmem hother
  lastSuccess := h.lastSuccess.trans hs.lastSuccess

theorem OnlyAt.firstWhileEligible (h : OnlyAt name s t)
    (heligible : Named.get? s.root name = Named.get? w.root name → Eligible readers s name) :
    FirstWhileEligible readers w s t := by
  intro other hsame hchanged
  by_cases heq : name = other
  · subst heq
    exact heligible hsame
  · rw [h.root other heq] at hchanged
    exact absurd hsame hchanged

end Shrinking

section Walk
variable {permits : γ → Moment → Effect → World → Prop} {faultless : Prop} {g : γ}
  {may : String → Prop} {w s : World} {name : String}

/-- One call that changes no name but one, and that one only from being eligible. -/
theorem shrinking_bind {β : Type} {e : Effect} {Q : Except Failure β → World → Prop}
    {f : e.Answer → BackupProgram β} (hq : Faultless permits faultless)
    (honly : ∀ i, OnlyAt name s (perform readers i e s).2)
    (hshrunk : ∀ i, Shrunk readers may w (perform readers i e s).2)
    (hfirst : Named.get? s.root name = Named.get? w.root name → Eligible readers s name)
    (hok : ∀ i a, (perform readers i e s).1 = .ok a →
      Secures (backupProtocol readers permits)
        (alone (Shrunk readers may w) (FirstWhileEligible readers w)) g Q (f a)
        (perform readers i e s).2)
    (herror : ∀ i t x, OnlyAt name s t → (faultless → (perform readers i e s).1 = .error x) →
      Q (.error x) t) :
    Secures (backupProtocol readers permits)
      (alone (Shrunk readers may w) (FirstWhileEligible readers w)) g Q (Program.perform e >>= f) s := by
  refine call_bind hq FirstWhileEligible.refl
    (fun _ i _ => ⟨hshrunk i, (honly i).firstWhileEligible hfirst⟩)
    (fun _ i a ha _ => hok i a ha) fun i t x ht hx => ?_
  obtain rfl | rfl := ht
  · exact herror i _ x (honly i) hx
  · exact herror i _ x (OnlyAt.refl _ _) hx

/-- The form of an automatic name leaves no place for a path separator. -/
theorem automatic_plain (h : isAutomaticBundleName readers name = true) :
    (!(name.toList.contains '/' || name = "." || name = ".." || name.toList.contains '\\')) =
      true := by
  simp only [isAutomaticBundleName, Bool.and_eq_true, decide_eq_true_eq, List.all_eq_true] at h
  obtain ⟨⟨⟨⟨⟨⟨⟨hlength, hauto⟩, hdate⟩, hT⟩, htime⟩, hZ⟩, hdash⟩, htoken⟩ := h
  have hundecimal := readers.separators_undecimal
  have hnone : ∀ c ∈ ['/', '\\'], c ∉ name.toList := by
    intro c hc hmem
    obtain ⟨k, hk⟩ := List.mem_iff_getElem?.mp hmem
    have hpart : ∀ start count, start ≤ k → k < start + count →
        c ∈ (name.toList.drop start).take count := by
      intro start count hstart hend
      refine List.mem_iff_getElem?.mpr ⟨k - start, ?_⟩
      rw [List.getElem?_take_of_lt (by omega), List.getElem?_drop]
      rwa [show start + (k - start) = k by omega]
    by_cases h5 : k < 5
    · have hin := hpart 0 5 (by omega) (by omega)
      rw [List.drop_zero, hauto] at hin
      obtain rfl | rfl : c = '/' ∨ c = '\\' := by simpa using hc
      · exact absurd hin (by decide)
      · exact absurd hin (by decide)
    by_cases h13 : k < 13
    · have hdec := hdate c (hpart 5 8 (by omega) (by omega))
      rw [hundecimal c hc] at hdec
      cases hdec
    by_cases h14 : k = 13
    · rw [h14, hT] at hk
      simp [← Option.some.inj hk] at hc
    by_cases h20 : k < 20
    · have hdec := htime c (hpart 14 6 (by omega) (by omega))
      rw [hundecimal c hc] at hdec
      cases hdec
    by_cases h21 : k = 20
    · rw [h21, hZ] at hk
      simp [← Option.some.inj hk] at hc
    by_cases h22 : k = 21
    · rw [h22, hdash] at hk
      simp [← Option.some.inj hk] at hc
    · have hlast : c ∈ name.toList.drop 22 := List.mem_of_mem_take
        (hpart 22 (k + 1) (by omega) (by omega))
      have hhex := htoken c hlast
      obtain rfl | rfl : c = '/' ∨ c = '\\' := by simpa using hc
      · exact absurd hhex (by decide)
      · exact absurd hhex (by decide)
  have hdot : name ≠ "." := fun heq => by
    rw [heq] at hlength
    exact absurd hlength (by decide)
  have hdots : name ≠ ".." := fun heq => by
    rw [heq] at hlength
    exact absurd hlength (by decide)
  have hslash := hnone '/' (by simp)
  have hback := hnone '\\' (by simp)
  simp [hslash, hback, hdot, hdots]

/-- A bundle that verifies has its two files and nothing else. -/
theorem verified_children {children : Children} {result : BackupResult}
    (h : verifyChildren readers children = .ok result) :
    (children.rows.all fun child => child.2 ≠ .symlink) = true ∧
      ((Named.names children).all fun name => name = manifestName || name = catalogName) = true ∧
      (Named.erase (Named.erase children manifestName) catalogName).rows = [] := by
  obtain ⟨hlooks, manifest, catalog, payload, hmanifest, hcatalog, -⟩ := verifyChildren_ok h
  simp only [bundleLooksComplete, Bool.and_eq_true] at hlooks
  have hnames := hlooks.2
  have hname : ∀ child ∈ children.rows, child.1 = manifestName ∨ child.1 = catalogName := by
    intro child hchild
    have hmem : child.1 ∈ Named.names children := List.mem_map_of_mem hchild
    simpa using List.all_eq_true.mp hnames _ hmem
  refine ⟨List.all_eq_true.mpr fun child hchild => ?_, hnames, ?_⟩
  · have hget : Named.get? children child.1 = some child.2 := Named.mem_rows.mp hchild
    obtain hn | hn := hname child hchild
    · rw [hn, hmanifest] at hget
      simp [← Option.some.inj hget]
    · rw [hn, hcatalog] at hget
      simp [← Option.some.inj hget]
  · rw [Named.rows_erase, Named.rows_erase, List.filter_filter]
    refine List.filter_eq_nil_iff.mpr fun child hchild => ?_
    obtain hn | hn := hname child hchild <;> simp [hn]

theorem unverifiable_erased {children : Children} {file : String}
    (hfile : file = manifestName ∨ file = catalogName) {entry : Option Entry}
    (hentry : entry = some (.bundle (Named.erase children file))) (result : BackupResult) :
    verifyCatalogBackup readers entry ≠ .ok result := by
  subst hentry
  intro h
  obtain ⟨-, manifest, catalog, payload, hmanifest, hcatalog, -⟩ := verifyChildren_ok h
  obtain rfl | rfl := hfile
  · simp [Named.get?_erase] at hmanifest
  · simp [Named.get?_erase] at hcatalog

/-- The three removals of one bundle, the manifest first: from there on it is no bundle. -/
theorem checkedTarget_secures (hq : Faultless permits faultless) {children : Children}
    {result : BackupResult} (hentry : Named.get? s.root name = some (.bundle children))
    (hresult : verifyChildren readers children = .ok result) (hname : Eligible readers s name)
    (hmay : may name) (hinv : Shrunk readers may w s) :
    Secures (backupProtocol readers permits)
      (alone (Shrunk readers may w) (FirstWhileEligible readers w)) g
      (fun r t => OnlyAt name s t ∧ match r with
        | .ok _ => Named.get? t.root name = none
        | .error _ => ¬faultless) (checkedTarget name (some (.bundle children))) s := by
  have hold := (hinv.eligible hname).1
  obtain ⟨hlinks, hnames, hrows⟩ := verified_children hresult
  obtain ⟨-, manifest, catalog, -, hmanifest, hcatalog, -⟩ := verifyChildren_ok hresult
  have hcatalog' : Named.get? (Named.erase children manifestName) catalogName =
      some (.file catalog) := by
    rw [Named.get?_erase, if_neg (by decide)]
    exact hcatalog
  have hchanged : ∀ {t : World} {c : Children}, Named.get? t.root name = some (.bundle c) →
      Named.get? c manifestName = none → Named.get? t.root name ≠ Named.get? w.root name := by
    intro t c ht hc heq
    rw [ht, ← hold, hentry] at heq
    cases heq
    rw [hc] at hmanifest
    cases hmanifest
  have herased : Named.get? (Named.erase children manifestName) manifestName = none := by
    simp [Named.get?_erase]
  have herased' : Named.get? (Named.erase (Named.erase children manifestName) catalogName)
      manifestName = none := by
    simp [Named.get?_erase]
  simp only [checkedTarget, demandOps, hlinks, hnames, if_true, Program.pure_eq, Program.done_bind]
  have hfirst : ∀ i, Named.get? (perform readers i (.unlink name manifestName) s).2.root name =
      some (.bundle (Named.erase children manifestName)) :=
    fun i => (perform_unlink hentry).2 () (perform_unlink_file hentry hmanifest)
  refine shrinking_bind hq (fun i => (perform_unlink hentry).1) (fun i => ?_) (fun _ => hname)
    (fun i _ _ => ?_) fun i t x ht hx => ⟨ht, fun hf => ?_⟩
  · exact hinv.onlyAt (perform_unlink hentry).1 hmay
      (unverifiable_erased (Or.inl rfl) (hfirst i))
  · have h₁ := hfirst i
    have honly₁ : OnlyAt name s (perform readers i (.unlink name manifestName) s).2 :=
      (perform_unlink hentry).1
    have hinv₁ : Shrunk readers may w (perform readers i (.unlink name manifestName) s).2 :=
      hinv.onlyAt honly₁ hmay (unverifiable_erased (Or.inl rfl) h₁)
    generalize (perform readers i (.unlink name manifestName) s).2 = s₁ at h₁ honly₁ hinv₁
    have hsecond : ∀ i, Named.get? (perform readers i (.unlink name catalogName) s₁).2.root name =
        some (.bundle (Named.erase (Named.erase children manifestName) catalogName)) :=
      fun i => (perform_unlink h₁).2 () (perform_unlink_file h₁ hcatalog')
    refine shrinking_bind hq (fun i => (perform_unlink h₁).1) (fun i => ?_)
      (fun hsame => absurd hsame (hchanged h₁ herased)) (fun i _ _ => ?_)
      fun i t x ht hx => ⟨honly₁.trans ht, fun hf => ?_⟩
    · exact hinv₁.onlyAt (perform_unlink h₁).1 hmay
        (unverifiable_erased (Or.inr rfl) (hsecond i))
    · have h₂ := hsecond i
      have honly₂ : OnlyAt name s (perform readers i (.unlink name catalogName) s₁).2 :=
        honly₁.trans (perform_unlink h₁).1
      have hinv₂ : Shrunk readers may w (perform readers i (.unlink name catalogName) s₁).2 :=
        hinv₁.onlyAt (perform_unlink h₁).1 hmay (unverifiable_erased (Or.inr rfl) h₂)
      generalize (perform readers i (.unlink name catalogName) s₁).2 = s₂ at h₂ honly₂ hinv₂
      have hlast : Secures (backupProtocol readers permits)
          (alone (Shrunk readers may w) (FirstWhileEligible readers w)) g
          (fun r t => OnlyAt name s t ∧ match r with
            | .ok _ => Named.get? t.root name = none
            | .error _ => ¬faultless) (rmdir name) s₂ := by
        refine call_perform hq FirstWhileEligible.refl (fun _ i _ => ⟨?_, ?_⟩)
          (fun _ i a ha _ => ⟨honly₂.trans (perform_rmdir h₂).1, (perform_rmdir h₂).2.1 a ha⟩)
          fun i t x ht hx => ⟨?_, fun hf => ?_⟩
        · refine hinv₂.onlyAt (perform_rmdir h₂).1 hmay fun found hfound => ?_
          obtain hgone | hsame : Named.get? (perform readers i (.rmdir name) s₂).2.root name = none ∨
              (perform readers i (.rmdir name) s₂).2 = s₂ := (perform_rmdir h₂).2.2.1
          · rw [hgone] at hfound
            cases hfound
          · rw [hsame] at hfound
            exact unverifiable_erased (Or.inr rfl) h₂ found hfound
        · exact (perform_rmdir h₂).1.firstWhileEligible fun hsame =>
            absurd hsame (hchanged h₂ herased')
        · obtain rfl | rfl := ht
          · exact honly₂.trans (perform_rmdir h₂).1
          · exact honly₂
        · rw [(perform_rmdir h₂).2.2.2 hrows] at hx
          cases hx hf
      refine Secures.alone_rescue hlast (fun _ t h => h) fun x t h => ?_
      refine Secures.ite (fun _ => h) fun _ => h
    · rw [perform_unlink_file h₁ hcatalog'] at hx
      cases hx hf
  · rw [perform_unlink_file hentry hmanifest] at hx
    cases hx hf

/-- Deleting an eligible bundle: however far it comes, the rest of the root stays. -/
theorem deleteEligibleBundle_secures (hq : Faultless permits faultless)
    (hname : Eligible readers s name) (hmay : may name)
    (hinv : Shrunk readers may w s) :
    Secures (backupProtocol readers permits)
      (alone (Shrunk readers may w) (FirstWhileEligible readers w)) g
      (fun r t => OnlyAt name s t ∧ match r with
        | .ok _ => Named.get? t.root name = none
        | .error _ => ¬faultless) (deleteEligibleBundle readers name) s := by
  obtain ⟨children, result, hentry, hresult⟩ := hname.bundle
  have hread : ∀ {t}, Same s t → Named.get? t.root name = some (.bundle children) := by
    intro t ht
    rw [ht.root, hentry]
  simp only [deleteEligibleBundle, demandOps, hname.automatic, automatic_plain hname.automatic,
    if_true, Program.pure_eq, Program.done_bind]
  refine quiet_bind hq tolerant_shrunk (Same.refl s) rfl (fun i s₁ resolved _ hs₁ hresolved => ?_)
    fun i t x ht hx => ⟨ht.onlyAt name, fun hf => ?_⟩
  · have hself : resolved = some name := by
      simp only [perform, hentry] at hresolved
      exact (Except.ok.inj hresolved).symm
    subst hself
    refine quiet_bind hq tolerant_shrunk hs₁ rfl (fun i s₂ entry _ hs₂ hlook => ?_)
      fun i t x ht hx => ⟨ht.onlyAt name, fun hf => ?_⟩
    · have hself : entry = some (.bundle children) := by
        simp only [perform, hread hs₁] at hlook
        exact (Except.ok.inj hlook).symm
      subst hself
      have hs₂inv : Shrunk readers may w s₂ := tolerant_shrunk.inv _ _ hs₂ hinv
      have hs₂name : Eligible readers s₂ name := (Eligible.congr hs₂.root hs₂.ledger).mpr hname
      refine Secures.mono (fun r t h => ⟨(hs₂.onlyAt name).trans h.1, h.2⟩)
        (checkedTarget_secures hq (hread hs₂) hresult hs₂name hmay hs₂inv)
    · have hfine := hx hf
      simp only [perform] at hfine
      cases hfine
  · have hfine := hx hf
    simp only [perform] at hfine
    cases hfine

end Walk
end FrameNest.Backups
