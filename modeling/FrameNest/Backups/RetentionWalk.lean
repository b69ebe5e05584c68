import FrameNest.Backups.Eligibility
import FrameNest.Concurrent.Alone

/-! What building a retention plan finds out, whatever fails on the way, and what it finds
out when nothing does. -/
namespace FrameNest.Backups
open Concurrent Relational

variable {γ : Type}

/-- One backup operation at a time: nothing is remembered between its calls. -/
def backupProtocol (readers : Readers) (permits : γ → Moment → Effect → World → Prop) :
    Protocol Moment Effect Effect.Answer Failure World γ where
  exec := exec readers
  note g _ _ _ := g
  permits := permits
  may _ _ := True

/-- Two worlds that retention cannot tell apart. -/
structure Same (s t : World) : Prop where
  root : t.root = s.root
  ledger : t.ledgerIds = s.ledgerIds
  lastSuccess : t.lastSuccess = s.lastSuccess
  rejected : ∀ code, t.status = .rejected code ↔ s.status = .rejected code

theorem Same.refl (s : World) : Same s s := ⟨rfl, rfl, rfl, fun _ => Iff.rfl⟩

theorem Same.trans {s t u : World} (h : Same s t) (h' : Same t u) : Same s u :=
  ⟨h'.root.trans h.root, h'.ledger.trans h.ledger, h'.lastSuccess.trans h.lastSuccess,
    fun code => (h'.rejected code).trans (h.rejected code)⟩

/- Calls that leave the root, the ledger and the recorded success alone. -/
def Effect.isQuiet : Effect → Bool
  | .writeStatus _ | .unlink .. | .rmdir _ | .mkdir _ | .onlineBackup _ | .writeManifest ..
  | .link .. | .rmtree _ => false
  | _ => true

section Exec
variable {readers : Readers} {i : Moment} {e : Effect} {s : World}

theorem exec_ok {a : e.Answer} (h : (exec readers i e s).1 = .ok a) :
    i.fault = none ∧ (perform readers i e s).1 = .ok a := by
  unfold exec at h
  split at h
  · rename_i hfault
    exact ⟨hfault, h⟩
  · cases h

theorem exec_error {x : Failure} (h : (exec readers i e s).1 = .error x) (hfault : i.fault = none) :
    (perform readers i e s).1 = .error x := by
  unfold exec at h
  simpa [hfault] using h

theorem exec_state : (exec readers i e s).2 = (perform readers i e s).2 ∨
    (exec readers i e s).2 = s ∧ i.fault ≠ none := by
  unfold exec
  split
  · exact Or.inl rfl
  · split
    · exact Or.inl rfl
    · exact Or.inr ⟨rfl, by simp_all⟩

theorem perform_quiet (h : e.isQuiet = true) : Same s (perform readers i e s).2 := by
  cases e with
  | ensureOpsLayout =>
    simp only [perform]
    cases habsent : s.status with
    | absent =>
      refine ⟨rfl, ?_, ?_, ?_⟩
      · simp [World.ledgerIds, habsent, Status.ledgerIds, Status.empty]
      · simp [World.lastSuccess, habsent, Status.empty]
      · simp [habsent]
    | _ => exact Same.refl s
  | restoreCatalogBackup name destination =>
    have hrestore : Same s (restore readers s name destination).2 := by
      unfold restore
      split
      · split
        · exact ⟨rfl, rfl, rfl, fun _ => Iff.rfl⟩
        · exact Same.refl s
      · exact Same.refl s
      · exact Same.refl s
    exact hrestore
  | appendEvent event => exact ⟨rfl, rfl, rfl, fun _ => Iff.rfl⟩
  | unlinkRestored destination => exact ⟨rfl, rfl, rfl, fun _ => Iff.rfl⟩
  | writeStatus | unlink | rmdir | mkdir | onlineBackup | writeManifest | link | rmtree => cases h
  | _ => exact Same.refl s

theorem exec_quiet (h : e.isQuiet = true) : Same s (exec readers i e s).2 := by
  have hstates : (exec readers i e s).2 = (perform readers i e s).2 ∨
      (exec readers i e s).2 = s ∧ i.fault ≠ none := exec_state
  obtain hstate | ⟨hstate, -⟩ := hstates
  · rw [hstate]
    exact perform_quiet h
  · rw [hstate]
    exact Same.refl s

end Exec

/-- Invariants and guarantees that quiet calls satisfy. -/
structure Tolerant (inv : World → Prop) (guar : World → World → Prop) : Prop where
  inv : ∀ s t, Same s t → inv s → inv t
  guar : ∀ s t, Same s t → guar s t

/-- With `faultless`, nothing goes wrong in a permitted call. -/
def Faultless (permits : γ → Moment → Effect → World → Prop) (faultless : Prop) : Prop :=
  faultless → ∀ g i e s, permits g i e s → i.fault = none

section Walk
variable {readers : Readers} {permits : γ → Moment → Effect → World → Prop} {faultless : Prop}
  {inv : World → Prop} {guar : World → World → Prop} {g : γ} {w s : World}

/-- Any call: it does its work, or fails having done it or not. -/
theorem call_bind {β : Type} {e : Effect} {Q : Except Failure β → World → Prop}
    {f : e.Answer → BackupProgram β} (hq : Faultless permits faultless) (hrefl : guar s s)
    (hstep : inv s → ∀ i, permits g i e s →
      inv (perform readers i e s).2 ∧ guar s (perform readers i e s).2)
    (hok : inv s → ∀ i a, (perform readers i e s).1 = .ok a → permits g i e s →
      Secures (backupProtocol readers permits) (alone inv guar) g Q (f a) (perform readers i e s).2)
    (herror : ∀ i t x, (t = (perform readers i e s).2 ∨ t = s) →
      (faultless → (perform readers i e s).1 = .error x) → Q (.error x) t) :
    Secures (backupProtocol readers permits) (alone inv guar) g Q (Program.perform e >>= f) s := by
  refine Secures.alone_bind fun hinv i hp => ?_
  have hstate : ((backupProtocol readers permits).exec i e s).2 = (perform readers i e s).2 ∨
      ((backupProtocol readers permits).exec i e s).2 = s := exec_state.imp_right And.left
  have hkept : inv ((backupProtocol readers permits).exec i e s).2 ∧
      guar s ((backupProtocol readers permits).exec i e s).2 := by
    obtain h | h := hstate
    · rw [h]
      exact hstep hinv i hp
    · rw [h]
      exact ⟨hinv, hrefl⟩
  refine ⟨hkept.1, hkept.2, fun a ha => ?_, fun x hx => ?_⟩
  · obtain ⟨hfault, hperform⟩ := exec_ok ha
    have hdone : ((backupProtocol readers permits).exec i e s).2 = (perform readers i e s).2 := by
      simp [backupProtocol, exec, hfault]
    rw [hdone]
    exact hok hinv i a hperform hp
  · exact herror i _ x hstate fun hf => exec_error hx (hq hf _ _ _ _ hp)

theorem call_perform {e : Effect} {Q : Except Failure e.Answer → World → Prop}
    (hq : Faultless permits faultless) (hrefl : guar s s)
    (hstep : inv s → ∀ i, permits g i e s →
      inv (perform readers i e s).2 ∧ guar s (perform readers i e s).2)
    (hok : inv s → ∀ i a, (perform readers i e s).1 = .ok a → permits g i e s →
      Q (.ok a) (perform readers i e s).2)
    (herror : ∀ i t x, (t = (perform readers i e s).2 ∨ t = s) →
      (faultless → (perform readers i e s).1 = .error x) → Q (.error x) t) :
    Secures (backupProtocol readers permits) (alone inv guar) g Q (Program.perform e) s := by
  have hbind : Secures (backupProtocol readers permits) (alone inv guar) g Q
      (Program.perform e >>= fun a => (.done a : BackupProgram e.Answer)) s :=
    call_bind hq hrefl hstep (fun hinv i a ha hp => hok hinv i a ha hp) herror
  have hid : (Program.perform e >>= fun a => (.done a : BackupProgram e.Answer)) =
      Program.perform e := by
    refine congrArg (Program.call e) (funext fun r => ?_)
    cases r <;> rfl
  rw [hid] at hbind
  exact hbind

/-- A quiet call, seen from a world it cannot be told apart from. -/
theorem quiet_bind {β : Type} {e : Effect} {Q : Except Failure β → World → Prop}
    {f : e.Answer → BackupProgram β} (hq : Faultless permits faultless) (hT : Tolerant inv guar)
    (hs : Same w s) (he : e.isQuiet = true)
    (hok : ∀ i t a, permits g i e s → Same w t → (perform readers i e s).1 = .ok a →
      Secures (backupProtocol readers permits) (alone inv guar) g Q (f a) t)
    (herror : ∀ i t x, Same w t → (faultless → (perform readers i e s).1 = .error x) →
      Q (.error x) t) :
    Secures (backupProtocol readers permits) (alone inv guar) g Q (Program.perform e >>= f) s := by
  refine Secures.alone_bind fun hinv i hp => ?_
  have hsame : Same s (exec readers i e s).2 := exec_quiet he
  refine ⟨hT.inv _ _ hsame hinv, hT.guar _ _ hsame, fun a ha => ?_, fun x hx => ?_⟩
  · exact hok i _ a hp (hs.trans hsame) (exec_ok ha).2
  · exact herror i _ x (hs.trans hsame) fun hf => exec_error hx (hq hf _ _ _ _ hp)

theorem quiet_perform {e : Effect} {Q : Except Failure e.Answer → World → Prop}
    (hq : Faultless permits faultless) (hT : Tolerant inv guar) (hs : Same w s)
    (he : e.isQuiet = true)
    (hok : ∀ i t a, Same w t → (perform readers i e s).1 = .ok a → Q (.ok a) t)
    (herror : ∀ i t x, Same w t → (faultless → (perform readers i e s).1 = .error x) →
      Q (.error x) t) :
    Secures (backupProtocol readers permits) (alone inv guar) g Q (Program.perform e) s := by
  refine Secures.alone_perform fun hinv i hp => ?_
  have hsame : Same s (exec readers i e s).2 := exec_quiet he
  refine ⟨hT.inv _ _ hsame hinv, hT.guar _ _ hsame, ?_⟩
  show Q (exec readers i e s).1 (exec readers i e s).2
  cases hr : (exec readers i e s).1 with
  | ok a => exact hok i _ a (hs.trans hsame) (exec_ok hr).2
  | error x =>
    exact herror i _ x (hs.trans hsame) fun hf => exec_error hr (hq hf _ _ _ _ hp)

/-- What the verification of one bundle directory finds. -/
def VerifiedAs (readers : Readers) (faultless : Prop) (children : Children) :
    Except Failure (Option (String × Option String)) → Prop
  | .ok (some (_, created)) => (∃ result, verifyChildren readers children = .ok result) ∧
    created.getD "" = createdText readers (some (.bundle children))
  | .ok none => faultless → ∃ x, verifyChildren readers children = .error x ∧ x.isBackupError = true
  | .error x => faultless → verifyChildren readers children = .error x ∧ x.isBackupError = false

theorem verifiedSummary_secures (hq : Faultless permits faultless) (hT : Tolerant inv guar)
    (hs : Same w s) {name : String} {children : Children}
    (hentry : Named.get? w.root name = some (.bundle children)) :
    Secures (backupProtocol readers permits) (alone inv guar) g
      (fun r t => Same w t ∧ VerifiedAs readers faultless children r) (verifiedSummary name) s := by
  have hroot : ∀ {t}, Same w t → Named.get? t.root name = some (.bundle children) := by
    intro t ht
    rw [ht.root]
    exact hentry
  have hbody : Secures (backupProtocol readers permits) (alone inv guar) g
      (fun r t => Same w t ∧ match r with
        | .ok found => VerifiedAs readers faultless children (.ok found) ∧ found.isSome = true
        | .error x => faultless → verifyChildren readers children = .error x)
      (do
        let verified ← verifyBundle name
        let loaded ← readManifest name
        loadsOrRaise loaded
        pure (some (verified.alembicRevision, createdAtUtc loaded))) s := by
    refine quiet_bind hq hT hs rfl (fun i t verified _ ht hverified => ?_) fun i t x ht hx => ?_
    · have hverified : verifyCatalogBackup readers (Named.get? s.root name) = .ok verified :=
        hverified
      rw [hroot hs] at hverified
      obtain ⟨-, manifest, catalog, payload, hmanifest, -, hloads⟩ := verifyChildren_ok hverified
      refine quiet_bind hq hT ht rfl (fun i u loaded _ hu hloaded => ?_) fun i u x hu hx => ?_
      · have hread : (perform readers i (.readManifest name) t).1 = .ok (readers.loads manifest) := by
          simp [perform, hroot ht, hmanifest]
        have hsame : loaded = .value (.obj payload) := by
          rw [hread] at hloaded
          injection hloaded with hloaded
          rw [← hloaded, hloads]
        subst hsame
        refine ⟨hu, ⟨⟨verified, hverified⟩, ?_⟩, rfl⟩
        simp [createdText, hmanifest, hloads]
      · refine ⟨hu, fun hf => ?_⟩
        have hread : (perform readers i (.readManifest name) t).1 = .ok (readers.loads manifest) := by
          simp [perform, hroot ht, hmanifest]
        rw [hread] at hx
        cases hx hf
    · refine ⟨ht, fun hf => ?_⟩
      have hx : verifyCatalogBackup readers (Named.get? s.root name) = .error x := hx hf
      rw [hroot hs] at hx
      exact hx
  refine Secures.alone_rescue hbody (fun found t h => ⟨h.1, h.2.1⟩) ?_
  rintro x t ⟨ht, hx⟩
  by_cases hbackup : x.isBackupError = true
  · rw [if_pos hbackup]
    exact ⟨ht, fun hf => ⟨x, hx hf, hbackup⟩⟩
  · rw [if_neg hbackup]
    exact ⟨ht, fun hf => ⟨hx hf, by simpa using hbackup⟩⟩

/-- What a summary says of its name, as far as the world bears it out. -/
structure Right (readers : Readers) (w : World) (known : List String) (summary : BundleSummary) :
    Prop where
  classification : summary.classification = classify readers summary.bundleId
  verified : summary.verificationEligible = true →
    ∃ result, verifyCatalogBackup readers (Named.get? w.root summary.bundleId) = .ok result
  retention : summary.verificationEligible = true → summary.retentionEligible =
    (classify readers summary.bundleId = .automatic && summary.bundleId ∈ known)
  key : summary.verificationEligible = true →
    bundleSortKey summary = keyAt readers w summary.bundleId

/-- What listing one name finds. -/
def ListedAs (readers : Readers) (faultless : Prop) (w : World) (known : List String)
    (name : String) (entry : Entry) : Except Failure BundleSummary → Prop
  | .ok summary => summary.bundleId = name ∧ Right readers w known summary ∧
    (faultless → (∃ result, verifyCatalogBackup readers (some entry) = .ok result) →
      summary.verificationEligible = true) ∧ (faultless → ¬Undecodable readers entry)
  | .error _ => faultless → Undecodable readers entry

theorem unverified_listed {known : List String} {name : String} {entry : Entry}
    {summary : BundleSummary} (hid : summary.bundleId = name)
    (hclass : summary.classification = classify readers name)
    (hno : summary.verificationEligible = false)
    (hverify : faultless → ¬∃ result, verifyCatalogBackup readers (some entry) = .ok result)
    (hdecodable : faultless → ¬Undecodable readers entry) :
    ListedAs readers faultless w known name entry (.ok summary) := by
  have hfalse : summary.verificationEligible ≠ true := by simp [hno]
  refine ⟨hid, ⟨hid ▸ hclass, fun h => absurd h hfalse, fun h => absurd h hfalse,
    fun h => absurd h hfalse⟩, fun hf h => absurd h (hverify hf), hdecodable⟩

theorem bundleSummary_secures (hq : Faultless permits faultless) (hT : Tolerant inv guar)
    (hs : Same w s) {name : String} {children : Children} {known : List String}
    (hentry : Named.get? w.root name = some (.bundle children)) :
    Secures (backupProtocol readers permits) (alone inv guar) g
      (fun r t => Same w t ∧ ListedAs readers faultless w known name (.bundle children) r)
      (bundleSummary readers true known name) s := by
  have hnames : Secures (backupProtocol readers permits) (alone inv guar) g
      (fun r t => Same w t ∧ match r with
        | .ok names => faultless → names = Named.names children
        | .error _ => ¬faultless) (completeNames name) s := by
    have hread : ∀ i, (perform readers i (.childNames name) s).1 = .ok (Named.names children) := by
      intro i
      simp [perform, hs.root, hentry]
    have hall : Secures (backupProtocol readers permits) (alone inv guar) g
        (fun r t => Same w t ∧ match r with
          | .ok names => names = Named.names children
          | .error _ => ¬faultless) (childNames name) s := by
      refine quiet_perform hq hT hs rfl (fun i t names ht hn => ⟨ht, ?_⟩)
        fun i t x ht hx => ⟨ht, fun hf => ?_⟩
      · rw [hread] at hn
        injection hn with hn
        exact hn.symm
      · rw [hread] at hx
        cases hx hf
    refine Secures.alone_rescue hall (fun names t h => ⟨h.1, fun _ => h.2⟩) ?_
    rintro x t ⟨ht, hfaulty⟩
    split
    · exact ⟨ht, fun hf => absurd hf hfaulty⟩
    · exact ⟨ht, hfaulty⟩
  refine Secures.alone_seq hnames ?_ fun x t h => ⟨h.1, fun hf => absurd hf h.2⟩
  rintro names t ⟨ht, hnames⟩
  refine Secures.ite (fun hcomplete => ?_) fun hcomplete => ?_
  · refine Secures.alone_seq (verifiedSummary_secures hq hT ht hentry) ?_ ?_
    · rintro (_ | ⟨revision, created⟩) u ⟨hu, hfound⟩
      · refine ⟨hu, unverified_listed rfl rfl rfl (fun hf => ?_) fun hf => ?_⟩
        · obtain ⟨x, hx, -⟩ := hfound hf
          rintro ⟨result, hresult⟩
          cases hresult.symm.trans hx
        · obtain ⟨x, hx, hbackup⟩ := hfound hf
          rintro ⟨-, y, hy, himpolite⟩
          cases hx.symm.trans hy
          rw [hbackup] at himpolite
          cases himpolite
      · obtain ⟨⟨result, hresult⟩, hcreated⟩ := hfound
        refine ⟨hu, rfl, ⟨rfl, fun _ => ⟨result, ?_⟩, fun _ => rfl, fun _ => ?_⟩,
          fun _ _ => rfl, fun _ => ?_⟩
        · rw [hentry]
          exact hresult
        · simp [bundleSortKey, keyAt, hentry, hcreated]
        · rintro ⟨-, x, hx, -⟩
          cases hresult.symm.trans hx
    · rintro x u ⟨hu, hx⟩
      refine ⟨hu, fun hf => ⟨?_, x, hx hf⟩⟩
      rw [← hnames hf]
      exact hcomplete
  · refine ⟨ht, unverified_listed rfl rfl rfl (fun hf => ?_) fun hf => ?_⟩
    · rintro ⟨result, hresult⟩
      refine hcomplete ?_
      rw [hnames hf]
      exact (verifyChildren_ok hresult).1
    · rintro ⟨hlooks, -⟩
      refine hcomplete ?_
      rw [hnames hf]
      exact hlooks

/-- What listing some of the names of a world finds. -/
structure Listed (readers : Readers) (faultless : Prop) (w : World) (known : List String)
    (entries : List (String × Entry)) (summaries : List BundleSummary) : Prop where
  ids : (summaries.map BundleSummary.bundleId).Sublist (entries.map Prod.fst)
  right : ∀ summary ∈ summaries, Right readers w known summary
  complete : faultless → ∀ name entry, (name, entry) ∈ entries → startsWith name "." = false →
    (∃ result, verifyCatalogBackup readers (some entry) = .ok result) →
    ∃ summary ∈ summaries, summary.bundleId = name ∧ summary.verificationEligible = true
  decodable : faultless → ∀ name entry, (name, entry) ∈ entries → startsWith name "." = false →
    ¬Undecodable readers entry

theorem Listed.hidden {known : List String} {entries : List (String × Entry)} {name : String}
    {entry : Entry} {summaries : List BundleSummary} (hname : startsWith name "." = true)
    (h : Listed readers faultless w known entries summaries) :
    Listed readers faultless w known ((name, entry) :: entries) summaries where
  ids := h.ids.cons _
  right := h.right
  complete hf n e hmem hn := by
    obtain heq | hmem := List.mem_cons.mp hmem
    · cases heq
      rw [hname] at hn
      cases hn
    · exact h.complete hf n e hmem hn
  decodable hf n e hmem hn := by
    obtain heq | hmem := List.mem_cons.mp hmem
    · cases heq
      rw [hname] at hn
      cases hn
    · exact h.decodable hf n e hmem hn

theorem Listed.cons {known : List String} {entries : List (String × Entry)} {name : String}
    {entry : Entry} {summary : BundleSummary} {summaries : List BundleSummary}
    (hsummary : ListedAs readers faultless w known name entry (.ok summary))
    (h : Listed readers faultless w known entries summaries) :
    Listed readers faultless w known ((name, entry) :: entries) (summary :: summaries) where
  ids := by
    rw [List.map_cons, List.map_cons, hsummary.1]
    exact h.ids.cons_cons _
  right := List.forall_mem_cons.mpr ⟨hsummary.2.1, h.right⟩
  complete hf n e hmem hn hverify := by
    obtain heq | hmem := List.mem_cons.mp hmem
    · cases heq
      exact ⟨summary, by simp, hsummary.1, hsummary.2.2.1 hf hverify⟩
    · obtain ⟨found, hfound, hid⟩ := h.complete hf n e hmem hn hverify
      exact ⟨found, List.mem_cons_of_mem _ hfound, hid⟩
  decodable hf n e hmem hn := by
    obtain heq | hmem := List.mem_cons.mp hmem
    · cases heq
      exact hsummary.2.2.2 hf
    · exact h.decodable hf n e hmem hn

/-- Something in the root stops every retention pass. -/
def Troubled (readers : Readers) (w : World) : Prop :=
  ∃ name entry, Named.get? w.root name = some entry ∧ startsWith name "." = false ∧
    Undecodable readers entry

theorem summarize_secures (hq : Faultless permits faultless) (hT : Tolerant inv guar)
    {known : List String} {entries : List (String × Entry)} (hs : Same w s)
    (hentries : ∀ name entry, (name, entry) ∈ entries → Named.get? w.root name = some entry) :
    Secures (backupProtocol readers permits) (alone inv guar) g
      (fun r t => Same w t ∧ match r with
        | .ok summaries => Listed readers faultless w known entries summaries
        | .error _ => faultless → Troubled readers w)
      (summarize readers true known entries) s := by
  induction entries generalizing s with
  | nil => exact ⟨hs, ⟨by simp, by simp, by simp, by simp⟩⟩
  | cons first entries ih =>
    obtain ⟨name, entry⟩ := first
    have hentry : Named.get? w.root name = some entry := hentries name entry (by simp)
    have hrest : ∀ n e, (n, e) ∈ entries → Named.get? w.root n = some e :=
      fun n e hmem => hentries n e (List.mem_cons_of_mem _ hmem)
    unfold summarize
    refine Secures.ite (fun hhidden => ?_) fun hhidden => ?_
    · refine Secures.mono (fun r t h => ⟨h.1, ?_⟩) (ih hs hrest)
      cases r with
      | ok summaries => exact h.2.hidden hhidden
      | error x => exact h.2
    · have hshown : startsWith name "." = false := by simpa using hhidden
      have hone : Secures (backupProtocol readers permits) (alone inv guar) g
          (fun r t => Same w t ∧ ListedAs readers faultless w known name entry r)
          (summaryOf readers true known name entry) s := by
        cases entry with
        | bundle children => exact bundleSummary_secures hq hT hs hentry
        | file =>
          refine ⟨hs, unverified_listed rfl rfl rfl (fun _ => ?_) fun _ => id⟩
          rintro ⟨result, hresult⟩
          cases hresult
        | symlink target =>
          refine ⟨hs, unverified_listed rfl rfl rfl (fun _ => ?_) fun _ => id⟩
          rintro ⟨result, hresult⟩
          cases hresult
      refine Secures.alone_seq hone (fun summary t h => ?_)
        fun x t h => ⟨h.1, fun hf => ⟨name, entry, hentry, hshown, h.2 hf⟩⟩
      exact Secures.alone_seq (ih h.1 hrest) (fun summaries u hu => ⟨hu.1, hu.2.cons h.2⟩)
        fun x u hu => hu

/-- What a plan says, of the bundles that were found eligible. -/
structure Planned (readers : Readers) (faultless : Prop) (w : World) (keepAuto : Nat)
    (plan : RetentionPlan) (ids : List String) : Prop where
  nodup : ids.Nodup
  eligible : ∀ id ∈ ids, Eligible readers w id
  newest : ids.Pairwise (notBehind (keyAt readers w))
  complete : faultless → ids = newestEligible readers w
  retain : plan.retain = ids.take keepAuto
  expire : plan.expire = ids.drop keepAuto

theorem not_hidden {name : String} (h : isAutomaticBundleName readers name = true) :
    startsWith name "." = false := by
  simp only [isAutomaticBundleName, Bool.and_eq_true, decide_eq_true_eq] at h
  have htake : name.toList.take 5 = "auto-".toList := h.1.1.1.1.1.1.2
  unfold startsWith
  cases hl : name.toList with
  | nil => rfl
  | cons c rest =>
    rw [hl] at htake
    have hc : c = 'a' := (List.cons.inj htake).1
    rw [hc]
    rfl

theorem classify_automatic {name : String} :
    classify readers name = .automatic ↔ isAutomaticBundleName readers name = true := by
  unfold classify
  split <;> simp_all

theorem Listed.planned {config : CatalogBackupOpsConfig} {summaries : List BundleSummary}
    (h : Listed readers faultless w w.ledgerIds (byName w.root.rows) summaries) :
    Planned readers faultless w config.keepAuto
      (planOf config.keepAuto w.ledgerIds summaries)
      ((automaticVerified w.ledgerIds summaries).map BundleSummary.bundleId) := by
  have hmem : ∀ summary, summary ∈ automaticVerified w.ledgerIds summaries ↔
      summary ∈ summaries ∧ (summary.classification = .automatic ∧
        summary.verificationEligible = true) ∧ summary.bundleId ∈ w.ledgerIds := by
    intro summary
    simp [automaticVerified, newestFirst, List.mem_insertionSort, List.mem_filter]
  have hids : (summaries.map BundleSummary.bundleId).Nodup := by
    refine h.ids.nodup ?_
    have hperm : (byName w.root.rows).Perm w.root.rows := List.perm_insertionSort _ _
    exact (hperm.map Prod.fst).nodup_iff.mpr w.root.nodup
  have hnodup : ((automaticVerified w.ledgerIds summaries).map BundleSummary.bundleId).Nodup := by
    have hperm := (List.perm_insertionSort (notBehind bundleSortKey) (summaries.filter
      fun summary => summary.classification = .automatic && summary.verificationEligible &&
        summary.bundleId ∈ w.ledgerIds)).map BundleSummary.bundleId
    exact hperm.nodup_iff.mpr (hids.sublist (List.filter_sublist.map _))
  have heligible : ∀ summary ∈ automaticVerified w.ledgerIds summaries,
      Eligible readers w summary.bundleId := by
    intro summary hs
    obtain ⟨hin, ⟨hclass, hverified⟩, hledger⟩ := (hmem summary).mp hs
    have hright := h.right summary hin
    exact ⟨classify_automatic.mp (hright.classification ▸ hclass), hledger,
      hright.verified hverified⟩
  have hnewest : ((automaticVerified w.ledgerIds summaries).map BundleSummary.bundleId).Pairwise
      (notBehind (keyAt readers w)) := by
    refine List.pairwise_map.mpr ?_
    have hsorted : (automaticVerified w.ledgerIds summaries).Pairwise (notBehind bundleSortKey) :=
      List.pairwise_insertionSort _ _
    refine hsorted.imp_of_mem fun {a b} ha hb hab => ?_
    have hkey : ∀ c ∈ automaticVerified w.ledgerIds summaries,
        bundleSortKey c = keyAt readers w c.bundleId := by
      intro c hc
      obtain ⟨hin, ⟨-, hverified⟩, -⟩ := (hmem c).mp hc
      exact (h.right c hin).key hverified
    simpa [notBehind, hkey a ha, hkey b hb] using hab
  have hretention : ∀ summary ∈ automaticVerified w.ledgerIds summaries,
      summary.retentionEligible = true := by
    intro summary hs
    obtain ⟨hin, ⟨hclass, hverified⟩, hledger⟩ := (hmem summary).mp hs
    have hright := h.right summary hin
    rw [hright.retention hverified, ← hright.classification, hclass]
    simpa using hledger
  refine ⟨hnodup, ?_, hnewest, fun hf => ?_, rfl, planOf_expire config.enough hnodup hretention⟩
  · intro id hid
    obtain ⟨summary, hs, rfl⟩ := List.mem_map.mp hid
    exact heligible summary hs
  · refine newestFirst_unique keyAt_injective hnodup nodup_newestEligible hnewest
      pairwise_newestEligible fun id => ?_
    rw [mem_newestEligible]
    constructor
    · intro hid
      obtain ⟨summary, hs, rfl⟩ := List.mem_map.mp hid
      exact heligible summary hs
    · intro hid
      obtain ⟨children, result, hentry, hresult⟩ := hid.bundle
      have hin : (id, Entry.bundle children) ∈ byName w.root.rows :=
        (List.mem_insertionSort _).mpr (Named.mem_rows.mpr hentry)
      obtain ⟨summary, hs, rfl, hverified⟩ := h.complete hf id _ hin (not_hidden hid.automatic)
        ⟨result, hresult⟩
      refine List.mem_map.mpr ⟨summary, (hmem summary).mpr ⟨hs, ⟨?_, hverified⟩, hid.ledgered⟩, rfl⟩
      rw [(h.right summary hs).classification]
      exact classify_automatic.mpr hid.automatic

/-- The operator status cannot be read. -/
def World.Rejected (w : World) : Prop := ∃ code, w.status = .rejected code

theorem loadStatus_ok {i : Moment} {status : Status}
    (h : (perform readers i .loadStatus w).1 = .ok status) :
    status.ledgerIds = w.ledgerIds ∧ status.lastSuccess = w.lastSuccess ∧ ¬w.Rejected := by
  simp only [perform] at h
  unfold World.ledgerIds World.lastSuccess World.Rejected
  split at h
  · rename_i habsent
    injection h with h
    rw [← h, habsent]
    exact ⟨rfl, rfl, by simp⟩
  · cases h
  · rename_i loaded hloaded
    injection h with h
    rw [← h, hloaded]
    exact ⟨rfl, rfl, by simp⟩

/-- A status written back with the ledger and the success it was read with. -/
theorem writeStatus_same {i : Moment} {status : Status} (hledger : status.ledgerIds = s.ledgerIds)
    (hsuccess : status.lastSuccess = s.lastSuccess) (hreadable : ¬s.Rejected) :
    Same s (perform readers i (.writeStatus status) s).2 where
  root := rfl
  ledger := hledger
  lastSuccess := hsuccess
  rejected code := ⟨fun h => (nomatch h), fun h => absurd ⟨code, h⟩ hreadable⟩

theorem loadStatus_error {i : Moment} {x : Failure}
    (h : (perform readers i .loadStatus w).1 = .error x) : w.Rejected := by
  simp only [perform] at h
  split at h
  · cases h
  · exact ⟨_, ‹_›⟩
  · cases h

theorem Same.rejected_iff {s t : World} (h : Same s t) : t.Rejected ↔ s.Rejected :=
  exists_congr h.rejected

theorem buildRetentionPlan_secures (hq : Faultless permits faultless) (hT : Tolerant inv guar)
    (config : CatalogBackupOpsConfig) (hs : Same w s) :
    Secures (backupProtocol readers permits) (alone inv guar) g
      (fun r t => Same w t ∧ match r with
        | .ok plan => (∃ ids, Planned readers faultless w config.keepAuto plan ids) ∧
          (faultless → ¬Troubled readers w) ∧ ¬w.Rejected ∧
          ∃ i u, Same w u ∧ permits g i .iterdir u
        | .error _ => faultless → Troubled readers w ∨ w.Rejected)
      (buildRetentionPlan readers config) s := by
  have hfine : ∀ {e : Effect} {x : Failure} {i : Moment} {u : World},
      (∃ a, (perform readers i e u).1 = .ok a) →
      (faultless → (perform readers i e u).1 = .error x) →
      faultless → Troubled readers w ∨ w.Rejected := by
    rintro e x i u ⟨a, ha⟩ hx hf
    rw [ha] at hx
    cases hx hf
  refine quiet_bind hq hT hs rfl (fun i₁ s₁ _ _ hs₁ _ => ?_) fun i t x ht hx =>
    ⟨ht, hfine (e := .ensureOpsLayout) ⟨(), rfl⟩ hx⟩
  refine quiet_bind hq hT hs₁ rfl (fun i₂ s₂ _ _ hs₂ _ => ?_) fun i t x ht hx =>
    ⟨ht, hfine (e := .validateBackupRoot) ⟨(), rfl⟩ hx⟩
  refine quiet_bind hq hT hs₂ rfl (fun i₃ s₃ status _ hs₃ hstatus => ?_) fun i t x ht hx =>
    ⟨ht, fun hf => Or.inr (hs₂.rejected_iff.mp (loadStatus_error (hx hf)))⟩
  have hledger : status.ledgerIds = w.ledgerIds := (loadStatus_ok hstatus).1.trans hs₂.ledger
  have hlist : Secures (backupProtocol readers permits) (alone inv guar) g
      (fun r t => Same w t ∧ match r with
        | .ok summaries => Listed readers faultless w w.ledgerIds (byName w.root.rows) summaries ∧
          ∃ i u, Same w u ∧ permits g i .iterdir u
        | .error _ => faultless → Troubled readers w ∨ w.Rejected)
      (listBundleSummaries readers true status.ledgerIds) s₃ := by
    refine quiet_bind hq hT hs₃ rfl (fun i₄ s₄ _ _ hs₄ _ => ?_) fun i t x ht hx =>
      ⟨ht, hfine (e := .validateBackupRoot) ⟨(), rfl⟩ hx⟩
    refine quiet_bind hq hT hs₄ rfl (fun i₅ s₅ _ _ hs₅ _ => ?_) fun i t x ht hx =>
      ⟨ht, fun hf => Or.inr (hs₄.rejected_iff.mp (loadStatus_error (hx hf)))⟩
    refine quiet_bind hq hT hs₅ rfl (fun i₆ s₆ entries hp₆ hs₆ hentries => ?_) fun i t x ht hx =>
      ⟨ht, hfine (e := .iterdir) ⟨s₅.root.rows, rfl⟩ hx⟩
    have hrows : entries = w.root.rows := by
      have hrows : s₅.root.rows = entries := Except.ok.inj hentries
      rw [← hrows, hs₅.root]
    rw [hledger, hrows]
    have hin : ∀ name entry, (name, entry) ∈ byName w.root.rows →
        Named.get? w.root name = some entry :=
      fun name entry hmem => Named.mem_rows.mp ((List.mem_insertionSort _).mp hmem)
    refine Secures.mono (fun r t h => ⟨h.1, ?_⟩) (summarize_secures hq hT hs₆ hin)
    cases r with
    | ok summaries => exact ⟨h.2, i₆, s₅, hs₅, hp₆⟩
    | error x => exact fun hf => Or.inl (h.2 hf)
  refine Secures.alone_seq hlist (fun summaries t h => ?_) fun x t h => h
  have hplanned : ∃ ids, Planned readers faultless w config.keepAuto
      (planOf config.keepAuto status.ledgerIds summaries) ids := by
    rw [hledger]
    exact ⟨_, h.2.1.planned⟩
  refine ⟨h.1, hplanned, fun hf => ?_, ?_, h.2.2⟩
  rotate_left
  · exact fun hrejected => (loadStatus_ok hstatus).2.2 (hs₂.rejected_iff.mpr hrejected)
  rintro ⟨name, entry, hentry, hshown, htrouble⟩
  exact h.2.1.decodable hf name entry
    ((List.mem_insertionSort _).mpr (Named.mem_rows.mpr hentry)) hshown htrouble

end Walk
end FrameNest.Backups
