import FrameNest.Backups.Surroundings

/-! Which automatic bundles a retention pass keeps, and how it deletes the others. -/
namespace FrameNest.Backups
open Concurrent Relational

def minKeepAuto : Nat := 3

/-- The part of the operator configuration that retention reads; a smaller `KEEP_AUTO` is
refused when it is parsed. -/
structure CatalogBackupOpsConfig where
  keepAuto : Nat
  enough : minKeepAuto ≤ keepAuto

structure RetentionPlan where
  keepAuto : Nat
  retain : List String
  expire : List String
  pinnedCount : Nat
  automaticCount : Nat
deriving DecidableEq

section Listing
variable (readers : Readers)

/- `manifest.get("created_at_utc")`, when it is a text. -/
def createdAtUtc : Parsed.Loaded → Option String
  | .value (.obj manifest) => (manifest.lookup "created_at_utc").bind Parsed.asStr
  | _ => none

def manifestRevision : Parsed.Loaded → Option String
  | .value (.obj manifest) => (manifest.lookup "catalog").bind Parsed.asObj |>.bind
    (·.lookup "alembic_revision") |>.bind Parsed.asStr
  | _ => none

/- `json.loads` again, of a manifest that is read for its creation time. -/
def loadsOrRaise (loaded : Parsed.Loaded) : BackupProgram Unit :=
  match loaded with
  | .value _ => pure ()
  | .notJson | .unreadable => .fail .other

/- The verification of one complete bundle: nothing when a `BackupError` says no. -/
def verifiedSummary (name : String) : BackupProgram (Option (String × Option String)) :=
  (do
    let verified ← verifyBundle name
    let loaded ← readManifest name
    loadsOrRaise loaded
    pure (some (verified.alembicRevision, createdAtUtc loaded))).rescue fun x =>
  if x.isBackupError then pure none else .fail x

/- The manifest of a bundle that is not verified: nothing when it cannot be parsed. -/
def unverifiedSummary (name : String) :
    BackupProgram (Option (Option String × Option String)) :=
  (do
    let loaded ← readManifest name
    match loaded with
    | .value _ => pure (some (manifestRevision loaded, createdAtUtc loaded))
    | .notJson => pure none
    | .unreadable => .fail .other).rescue fun x =>
  if x.isOSError then pure none else .fail x

/- A name that is no directory of its own. -/
def plainSummary (name : String) : BundleSummary :=
  ⟨name, classify readers name, false, false, false, none, none⟩

def completeNames (name : String) : BackupProgram (List String) :=
  (childNames name).rescue fun x => if x.isOSError then pure [] else .fail x

/- One bundle directory of `list_bundle_summaries`. -/
def bundleSummary (verify : Bool) (knownLedger : List String) (name : String) :
    BackupProgram BundleSummary := do
  let names ← completeNames name
  if bundleLooksComplete names then
    if verify then do
      let found ← verifiedSummary name
      match found with
      | some (revision, created) =>
        pure ⟨name, classify readers name, true, true,
          classify readers name = .automatic && name ∈ knownLedger, created, some revision⟩
      | none => pure ⟨name, classify readers name, true, false, false, none, none⟩
    else do
      let found ← unverifiedSummary name
      match found with
      | some (revision, created) =>
        pure ⟨name, classify readers name, true, true, false, created, revision⟩
      | none => pure ⟨name, classify readers name, false, false, false, none, none⟩
  else pure ⟨name, classify readers name, false, false, false, none, none⟩

def summaryOf (verify : Bool) (knownLedger : List String) (name : String) :
    Entry → BackupProgram BundleSummary
  | .bundle _ => bundleSummary readers verify knownLedger name
  | .file | .symlink _ => pure (plainSummary readers name)

def summarize (verify : Bool) (knownLedger : List String) :
    List (String × Entry) → BackupProgram (List BundleSummary)
  | [] => pure []
  | (name, entry) :: rest =>
    if startsWith name "." then summarize verify knownLedger rest
    else do
      let summary ← summaryOf readers verify knownLedger name entry
      let summaries ← summarize verify knownLedger rest
      pure (summary :: summaries)

/- `sorted(.., key=lambda path: path.name)`. -/
def byName (entries : List (String × Entry)) : List (String × Entry) :=
  entries.insertionSort fun a b => a.1 ≤ b.1

def listBundleSummaries (verify : Bool) (ledgerIds : List String) :
    BackupProgram (List BundleSummary) := do
  validateBackupRoot
  let _ ← loadStatus
  let entries ← iterdir
  summarize readers verify ledgerIds (byName entries)

end Listing

section Planning

/- The loop of `build_retention_plan` that collects what expires. -/
def collectExpired (retained floorProtected : List String) (newest : Option String)
    (automaticCount : Nat) : List BundleSummary → List String → List String
  | [], expire => expire
  | summary :: rest, expire =>
    if summary.bundleId ∈ retained ∨ newest = some summary.bundleId ∨
        summary.bundleId ∈ floorProtected then
      collectExpired retained floorProtected newest automaticCount rest expire
    else if automaticCount - expire.length ≤ minKeepAuto then expire
    else if summary.retentionEligible = false then
      collectExpired retained floorProtected newest automaticCount rest expire
    else collectExpired retained floorProtected newest automaticCount rest
      (expire ++ [summary.bundleId])

/- `.sort(key=_bundle_sort_key, reverse=True)`. -/
def newestFirst (summaries : List BundleSummary) : List BundleSummary :=
  summaries.insertionSort (notBehind bundleSortKey)

def automaticVerified (ledgerIds : List String) (summaries : List BundleSummary) :
    List BundleSummary :=
  newestFirst (summaries.filter fun summary => summary.classification = .automatic &&
    summary.verificationEligible && summary.bundleId ∈ ledgerIds)

def planOf (keepAuto : Nat) (ledgerIds : List String) (summaries : List BundleSummary) :
    RetentionPlan :=
  let automatic := automaticVerified ledgerIds summaries
  let ids := automatic.map BundleSummary.bundleId
  ⟨keepAuto, ids.take keepAuto,
    collectExpired (ids.take keepAuto) (ids.take minKeepAuto) ids.head? ids.length automatic [],
    summaries.countP fun summary => summary.classification = .pinned, ids.length⟩

variable (readers : Readers)

def buildRetentionPlan (config : CatalogBackupOpsConfig) : BackupProgram RetentionPlan := do
  ensureOpsLayout
  validateBackupRoot
  let status ← loadStatus
  let summaries ← listBundleSummaries readers true status.ledgerIds
  pure (planOf config.keepAuto status.ledgerIds summaries)

end Planning

section Deleting
variable (readers : Readers)

def demandOps (b : Bool) (code : ErrorCode) : BackupProgram Unit :=
  if b then pure () else .fail (.operations code)

/- The children of the directory a bundle name resolves to, checked before any is removed. -/
def checkedTarget (target : String) : Option Entry → BackupProgram Unit
  | some (.bundle children) => do
    demandOps (children.rows.all fun child => child.2 ≠ .symlink) .unsafePath
    demandOps ((Named.names children).all fun name => name = manifestName || name = catalogName)
      .unexpectedBundleState
    unlink target manifestName
    unlink target catalogName
    (rmdir target).rescue fun x =>
      if x.isOSError then .fail (.operations .expireFailed) else .fail x
  | some _ => .fail (.operations .unsafePath)
  | none => pure ()

def deleteEligibleBundle (bundleId : String) : BackupProgram Unit := do
  demandOps (isAutomaticBundleName readers bundleId) .notEligible
  demandOps (!(bundleId.toList.contains '/' || bundleId = "." || bundleId = ".." ||
    bundleId.toList.contains '\\')) .unsafePath
  let resolved ← resolve bundleId
  match resolved with
  | none => .fail (.operations .unsafePath)
  | some target => do
    let entry ← lookAt target
    checkedTarget target entry

def removeLedgerEntry (bundleId : String) : BackupProgram Unit := do
  let status ← loadStatus
  writeStatus { status with
    autoLedger := status.autoLedger.filter fun entry => entry.bundleId ≠ bundleId }

/- The deletion loop of a retention pass, with what its caller does when a deletion fails. -/
def expireEach (config : CatalogBackupOpsConfig) (onFailure : String → Failure → BackupProgram Unit) :
    List String → List String → BackupProgram (List String)
  | [], deleted => pure deleted
  | bundleId :: rest, deleted => do
    let revalidated ← buildRetentionPlan readers config
    if bundleId ∈ revalidated.expire then do
      (deleteEligibleBundle readers bundleId).rescue (onFailure bundleId)
      removeLedgerEntry bundleId
      expireEach config onFailure rest (deleted ++ [bundleId])
    else expireEach config onFailure rest deleted

structure ExpirePayload where
  apply : Bool
  keepAuto : Nat
  retain : List String
  expire : List String
  deleted : List String

/- `except CatalogBackupOpsError` of the deletion: recorded, then raised again. -/
def recordExpireFailure (clock : Utc) (bundleId : String) : Failure → BackupProgram Unit
  | .operations code => do
    let status ← loadStatus
    writeStatus { status with recentFailure := some ⟨clock.format, code, .expire, none⟩ }
    appendEvent (.expirePartialFailure clock.format bundleId code)
    .fail (.operations code)
  | x => .fail x

/- `expire_automatic_backups`, holding the lock. -/
def expireAutomaticBackups (config : CatalogBackupOpsConfig) (apply : Bool) (clock : Utc) :
    BackupProgram ExpirePayload := do
  let plan ← buildRetentionPlan readers config
  if apply then do
    let deleted ← expireEach readers config (recordExpireFailure clock) plan.expire []
    appendEvent (.expireApplied clock.format deleted.length)
    pure ⟨true, plan.keepAuto, plan.retain, plan.expire, deleted⟩
  else do
    appendEvent (.expireDryRun clock.format plan.expire.length)
    pure ⟨false, plan.keepAuto, plan.retain, plan.expire, []⟩

/- The retention pass that ends a scheduled run. -/
def scheduledRetention (config : CatalogBackupOpsConfig) :
    BackupProgram (RetentionPlan × List String) := do
  let plan ← buildRetentionPlan readers config
  let expired ← expireEach readers config (fun _ => .fail) plan.expire []
  if expired = [] then pure (plan, expired)
  else do
    let now ← Program.perform Effect.now
    appendEvent (.scheduledExpireApplied (Utc.format now) expired.length)
    pure (plan, expired)

end Deleting
end FrameNest.Backups

/-! What a retention plan expires: of the bundles it considered, the newest come first and
everything behind the first `KEEP_AUTO` of them goes. -/
namespace FrameNest.Backups
open Concurrent Relational

section Order
variable {α : Type} {key : α → String × String} {a b c : α}

theorem notBehind_total (key : α → String × String) (a b : α) :
    notBehind key a b ∨ notBehind key b a := by
  unfold notBehind
  obtain h | h | h := lt_trichotomy (key a).1 (key b).1
  · exact Or.inr (Or.inl h)
  · obtain hs | hs := le_total (key a).2 (key b).2
    · exact Or.inr (Or.inr ⟨h, hs⟩)
    · exact Or.inl (Or.inr ⟨h.symm, hs⟩)
  · exact Or.inl (Or.inl h)

theorem notBehind_trans (h : notBehind key a b) (h' : notBehind key b c) : notBehind key a c := by
  unfold notBehind at *
  obtain h | ⟨h, hs⟩ := h
  · obtain h' | ⟨h', -⟩ := h'
    · exact Or.inl (h'.trans h)
    · exact Or.inl (h' ▸ h)
  · obtain h' | ⟨h', hs'⟩ := h'
    · exact Or.inl (h ▸ h')
    · exact Or.inr ⟨h'.trans h, hs'.trans hs⟩

theorem notBehind_antisymm (h : notBehind key a b) (h' : notBehind key b a) : key a = key b := by
  unfold notBehind at *
  obtain h | ⟨h, hs⟩ := h
  · obtain h' | ⟨h', -⟩ := h'
    · exact absurd (h.trans h') (lt_irrefl _)
    · exact absurd (h' ▸ h) (lt_irrefl _)
  · obtain h' | ⟨-, hs'⟩ := h'
    · exact absurd (h ▸ h') (lt_irrefl _)
    · exact Prod.ext h.symm (le_antisymm hs' hs)

instance : Std.Total (notBehind key) := ⟨notBehind_total key⟩

instance : IsTrans α (notBehind key) := ⟨fun _ _ _ => notBehind_trans⟩

/-- There is one way to list distinct keys with the newest first. -/
theorem newestFirst_unique (hkey : Function.Injective key) {l l' : List α} (hl : l.Nodup)
    (hl' : l'.Nodup) (h : l.Pairwise (notBehind key)) (h' : l'.Pairwise (notBehind key))
    (hmem : ∀ a, a ∈ l ↔ a ∈ l') : l = l' :=
  List.Perm.eq_of_pairwise (fun _ _ _ _ hab hba => hkey (notBehind_antisymm hab hba)) h h'
    ((List.perm_ext_iff_of_nodup hl hl').mpr hmem)

end Order

section Collecting
variable {retained floorProtected : List String} {newest : Option String} {automaticCount : Nat}

theorem collectExpired_skip {kept rest : List BundleSummary} {expire : List String}
    (h : ∀ summary ∈ kept, summary.bundleId ∈ retained) :
    collectExpired retained floorProtected newest automaticCount (kept ++ rest) expire =
      collectExpired retained floorProtected newest automaticCount rest expire := by
  induction kept with
  | nil => rfl
  | cons summary kept ih =>
    have hmem : summary.bundleId ∈ retained := h summary (by simp)
    simpa [collectExpired, hmem] using ih fun s hs => h s (by simp [hs])

theorem collectExpired_all {rest : List BundleSummary} {expire : List String}
    (hretained : ∀ summary ∈ rest, summary.bundleId ∉ retained)
    (hnewest : ∀ summary ∈ rest, newest ≠ some summary.bundleId)
    (hfloor : ∀ summary ∈ rest, summary.bundleId ∉ floorProtected)
    (heligible : ∀ summary ∈ rest, summary.retentionEligible = true)
    (hcount : rest ≠ [] → expire.length + rest.length + minKeepAuto ≤ automaticCount) :
    collectExpired retained floorProtected newest automaticCount rest expire =
      expire ++ rest.map BundleSummary.bundleId := by
  induction rest generalizing expire with
  | nil => simp [collectExpired]
  | cons summary rest ih =>
    have hcount := hcount (by simp)
    have hlength : rest ≠ [] → (expire ++ [summary.bundleId]).length + rest.length + minKeepAuto ≤
        automaticCount := by
      intro _
      simp only [List.length_append, List.length_cons, List.length_nil] at hcount ⊢
      omega
    have hroom : ¬automaticCount - expire.length ≤ minKeepAuto := by
      simp only [List.length_cons] at hcount
      omega
    have hrest := ih (fun s hs => hretained s (by simp [hs])) (fun s hs => hnewest s (by simp [hs]))
      (fun s hs => hfloor s (by simp [hs])) (fun s hs => heligible s (by simp [hs])) hlength
    simp [collectExpired, hretained summary (by simp), hnewest summary (by simp),
      hfloor summary (by simp), heligible summary (by simp), hroom, hrest]

/-- The protected newest three are among the retained, so they never bind: what expires is
what stands behind the first `KEEP_AUTO`. -/
theorem planOf_expire {keepAuto : Nat} (hkeep : minKeepAuto ≤ keepAuto) {ledgerIds : List String}
    {summaries : List BundleSummary}
    (hnodup : ((automaticVerified ledgerIds summaries).map BundleSummary.bundleId).Nodup)
    (heligible : ∀ summary ∈ automaticVerified ledgerIds summaries,
      summary.retentionEligible = true) :
    (planOf keepAuto ledgerIds summaries).expire =
      ((automaticVerified ledgerIds summaries).map BundleSummary.bundleId).drop keepAuto := by
  have hpos : 0 < keepAuto := Nat.lt_of_lt_of_le (by decide) hkeep
  simp only [planOf]
  generalize automaticVerified ledgerIds summaries = automatic at *
  have hdrop : ∀ summary ∈ automatic.drop keepAuto,
      summary.bundleId ∈ (automatic.map BundleSummary.bundleId).drop keepAuto := by
    intro summary hs
    rw [← List.map_drop]
    exact List.mem_map_of_mem hs
  have hapart : ∀ summary ∈ automatic.drop keepAuto,
      summary.bundleId ∉ (automatic.map BundleSummary.bundleId).take keepAuto := by
    intro summary hs hmem
    rw [← List.take_append_drop keepAuto (automatic.map BundleSummary.bundleId)] at hnodup
    exact (List.nodup_append.mp hnodup).2.2 _ hmem _ (hdrop summary hs) rfl
  have hsplit : automatic = automatic.take keepAuto ++ automatic.drop keepAuto :=
    (List.take_append_drop _ _).symm
  have hskip : ∀ summary ∈ automatic.take keepAuto,
      summary.bundleId ∈ (automatic.map BundleSummary.bundleId).take keepAuto := by
    intro summary hs
    rw [← List.map_take]
    exact List.mem_map_of_mem hs
  conv_lhs => arg 5; rw [hsplit]
  rw [collectExpired_skip hskip, collectExpired_all hapart, List.nil_append, List.map_drop]
  · intro summary hs hhead
    refine hapart summary hs ?_
    cases hids : automatic.map BundleSummary.bundleId with
    | nil => simp [hids] at hhead
    | cons first rest =>
      rw [hids, List.head?_cons, Option.some.injEq] at hhead
      rw [← hhead]
      obtain ⟨n, rfl⟩ := Nat.exists_eq_succ_of_ne_zero (Nat.pos_iff_ne_zero.mp hpos)
      simp
  · intro summary hs hfloor
    refine hapart summary hs ?_
    exact (List.take_subset_take_left _ hkeep) hfloor
  · exact fun summary hs => heligible summary (List.mem_of_mem_drop hs)
  · intro hrest
    have hlong : keepAuto < automatic.length := by
      by_contra hle
      exact hrest (List.drop_eq_nil_of_le (Nat.le_of_not_lt hle))
    simp only [List.length_nil, List.length_drop, List.length_map]
    omega

end Collecting
end FrameNest.Backups
