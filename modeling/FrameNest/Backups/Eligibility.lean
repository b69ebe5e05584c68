import FrameNest.Backups.Retention

/-! Which bundles a retention pass may delete, and the order it sees them in. -/
namespace FrameNest.Backups
open Relational

section Verifying
variable {readers : Readers}

theorem demand_ok {b : Bool} {x : Failure} {u : Unit} (h : demand b x = .ok u) : b = true := by
  cases b with
  | true => rfl
  | false => simp [demand] at h

theorem demand_error {b : Bool} {x y : Failure} (h : demand b x = .error y) : y = x := by
  cases b with
  | true => simp [demand] at h
  | false => simpa [demand] using h.symm

/-- The first step of an `Except` computation that ended well. -/
theorem bind_ok {α β : Type} {p : Except Failure α} {f : α → Except Failure β} {b : β}
    (h : p >>= f = .ok b) : ∃ a, p = .ok a ∧ f a = .ok b := by
  cases p with
  | ok a => exact ⟨a, rfl, h⟩
  | error x => cases h

theorem bind_error {α β : Type} {p : Except Failure α} {f : α → Except Failure β} {x : Failure}
    (h : p >>= f = .error x) : p = .error x ∨ ∃ a, p = .ok a ∧ f a = .error x := by
  cases p with
  | ok a => exact Or.inr ⟨a, rfl, h⟩
  | error y =>
    cases h
    exact Or.inl rfl

/-- Computations whose errors are all `BackupError`s. -/
def Polite {α : Type} (p : Except Failure α) : Prop := ∀ x, p = .error x → x.isBackupError = true

theorem Polite.bind {α β : Type} {p : Except Failure α} {f : α → Except Failure β}
    (hp : Polite p) (hf : ∀ a, Polite (f a)) : Polite (p >>= f) := by
  intro x h
  obtain h | ⟨a, -, h⟩ := bind_error h
  · exact hp x h
  · exact hf a x h

theorem Polite.pure {α : Type} (a : α) : Polite (.ok a) := by
  intro x h
  cases h

theorem Polite.refuse {α : Type} (code : ErrorCode) : Polite (.error (.backup code) : Except Failure α) := by
  intro x h
  cases h
  rfl

theorem Polite.demand (b : Bool) (code : ErrorCode) : Polite (demand b (.backup code)) := by
  intro x h
  rw [demand_error h]
  rfl

theorem validateManifest_polite (payload : List (String × Parsed)) :
    Polite (validateManifest payload) := by
  unfold validateManifest
  -- a chain of demands and of matches whose other branch is `malformed`
  repeat' first
    | exact Polite.pure _
    | exact Polite.refuse _
    | refine (Polite.demand _ _).bind fun _ => ?_
    | split

theorem existingRegularFile_ok {children : Children} {file : String} {content : Bytes} :
    existingRegularFile children file = .ok content ↔
      Named.get? children file = some (.file content) := by
  unfold existingRegularFile
  split <;> simp_all

theorem existingRegularFile_polite (children : Children) (file : String) :
    Polite (existingRegularFile children file) := by
  unfold existingRegularFile
  split
  · exact Polite.pure _
  · exact Polite.refuse _
  · exact Polite.refuse _
  · exact Polite.refuse _

theorem catalogRevision_polite (content : Bytes) : Polite (catalogRevision readers content) := by
  unfold catalogRevision
  split
  · exact Polite.pure _
  · exact Polite.refuse _

/-- A bundle that verifies is complete, and its manifest can be loaded again. -/
theorem verifyChildren_ok {children : Children} {result : BackupResult}
    (h : verifyChildren readers children = .ok result) :
    bundleLooksComplete (Named.names children) = true ∧
      ∃ manifest catalog payload, Named.get? children manifestName = some (.file manifest) ∧
        Named.get? children catalogName = some (.file catalog) ∧
        readers.loads manifest = .value (.obj payload) := by
  unfold verifyChildren at h
  obtain ⟨_, hstate, h⟩ := bind_ok h
  obtain ⟨manifest, hmanifest, h⟩ := bind_ok h
  obtain ⟨catalog, hcatalog, h⟩ := bind_ok h
  obtain ⟨loaded, hloaded, -⟩ := bind_ok h
  obtain ⟨_, htemp, hnames⟩ := bind_ok hstate
  have htemp := demand_ok htemp
  have hnames := demand_ok hnames
  have hmanifest := existingRegularFile_ok.mp hmanifest
  have hcatalog := existingRegularFile_ok.mp hcatalog
  have hinManifest : manifestName ∈ Named.names children := Named.mem_names.mpr (by simp [hmanifest])
  have hinCatalog : catalogName ∈ Named.names children := Named.mem_names.mpr (by simp [hcatalog])
  refine ⟨?_, manifest, catalog, ?_⟩
  · simp only [bundleLooksComplete, htemp, hnames, hinManifest, hinCatalog, decide_true,
      Bool.and_self]
  · unfold loadManifest at hloaded
    split at hloaded
    · rename_i payload hpayload
      exact ⟨payload, hmanifest, hcatalog, hpayload⟩
    · cases hloaded
    · cases hloaded
    · cases hloaded

/-- Verification of a complete bundle raises something else than a `BackupError` exactly
when its manifest cannot be decoded. -/
theorem verifyChildren_impolite {children : Children} :
    (∃ x, verifyChildren readers children = .error x ∧ x.isBackupError = false) ↔
      (rejectUnexpectedBundleState children = .ok () ∧
        ∃ manifest catalog, Named.get? children manifestName = some (.file manifest) ∧
          Named.get? children catalogName = some (.file catalog) ∧
          readers.loads manifest = .unreadable) := by
  constructor
  · rintro ⟨x, h, himpolite⟩
    have hno : ∀ {p : Except Failure Unit}, Polite p → p ≠ .error x := by
      intro p hp hx
      rw [hp x hx] at himpolite
      cases himpolite
    unfold verifyChildren at h
    obtain h | ⟨_, hstate, h⟩ := bind_error h
    · exact absurd h (hno ((Polite.demand _ _).bind fun _ => Polite.demand _ _))
    obtain h | ⟨manifest, hmanifest, h⟩ := bind_error h
    · rw [existingRegularFile_polite _ _ x h] at himpolite
      cases himpolite
    obtain h | ⟨catalog, hcatalog, h⟩ := bind_error h
    · rw [existingRegularFile_polite _ _ x h] at himpolite
      cases himpolite
    obtain h | ⟨loaded, -, h⟩ := bind_error h
    · unfold loadManifest at h
      refine ⟨hstate, manifest, catalog, existingRegularFile_ok.mp hmanifest, existingRegularFile_ok.mp hcatalog, ?_⟩
      split at h
      · rw [validateManifest_polite _ x h] at himpolite
        cases himpolite
      · cases h
        cases himpolite
      · cases h
        cases himpolite
      · assumption
    · have hrest : Polite (.error x : Except Failure BackupResult) := by
        rw [← h]
        refine (Polite.demand _ _).bind fun _ => (Polite.demand _ _).bind fun _ => Polite.bind
          ((Polite.demand _ _).bind fun _ => Polite.demand _ _) fun _ => ?_
        exact (catalogRevision_polite _).bind fun _ => (Polite.demand _ _).bind fun _ =>
          Polite.pure _
      rw [hrest x rfl] at himpolite
      cases himpolite
  · rintro ⟨hstate, manifest, catalog, hmanifest, hcatalog, hloads⟩
    have hload : loadManifest readers manifest = .error .other := by simp [loadManifest, hloads]
    refine ⟨.other, ?_, rfl⟩
    unfold verifyChildren
    rw [hstate, existingRegularFile_ok.mpr hmanifest, existingRegularFile_ok.mpr hcatalog]
    simp [bind, Except.bind, hload]

end Verifying

section Eligible
variable (readers : Readers) (w : World)

/-- The creation time a name in the root is ordered by. -/
def createdText : Option Entry → String
  | some (.bundle children) =>
    match Named.get? children manifestName with
    | some (.file content) => (createdAtUtc (readers.loads content)).getD ""
    | _ => ""
  | _ => ""

/-- A complete bundle whose verification raises something that is no `BackupError`. -/
def Undecodable : Entry → Prop
  | .bundle children => bundleLooksComplete (Named.names children) = true ∧
    ∃ x, verifyChildren readers children = .error x ∧ x.isBackupError = false
  | _ => False

/-- An automatic bundle of the ledger that verifies. -/
structure Eligible (name : String) : Prop where
  automatic : isAutomaticBundleName readers name = true
  ledgered : name ∈ w.ledgerIds
  verifies : ∃ result, verifyCatalogBackup readers (Named.get? w.root name) = .ok result

def verifies (entry : Option Entry) : Bool :=
  match verifyCatalogBackup readers entry with
  | .ok _ => true
  | .error _ => false

instance (name : String) : Decidable (Eligible readers w name) :=
  decidable_of_iff (isAutomaticBundleName readers name = true ∧ name ∈ w.ledgerIds ∧
    verifies readers (Named.get? w.root name) = true) <| by
  have hverifies : verifies readers (Named.get? w.root name) = true ↔
      ∃ result, verifyCatalogBackup readers (Named.get? w.root name) = .ok result := by
    unfold verifies
    split <;> simp_all
  rw [hverifies]
  exact ⟨fun h => ⟨h.1, h.2.1, h.2.2⟩, fun h => ⟨h.automatic, h.ledgered, h.verifies⟩⟩

def keyAt (name : String) : String × String := (createdText readers (Named.get? w.root name), name)

/-- The eligible bundles, greatest `(created_at_utc, bundle id)` first. -/
def newestEligible : List String :=
  ((Named.names w.root).filter fun name => Eligible readers w name).insertionSort
    (notBehind (keyAt readers w))

variable {readers} {w}

theorem keyAt_injective : Function.Injective (keyAt readers w) :=
  fun _ _ h => congrArg Prod.snd h

theorem Eligible.mem_names {name : String} (h : Eligible readers w name) :
    name ∈ Named.names w.root := by
  obtain ⟨result, hresult⟩ := h.verifies
  refine Named.mem_names.mpr ?_
  cases hget : Named.get? w.root name with
  | some entry => rfl
  | none =>
    rw [hget] at hresult
    cases hresult

theorem Eligible.bundle {name : String} (h : Eligible readers w name) :
    ∃ children result, Named.get? w.root name = some (.bundle children) ∧
      verifyChildren readers children = .ok result := by
  obtain ⟨result, hresult⟩ := h.verifies
  cases hget : Named.get? w.root name with
  | none =>
    rw [hget] at hresult
    cases hresult
  | some entry =>
    rw [hget] at hresult
    cases entry with
    | bundle children => exact ⟨children, result, rfl, hresult⟩
    | file => cases hresult
    | symlink target => cases hresult

@[simp] theorem mem_newestEligible {name : String} :
    name ∈ newestEligible readers w ↔ Eligible readers w name := by
  simp only [newestEligible, List.mem_insertionSort, List.mem_filter, decide_eq_true_eq]
  exact ⟨And.right, fun h => ⟨h.mem_names, h⟩⟩

theorem nodup_newestEligible : (newestEligible readers w).Nodup :=
  (List.perm_insertionSort _ _).nodup_iff.mpr ((Named.nodup_names w.root).filter _)

theorem pairwise_newestEligible :
    (newestEligible readers w).Pairwise (notBehind (keyAt readers w)) :=
  List.pairwise_insertionSort _ _

/-- Eligibility and order are read from the root and the ledger. -/
theorem Eligible.congr {t : World} (hroot : t.root = w.root) (hledger : t.ledgerIds = w.ledgerIds)
    {name : String} : Eligible readers t name ↔ Eligible readers w name := by
  constructor
  · rintro ⟨hauto, hmem, hverify⟩
    exact ⟨hauto, hledger ▸ hmem, hroot ▸ hverify⟩
  · rintro ⟨hauto, hmem, hverify⟩
    exact ⟨hauto, hledger ▸ hmem, hroot ▸ hverify⟩

end Eligible
end FrameNest.Backups
