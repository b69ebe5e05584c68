import FrameNest.Concurrent.Alone
import FrameNest.Uploads.ServiceOperations

/-! What a publication leaves in the destination: the final target, and the temporary name
that its copy was made under. -/
namespace FrameNest.Uploads
open Relational Plain Concurrent Durable

/-- The final target is there, with the bytes the publication announces. -/
def HasTarget (sha256 : List UInt8 → String) (d : Destination) (row : UploadPublicationRow) :
    Prop :=
  ∃ file, d.file? row.relativePath = some file ∧ contentMatches sha256 row file = true

def HasTemporary (d : Destination) (row : UploadPublicationRow) : Prop :=
  (d.lookup (temporaryName row)).isSome = true

/-- The destination holds the final target, and nothing else named for the publication. -/
def NoResidue (sha256 : List UInt8 → String) (d : Destination) (row : UploadPublicationRow) :
    Prop :=
  HasTarget sha256 d row ∧ ¬HasTemporary d row

/-- The two rows name the same target and the same bytes. -/
structure SameTarget (row other : UploadPublicationRow) : Prop where
  publicationId : other.publicationId = row.publicationId
  relativePath : other.relativePath = row.relativePath
  expectedSizeBytes : other.expectedSizeBytes = row.expectedSizeBytes
  checksumHex : other.checksumHex = row.checksumHex

theorem SameTarget.refl (row : UploadPublicationRow) : SameTarget row row := ⟨rfl, rfl, rfl, rfl⟩

theorem SameTarget.trans {row other third : UploadPublicationRow} (h : SameTarget row other)
    (h' : SameTarget other third) : SameTarget row third where
  publicationId := h'.publicationId.trans h.publicationId
  relativePath := h'.relativePath.trans h.relativePath
  expectedSizeBytes := h'.expectedSizeBytes.trans h.expectedSizeBytes
  checksumHex := h'.checksumHex.trans h.checksumHex

section Names
variable {sha256 : List UInt8 → String} {d : Destination} {row other : UploadPublicationRow}

theorem SameTarget.temporaryName (h : SameTarget row other) :
    temporaryName other = temporaryName row := by
  unfold Uploads.temporaryName
  rw [h.publicationId]

theorem SameTarget.contentMatches (h : SameTarget row other) (file : File UInt8) :
    contentMatches sha256 other file = contentMatches sha256 row file := by
  unfold Uploads.contentMatches
  rw [h.expectedSizeBytes, h.checksumHex]

theorem SameTarget.noResidue (h : SameTarget row other) :
    NoResidue sha256 d other ↔ NoResidue sha256 d row := by
  unfold NoResidue HasTarget HasTemporary
  simp only [h.temporaryName, h.relativePath, h.contentMatches]

/-- The hexadecimal text of an identity has no dot. -/
theorem dot_notMem_hex {kind : IdentityKind} (id : Identity kind) : '.' ∉ id.hex.toList := by
  intro hmem
  have hchars : '.' ∈ id.value.toList := by
    unfold Identity.hex at hmem
    rw [String.toList_ofList] at hmem
    exact List.mem_of_mem_filter hmem
  have hcanonical := id.canonical
  unfold isUuid4Text isUuidText at hcanonical
  simp only [Bool.and_eq_true, List.all_eq_true, List.mem_range, decide_eq_true_eq] at hcanonical
  obtain ⟨n, hn, hget⟩ := List.mem_iff_getElem.mp hchars
  have hdigit := hcanonical.1.1.2 n (by omega)
  rw [List.getElem?_eq_getElem hn, hget] at hdigit
  split at hdigit
  · simp at hdigit
  · exact absurd hdigit (by decide)

/-- The temporary name begins with a dot, the final one with a digit. -/
theorem temporaryName_ne (publication : UploadPublication) :
    temporaryName publication.toUploadPublicationRow ≠ publication.relativePath := by
  intro h
  rw [publication.valid.path] at h
  have hlist := congrArg String.toList h
  simp only [temporaryName, relativePathForPublication, String.toList_append] at hlist
  have hdot := dot_notMem_hex publication.publicationId
  cases hhex : publication.publicationId.hex.toList with
  | nil =>
    rw [hhex] at hlist
    have hsecond := congrArg (fun l => l[1]?) hlist
    cases hformat : publication.validatedFormat <;> rw [hformat] at hsecond <;>
      exact absurd hsecond (by decide)
  | cons c rest =>
    rw [hhex] at hlist hdot
    have hfirst := congrArg List.head? hlist
    have hc : '.' = c := by simpa using hfirst
    rw [← hc] at hdot
    exact hdot List.mem_cons_self

theorem hasTarget_unlink {name : String} (hne : name ≠ row.relativePath) :
    HasTarget sha256 (d.unlink name) row ↔ HasTarget sha256 d row := by
  unfold HasTarget Directory.file?
  rw [Directory.lookup_unlink, if_neg hne]
  rfl

theorem not_hasTemporary_unlink : ¬HasTemporary (d.unlink (temporaryName row)) row := by
  unfold HasTemporary
  rw [Directory.lookup_unlink, if_pos rfl]
  simp

end Names

/-- One attempt with nobody beside it, answered by these moments. -/
def UploadServices.attempt (S : UploadServices) (is : List Moment) :
    Protocol Moment UploadEffect UploadEffect.Answer UploadError UploadWorld Unit where
  exec := S.exec
  note _ _ _ _ := ()
  permits _ m _ _ := m ∈ is
  may _ _ := True

/-- The upload has a publication with this target. -/
def KeepsTarget (id : UploadSessionId) (row : UploadPublicationRow) (w : UploadWorld) : Prop :=
  ∃ other, w.store.publication? id = some other ∧ SameTarget row other

/-- `Q` holds where the attempt returns, and `inv` after each of its calls. -/
def UploadServices.Returns (S : UploadServices) (is : List Moment) (inv : UploadWorld → Prop)
    {α : Type} (Q : α → UploadWorld → Prop) (p : UploadProgram α) (w : UploadWorld) : Prop :=
  Secures (S.attempt is) (alone inv fun _ _ => True) () (fun r t => ∀ a, r = .ok a → Q a t) p w

/- What an attempt calls once its publication is reserved. -/
def afterReservation : UploadEffect → Prop
  | .repository (.getCandidate _) | .repository (.commitVerifiedPublication ..)
  | .repository (.markCleanupComplete ..) => True
  | .repository _ => False
  | _ => True

section Steps
variable {s t : UploadStore} {id k : UploadSessionId} {row : UploadPublicationRow}

theorem UploadStore.Republished.keeps {before after : UploadPublicationRow}
    (h : UploadStore.Republished s t id before after) (hsame : SameTarget before after)
    (hrow : s.publication? k = some row) :
    ∃ other, t.publication? k = some other ∧ SameTarget row other := by
  rw [h.publication?]
  split
  · rename_i hid
    rw [← hid, h.found] at hrow
    cases hrow
    exact ⟨after, rfl, hsame⟩
  · exact ⟨row, hrow, .refl row⟩

theorem commitVerifiedPublication_keeps {publicationId : UploadPublicationId}
    {uploadVersion publicationVersion now : Int} {candidate : UploadPublicationCandidate}
    (h : s.commitVerifiedPublication id publicationId uploadVersion publicationVersion now =
      .ok (candidate, t)) (hrow : s.publication? k = some row) :
    ∃ other, t.publication? k = some other ∧ SameTarget row other := by
  unfold UploadStore.commitVerifiedPublication at h
  obtain ⟨-, h⟩ := require_bind_eq_ok.mp h
  obtain ⟨found, hfound, h⟩ := bind_eq_ok.mp h
  obtain ⟨publication, hpublication, h⟩ := bind_eq_ok.mp h
  obtain ⟨-, h⟩ := require_bind_eq_ok.mp h
  obtain ⟨-, h⟩ := require_bind_eq_ok.mp h
  obtain ⟨loaded, hloaded⟩ := UploadStore.requireCandidate_ok hfound
  split at h
  · cases h
    exact ⟨row, hrow, .refl row⟩
  · obtain ⟨-, h⟩ := require_bind_eq_ok.mp h
    obtain ⟨-, h⟩ := require_bind_eq_ok.mp h
    obtain ⟨-, h⟩ := require_bind_eq_ok.mp h
    obtain ⟨u, hu, h⟩ := bind_eq_ok.mp h
    obtain ⟨v, hv, h⟩ := bind_eq_ok.mp h
    obtain ⟨committed, -, h⟩ := bind_eq_ok.mp h
    cases h
    have hstored := hloaded.publication? (UploadStore.requirePublication_ok hpublication)
    obtain ⟨-, hrepublished⟩ := UploadStore.updatePublication_republished hstored
      (UploadStore.orConflict_ok hu)
    obtain ⟨-, -, -, hframe⟩ := UploadStore.updateSession_some (UploadStore.orConflict_ok hv)
    obtain ⟨other, hother, hsame⟩ := hrepublished.keeps ⟨rfl, rfl, rfl, rfl⟩ hrow
    refine ⟨other, ?_, hsame⟩
    rw [hframe]
    exact hother

theorem markCleanupComplete_keeps {publicationId : UploadPublicationId}
    {publicationVersion now : Int} {candidate : UploadPublicationCandidate}
    (h : s.markCleanupComplete id publicationId publicationVersion now = .ok (candidate, t))
    (hrow : s.publication? k = some row) :
    ∃ other, t.publication? k = some other ∧ SameTarget row other := by
  obtain ⟨-, publication, -, -, -, -, ⟨rfl, -⟩ | ⟨-, -, -, -, hrepublished⟩⟩ :=
    UploadStore.markCleanupComplete_ok h
  · exact ⟨row, hrow, .refl row⟩
  · exact hrepublished.keeps ⟨rfl, rfl, rfl, rfl⟩ hrow

/-- No later call of the attempt gives the publication another target. -/
theorem KeepsTarget.exec {S : UploadServices} {m : Moment} {e : UploadEffect} {w : UploadWorld}
    (h : KeepsTarget id row w) (he : afterReservation e) : KeepsTarget id row (S.exec m e w).2 := by
  obtain ⟨other, hother, hsame⟩ := h
  unfold KeepsTarget
  obtain hstill | ⟨op, a, t, rfl, hperform, hstore⟩ := exec_store_cases (S := S) (m := m) (w := w) e
  · rw [hstill]
    exact ⟨other, hother, hsame⟩
  · rw [hstore]
    have hkept : ∃ third, t.publication? id = some third ∧ SameTarget other third := by
      cases op with
      | getCandidate k =>
        obtain ⟨_, -, heq⟩ := map_eq_ok.mp (mapError_eq_ok.mp hperform)
        cases heq
        exact ⟨other, hother, .refl other⟩
      | commitVerifiedPublication k publicationId uploadVersion publicationVersion now =>
        exact commitVerifiedPublication_keeps (mapError_eq_ok.mp hperform) hother
      | markCleanupComplete k publicationId publicationVersion now =>
        exact markCleanupComplete_keeps (mapError_eq_ok.mp hperform) hother
      | _ => exact he.elim
    obtain ⟨third, hthird, hnext⟩ := hkept
    exact ⟨third, hthird, hsame.trans hnext⟩

end Steps

namespace UploadServices
variable {S : UploadServices} {is : List Moment} {inv : UploadWorld → Prop} {w : UploadWorld}
  {α β : Type}

namespace Returns

theorem done {Q : α → UploadWorld → Prop} {a : α} (h : Q a w) : S.Returns is inv Q (.done a) w := by
  intro b hb
  cases hb
  exact h

theorem fail {Q : α → UploadWorld → Prop} (x : UploadError) : S.Returns is inv Q (.fail x) w := by
  intro b hb
  cases hb

theorem bind {Q : α → UploadWorld → Prop} {Q' : β → UploadWorld → Prop} {p : UploadProgram α}
    {f : α → UploadProgram β} (h : S.Returns is inv Q p w)
    (hf : ∀ a t, Q a t → S.Returns is inv Q' (f a) t) : S.Returns is inv Q' (p >>= f) w := by
  refine Secures.alone_seq h (fun a t ht => hf a t (ht a rfl)) fun x t _ b hb => ?_
  cases hb

theorem mono {Q Q' : α → UploadWorld → Prop} {p : UploadProgram α} (hQ : ∀ a t, Q a t → Q' a t)
    (h : S.Returns is inv Q p w) : S.Returns is inv Q' p w :=
  Secures.mono (fun _ t ht a ha => hQ a t (ht a ha)) h

/-- What a handler returns must hold wherever the error came up. -/
theorem rescue {Q : α → UploadWorld → Prop} {p : UploadProgram α}
    {handler : UploadError → UploadProgram α} (h : S.Returns is inv Q p w)
    (hx : ∀ x t, S.Returns is inv Q (handler x) t) : S.Returns is inv Q (p.rescue handler) w :=
  Secures.alone_rescue h (fun _ _ ht b hb => ht b hb) fun x t _ => hx x t

theorem demand {Q : α → UploadWorld → Prop} {b : Bool} {x : UploadError} {f : Unit → UploadProgram α}
    (h : b = true → S.Returns is inv Q (f ()) w) :
    S.Returns is inv Q (Uploads.demand b x >>= f) w := by
  cases b with
  | true => exact h rfl
  | false => exact fail x

theorem perform_bind {e : UploadEffect} {Q : α → UploadWorld → Prop} {f : e.Answer → UploadProgram α}
    (hinv : ∀ m t, inv t → inv (S.exec m e t).2)
    (h : ∀ m ∈ is, ∀ a, (S.exec m e w).1 = .ok a → S.Returns is inv Q (f a) (S.exec m e w).2) :
    S.Returns is inv Q (Program.perform e >>= f) w := by
  refine Secures.alone_bind fun hw m hm => ⟨hinv m w hw, trivial, fun a ha => h m hm a ha, ?_⟩
  intro x _ b hb
  cases hb

theorem perform {e : UploadEffect} {Q : e.Answer → UploadWorld → Prop}
    (hinv : ∀ m t, inv t → inv (S.exec m e t).2)
    (h : ∀ m ∈ is, ∀ a, (S.exec m e w).1 = .ok a → Q a (S.exec m e w).2) :
    S.Returns is inv Q (Program.perform e) w :=
  Secures.alone_perform fun hw m hm => ⟨hinv m w hw, trivial, fun a ha => h m hm a ha⟩

end Returns

section Placing
variable {id : UploadSessionId} {row : UploadPublicationRow} {publication : UploadPublication}
  {source : QuarantineReader}

/-- A call of which nothing is known but that it keeps the publication. -/
theorem returns_any {e : UploadEffect} (he : afterReservation e)
    {Q : α → UploadWorld → Prop} {f : e.Answer → UploadProgram α}
    (hf : ∀ a t, S.Returns is (KeepsTarget id row) Q (f a) t) :
    S.Returns is (KeepsTarget id row) Q (Program.perform e >>= f) w :=
  Returns.perform_bind (fun _ _ ht => ht.exec he) fun _ _ a _ => hf a _

theorem returns_target (effect : TargetEffect) {Q : α → UploadWorld → Prop}
    {f : effect.Answer → UploadProgram α}
    (hf : ∀ a t, S.Returns is (KeepsTarget id row) Q (f a) t) :
    S.Returns is (KeepsTarget id row) Q (target effect >>= f) w :=
  returns_any (e := .target effect) trivial hf

theorem returns_last (effect : TargetEffect) :
    S.Returns is (KeepsTarget id row) (fun _ _ => True) (target effect) w :=
  Returns.perform (e := .target effect) (fun _ _ ht => ht.exec trivial) fun _ _ _ _ => trivial

theorem returns_quarantine (effect : QuarantineEffect) {Q : α → UploadWorld → Prop}
    {f : effect.Answer → UploadProgram α}
    (hf : ∀ a t, S.Returns is (KeepsTarget id row) Q (f a) t) :
    S.Returns is (KeepsTarget id row) Q (quarantine effect >>= f) w :=
  returns_any (e := .quarantine effect) trivial hf

theorem returns_ensureTarget (b : Bool) (x : PublishedMediaError) :
    S.Returns is inv (fun _ _ => True) (ensureTarget b x) w := by
  unfold ensureTarget Uploads.demand
  split
  · exact Returns.done trivial
  · exact Returns.fail _

theorem returns_copyChunks (inode : Nat) (expectedSizeBytes : Int) (fuel : Nat)
    (copied : List UInt8) : S.Returns is (KeepsTarget id row) (fun _ _ => True)
      (copyChunks inode source expectedSizeBytes fuel copied) w := by
  induction fuel generalizing copied w with
  | zero => exact Returns.fail _
  | succ fuel ih =>
    refine returns_any (e := .stopRequested) trivial fun stop _ => Returns.demand fun _ =>
      returns_quarantine _ fun chunk _ => ?_
    split
    · exact Returns.done trivial
    · exact Returns.demand fun _ => returns_target _ fun _ _ => ih _

theorem returns_copyAndVerifySource {inode : Nat} {publication : UploadPublicationRow} :
    S.Returns is (KeepsTarget id row) (fun _ _ => True)
      (S.copyAndVerifySource inode source publication) w := by
  refine Returns.bind (Q := fun _ _ => True) (Returns.rescue ((returns_copyChunks _ _ _ _).bind
    fun _ _ _ => returns_quarantine _ fun _ _ => returns_target _ fun _ _ =>
      Returns.done trivial) fun x t => ?_) fun copied t _ => returns_ensureTarget _ _
  split <;> exact Returns.fail _

/-- A handler that gives the temporary up and raises. -/
theorem returns_exceptInsufficientSpace {publication : UploadPublicationRow}
    {Q : α → UploadWorld → Prop} {p : UploadProgram α}
    (h : S.Returns is (KeepsTarget id row) Q p w) :
    S.Returns is (KeepsTarget id row) Q (exceptInsufficientSpace p (do
      unlinkOwnedTemporary publication
      failTarget .insufficientSpace)) w := by
  refine h.rescue fun x t => ?_
  split
  · exact returns_target _ fun _ _ => Returns.fail _
  · exact Returns.fail _

theorem returns_linkTarget {publication : UploadPublicationRow} :
    S.Returns is (KeepsTarget id row) (fun _ _ => True) (linkTarget publication) w := by
  refine Returns.bind (returns_exceptInsufficientSpace (returns_last _)) fun linked t _ => ?_
  split
  · exact Returns.done trivial
  · exact returns_target _ fun verified t => returns_ensureTarget _ _

theorem returns_fillTemporary {publication : UploadPublicationRow} :
    S.Returns is (KeepsTarget id row) (fun _ _ => True)
      (S.fillTemporary publication source) w :=
  returns_exceptInsufficientSpace (returns_target _ fun _ _ =>
    returns_copyAndVerifySource.bind fun _ _ _ => returns_last _)

theorem returns_ensureSpaceForCopy (requestedBytes : Int) :
    S.Returns is (KeepsTarget id row) (fun _ _ => True) (S.ensureSpaceForCopy requestedBytes) w :=
  Returns.demand fun _ => returns_target .availableBytes fun _ _ => returns_ensureTarget _ _

/-- What an answered verification says of the final name. -/
theorem verifyFinal_answer {m : Moment} {b : Bool}
    (h : (S.exec m (.target (.verifyFinal row)) w).1 = .ok b) :
    (S.exec m (.target (.verifyFinal row)) w).2 = w ∧
      (b = true → HasTarget S.sha256 w.destination row) ∧
      (b = false → w.destination.lookup row.relativePath = none) := by
  simp only [exec, TargetEffect.exec] at h ⊢
  split at h
  · cases h
  · rename_i hnone _
    cases h
    refine ⟨rfl, fun h => (by cases h), fun _ => ?_⟩
    simpa [Directory.file?] using hnone
  · cases h
  · rename_i file hfile _ _
    split at h
    · rename_i hmatches
      cases h
      exact ⟨by simp [hmatches], fun _ => ⟨file, hfile, hmatches⟩, fun h => by cases h⟩
    · cases h

/-- What the last two calls of a publication leave. -/
theorem returns_finished (h : HasTarget S.sha256 w.destination publication.toUploadPublicationRow) :
    S.Returns is (KeepsTarget id row)
      (fun _ t => NoResidue S.sha256 t.destination publication.toUploadPublicationRow)
      (do
        unlinkOwnedTemporary publication.toUploadPublicationRow
        fsyncDirectory) w := by
  have hne := temporaryName_ne publication
  refine Returns.perform_bind (fun _ _ ht => ht.exec trivial) fun m _ a ha => ?_
  refine Returns.perform (e := .target .fsyncDirectory) (fun _ _ ht => ht.exec trivial)
    fun m' _ a' ha' => ?_
  have hunlinked : NoResidue S.sha256 (S.exec m (.target (.unlinkOwnedTemporary
      (temporaryName publication.toUploadPublicationRow))) w).2.destination
      publication.toUploadPublicationRow := by
    simp only [exec, TargetEffect.exec] at ha ⊢
    split at ha
    · cases ha
    · rename_i hrefused
      rw [if_neg hrefused]
      split
      · exact ⟨(hasTarget_unlink hne).mpr h, not_hasTemporary_unlink⟩
      · rename_i habsent
        exact ⟨h, habsent⟩
  generalize (S.exec m (.target (.unlinkOwnedTemporary
    (temporaryName publication.toUploadPublicationRow))) w).2 = t at hunlinked ha' ⊢
  simp only [exec, TargetEffect.exec] at ha' ⊢
  split
  · exact hunlinked
  · exact hunlinked

theorem returns_publishFromReader : S.Returns is (KeepsTarget id row)
    (fun _ t => NoResidue S.sha256 t.destination publication.toUploadPublicationRow)
    (S.publishFromReader publication.toUploadPublicationRow source) w := by
  refine Returns.demand fun _ => returns_target .openRoot fun _ t => ?_
  have hverified {w : UploadWorld} {f : Bool → UploadProgram Unit}
      (hfalse : ∀ t, S.Returns is (KeepsTarget id row)
        (fun _ t => NoResidue S.sha256 t.destination publication.toUploadPublicationRow)
        (f false) t)
      (htrue : f true = (do
        unlinkOwnedTemporary publication.toUploadPublicationRow
        fsyncDirectory)) :
      S.Returns is (KeepsTarget id row)
        (fun _ t => NoResidue S.sha256 t.destination publication.toUploadPublicationRow)
        (verifyFinal publication.toUploadPublicationRow >>= f) w := by
    refine Returns.perform_bind (fun _ _ ht => ht.exec trivial) fun m _ b hb => ?_
    obtain ⟨hstill, hpresent, -⟩ := verifyFinal_answer hb
    cases b with
    | false => exact hfalse _
    | true =>
      rw [htrue, hstill]
      exact returns_finished (hpresent rfl)
  refine hverified (fun t => ?_) rfl
  refine Returns.demand fun _ => (returns_ensureSpaceForCopy _).bind fun _ _ _ =>
    returns_fillTemporary.bind fun _ _ _ => returns_linkTarget.bind fun _ _ _ =>
      returns_target .fsyncDirectory fun _ _ => ?_
  exact hverified (fun t => Returns.fail _) rfl

/-- What placing the target makes of the names of its publication: the temporary stays when
the final name was found, and only then. -/
def Placed (S : UploadServices) (w : UploadWorld) (publication : UploadPublicationRow)
    (t : UploadWorld) : Prop :=
  HasTarget S.sha256 t.destination publication ∧
    (HasTemporary t.destination publication ↔ HasTemporary w.destination publication ∧
      w.destination.lookup publication.relativePath ≠ none)

theorem returns_placeTarget {upload : UploadSession} : S.Returns is (KeepsTarget id row)
    (fun _ t => S.Placed w publication.toUploadPublicationRow t)
    (S.placeTarget upload publication.toUploadPublicationRow) w := by
  refine Returns.rescue ?_ fun x t => ?_
  · refine Returns.bind (Q := fun b t => t = w ∧
        (b = true → HasTarget S.sha256 w.destination publication.toUploadPublicationRow) ∧
        (b = false → w.destination.lookup publication.relativePath = none)) ?_ fun b t ht => ?_
    · refine Returns.demand fun _ => Returns.perform_bind (fun _ _ ht => ht.exec trivial)
        fun m _ a ha => ?_
      have hroot : (S.exec m (.target .openRoot) w).2 = w := by
        simp only [exec, TargetEffect.exec]
        split <;> rfl
      rw [hroot]
      exact Returns.perform (fun _ _ ht => ht.exec trivial) fun m _ b hb => verifyFinal_answer hb
    · obtain ⟨rfl, hpresent, habsent⟩ := ht
      cases b with
      | true =>
        refine Returns.done ⟨hpresent rfl, ?_⟩
        obtain ⟨file, hfile, -⟩ := hpresent rfl
        obtain ⟨inode, hinode, -⟩ := Option.map_eq_some_iff.mp hfile
        simp [hinode]
      | false =>
        refine returns_quarantine _ fun reader u => returns_publishFromReader.mono fun _ u hu => ?_
        exact ⟨hu.1, by simp [hu.2, habsent rfl]⟩
  · split <;> exact Returns.fail _

end Placing

section Finishing
variable {id k : UploadSessionId} {row : UploadPublicationRow} {d : Destination}

/-- The destination is left as it is, and the publication with its target. -/
def Untouched (id : UploadSessionId) (row : UploadPublicationRow) (d : Destination)
    (w : UploadWorld) : Prop :=
  KeepsTarget id row w ∧ w.destination = d

/- What is called once the target is placed. -/
def afterPlacing : UploadEffect → Prop
  | .target _ => False
  | e => afterReservation e

theorem Untouched.exec {m : Moment} {e : UploadEffect} (h : Untouched id row d w)
    (he : afterPlacing e) : Untouched id row d (S.exec m e w).2 := by
  have hkept : afterReservation e := by
    cases e with
    | target effect => exact he.elim
    | _ => exact he
  refine ⟨h.1.exec hkept, ?_⟩
  rw [← h.2]
  cases e with
  | target effect => exact he.elim
  | rootsSeparated | classify =>
    simp only [UploadServices.exec]
    split <;> rfl
  | _ => rfl

theorem returns_untouched {e : UploadEffect} (he : afterPlacing e) {f : e.Answer → UploadProgram α}
    (hf : ∀ a t, S.Returns is (Untouched id row d) (fun _ _ => True) (f a) t) :
    S.Returns is (Untouched id row d) (fun _ _ => True) (Program.perform e >>= f) w :=
  Returns.perform_bind (fun _ _ ht => ht.exec he) fun _ _ a _ => hf a _

theorem returns_orReload {p : UploadProgram UploadPublicationCandidate}
    {accepted : UploadSession → UploadPublication → Bool}
    (h : S.Returns is (Untouched id row d) (fun _ _ => True) p w) :
    S.Returns is (Untouched id row d) (fun _ _ => True) (orReload p k accepted) w := by
  refine h.rescue fun x t => ?_
  split
  · refine returns_untouched (e := .repository (.getCandidate k)) trivial fun found _ => ?_
    split
    · exact Returns.done trivial
    · exact Returns.fail _
  · exact Returns.fail _

theorem returns_removeSource {candidate : UploadPublicationCandidate}
    {publication : UploadPublication} : S.Returns is (Untouched id row d) (fun _ _ => True)
      (removeSource candidate publication) w := by
  refine Returns.bind (Q := fun _ _ => True) (Returns.rescue (Returns.perform
    (fun _ _ ht => ht.exec trivial) fun _ _ _ _ => trivial) fun x t => ?_) fun _ t _ => ?_
  · split <;> exact Returns.fail _
  · refine returns_orReload (returns_untouched (e := .nowMs) trivial fun now t => ?_)
    exact Returns.perform (fun _ _ ht => ht.exec trivial) fun _ _ _ _ => trivial

theorem returns_finishCleanup {candidate : UploadPublicationCandidate} :
    S.Returns is (Untouched id row d) (fun _ _ => True) (finishCleanup candidate) w := by
  unfold finishCleanup
  split
  · exact Returns.fail _
  · refine Returns.demand fun _ => ?_
    split
    · exact Returns.done trivial
    · exact returns_removeSource.bind fun completed t _ => Returns.done trivial

/-- A program that leaves the destination untouched, within one that only keeps the target. -/
theorem Returns.untouched {p : UploadProgram α} (hw : KeepsTarget id row w)
    (h : S.Returns is (Untouched id row w.destination) (fun _ _ => True) p w) :
    S.Returns is (KeepsTarget id row) (fun _ t => t.destination = w.destination) p w := by
  have hstart : Untouched id row w.destination w := ⟨hw, rfl⟩
  have hkept := Secures.alone_keeps hstart h
  refine Secures.alone_weaken (fun _ ht => ht.1) (fun _ _ _ _ _ => trivial) hstart
    (Secures.mono (fun r t ht a _ => ?_) hkept)
  exact ht.2.2

theorem Returns.keeps {Q : α → UploadWorld → Prop} {p : UploadProgram α} (hw : inv w)
    (h : S.Returns is inv Q p w) : S.Returns is inv (fun a t => Q a t ∧ inv t) p w :=
  Secures.mono (fun _ _ ht a ha => ⟨ht.1 a ha, ht.2⟩) (Secures.alone_keeps hw h)

/-- A pending publication, from the place of its target to its cleaned source. -/
theorem returns_publishPending {candidate : UploadPublicationCandidate}
    {publication : UploadPublication} (hw : KeepsTarget id row w) :
    S.Returns is (KeepsTarget id row)
      (fun _ t => S.Placed w publication.toUploadPublicationRow t)
      (S.publishPending candidate publication >>= finishCleanup) w := by
  have hsame {t u : UploadWorld} (h : S.Placed w publication.toUploadPublicationRow t)
      (hdestination : u.destination = t.destination) :
      S.Placed w publication.toUploadPublicationRow u := by
    unfold Placed
    rw [hdestination]
    exact h
  refine Returns.bind (Q := fun _ t => S.Placed w publication.toUploadPublicationRow t ∧
    KeepsTarget id row t) ?_ fun committed t ht => ?_
  · refine Returns.demand fun _ => ?_
    refine (returns_placeTarget.keeps hw).bind fun _ t ht => ?_
    refine ((Returns.untouched ht.2 (returns_orReload (returns_untouched (e := .nowMs) trivial
      fun now t => ?_))).keeps ht.2).mono fun _ u hu => ⟨hsame ht.1 hu.1, hu.2⟩
    exact Returns.perform (fun _ _ hu => hu.exec trivial) fun _ _ _ _ => trivial
  · exact (Returns.untouched ht.2 returns_finishCleanup).mono fun _ u hu => hsame ht.1 hu

end Finishing
end UploadServices

/-- The upload waits for its publication. -/
def Pending (w : UploadWorld) (id : UploadSessionId) : Prop :=
  ∃ row, w.store.session? id = some row ∧ row.state = .publishPending

/-- The publication an attempt works on: the stored one, or the one it reserves under an
identity drawn in it. -/
def WorksOn (is : List Moment) (w : UploadWorld) (id : UploadSessionId)
    (row : UploadPublicationRow) : Prop :=
  (∀ before, w.store.publication? id = some before → SameTarget before row) ∧
    (w.store.publication? id = none → ∃ m ∈ is, row.publicationId = m.identity .uploadPublication)

/-- A pending publication starts without its final name or without its temporary name, a
published one without residue. -/
def StartsClean (sha256 : List UInt8 → String) (w : UploadWorld) (id : UploadSessionId)
    (row : UploadPublicationRow) : Prop :=
  (Pending w id ∧
    (w.destination.lookup row.relativePath = none ∨ ¬HasTemporary w.destination row)) ∨
  (¬Pending w id ∧ NoResidue sha256 w.destination row)

namespace UploadServices
variable {S : UploadServices} {is : List Moment} {w : UploadWorld} {id : UploadSessionId}

theorem newReservation_publicationId {upload : UploadSession} {publicationId : UploadPublicationId}
    {destinationId : LibraryId} {now : Int} {reservation : UploadPublication}
    (h : newUploadPublicationReservation upload publicationId destinationId now =
      some reservation) : reservation.publicationId = publicationId := by
  unfold newUploadPublicationReservation at h
  split at h
  · split at h
    · rw [publicationFromRow_some h]
    · cases h
  · cases h

/-- A candidate as loaded, with the publication it will be worked on under. -/
structure Reserved (is : List Moment) (w : UploadWorld) (id : UploadSessionId)
    (candidate : UploadPublicationCandidate) (t : UploadWorld) : Prop where
  destination : t.destination = w.destination
  pending : candidate.upload.state = .publishPending ↔ Pending w id
  publication : ∀ publication, candidate.publication = some publication →
    t.store.publication? id = some publication.toUploadPublicationRow ∧
      WorksOn is w id publication.toUploadPublicationRow

theorem Loaded.pending {row : UploadSessionRow} {candidate : UploadPublicationCandidate}
    (h : UploadStore.Loaded w.store id row candidate) :
    candidate.upload.state = .publishPending ↔ Pending w id := by
  have hstate : candidate.upload.state = row.state := by rw [h.upload]
  rw [hstate]
  constructor
  · intro hrow
    exact ⟨row, h.found, hrow⟩
  · rintro ⟨other, hother, hpending⟩
    rw [h.found] at hother
    cases hother
    exact hpending

theorem Loaded.reserved {row : UploadSessionRow} {candidate : UploadPublicationCandidate}
    (h : UploadStore.Loaded w.store id row candidate) : Reserved is w id candidate w where
  destination := rfl
  pending := Loaded.pending h
  publication publication hpublication := by
    have hstored := h.publication? hpublication
    refine ⟨hstored, fun before hbefore => ?_, fun hnone => ?_⟩
    · rw [hstored] at hbefore
      cases hbefore
      exact .refl _
    · rw [hstored] at hnone
      cases hnone

theorem returns_candidateOf : S.Returns is (fun _ => True)
    (fun found t => t = w ∧ ∀ candidate, found = some candidate →
      ∃ row, UploadStore.Loaded w.store id row candidate) (candidateOf id) w := by
  refine Returns.perform (fun _ _ _ => trivial) fun m _ found hfound => ?_
  have hperform := exec_repository_ok hfound
  obtain ⟨a, ha, heq⟩ := map_eq_ok.mp (mapError_eq_ok.mp hperform)
  have hfirst : a = found := congrArg Prod.fst heq
  have hsecond : w.store = (S.exec m (.repository (.getCandidate id)) w).2.store :=
    congrArg Prod.snd heq
  refine ⟨?_, fun candidate hcandidate => ?_⟩
  · obtain hsame | ⟨_, t, _, hworld⟩ :=
      (exec_repository_world : (S.exec m (.repository (.getCandidate id)) w).2 = w ∨ _)
    · exact hsame
    · rw [hworld] at hsecond ⊢
      have ht : w.store = t := hsecond
      rw [← ht]
  · rw [hfirst, hcandidate] at ha
    exact UploadStore.getCandidate_ok ha

theorem returns_ensureReservation {row : UploadSessionRow} {candidate : UploadPublicationCandidate}
    (h : UploadStore.Loaded w.store id row candidate) :
    S.Returns is (fun _ => True) (fun reserved t => Reserved is w id reserved t)
      (S.ensureReservation candidate) w := by
  unfold ensureReservation
  split
  · exact Returns.done (Loaded.reserved h)
  · rename_i hnone
    refine Returns.demand fun hpending => ?_
    refine Returns.perform_bind (fun _ _ _ => trivial) fun _ _ now hnow => ?_
    refine Returns.perform_bind (fun _ _ _ => trivial) fun m hm publicationId hdrawn => ?_
    simp only [exec] at hdrawn ⊢
    cases hdrawn
    split
    · exact Returns.fail _
    · rename_i reservation hreservation
      refine Returns.perform (fun _ _ _ => trivial) fun m' _ reserved hreserved => ?_
      have hperform := mapError_eq_ok.mp (exec_repository_ok hreserved)
      have hid : reservation.uploadId = id :=
        (newReservation_uploadId hreservation).trans h.upload_id
      have habsent : w.store.publication? id = none := by
        rw [← h.publication, hnone]
        rfl
      obtain ⟨⟨loaded, hloaded⟩, hcases⟩ := UploadStore.getOrCreateReservation_ok hperform
      rw [hid] at hloaded hcases
      obtain ⟨hsame, hsome, -⟩ | ⟨found, hfound, -, hstate, -, -, -, -, hframe, -, hreserves⟩ := hcases
      · have hmap := hloaded.publication
        rw [hsame, habsent] at hmap
        rw [Option.map_eq_none_iff.mp hmap] at hsome
        cases hsome
      · refine ⟨rfl, ?_, fun publication hpublication => ?_⟩
        · have hsession := hloaded.found
          rw [hframe] at hsession
          have hrow : found = loaded := Option.some.inj (hfound.symm.trans hsession)
          have hupload : reserved.upload.state = .publishPending := by
            rw [hloaded.upload, ← hrow]
            exact hstate
          exact ⟨fun _ => ⟨found, hfound, hstate⟩, fun _ => hupload⟩
        · refine ⟨hloaded.publication? hpublication, fun before hbefore => ?_, fun _ => ?_⟩
          · rw [habsent] at hbefore
            cases hbefore
          · rw [hreserves] at hpublication
            cases hpublication
            exact ⟨m, hm, newReservation_publicationId hreservation⟩

/-- Where an attempt returns: its publication, and whether its names are as they should be. -/
def Ended (S : UploadServices) (is : List Moment) (w : UploadWorld) (id : UploadSessionId)
    (t : UploadWorld) : Prop :=
  ∃ row, t.store.publication? id = some row ∧ WorksOn is w id row ∧
    (NoResidue S.sha256 t.destination row ↔ StartsClean S.sha256 w id row)

theorem WorksOn.same {row other : UploadPublicationRow} (h : WorksOn is w id row)
    (hsame : SameTarget row other) : WorksOn is w id other :=
  ⟨fun before hbefore => (h.1 before hbefore).trans hsame, fun hnone => by
    rw [hsame.publicationId]
    exact h.2 hnone⟩

theorem SameTarget.startsClean {sha256 : List UInt8 → String} {row other : UploadPublicationRow}
    (h : SameTarget row other) : StartsClean sha256 w id other ↔ StartsClean sha256 w id row := by
  unfold StartsClean HasTemporary
  rw [h.noResidue, h.temporaryName, h.relativePath]

/-- The publication as it is stored in the end has the target it was worked on under. -/
theorem ended_of_kept {row : UploadPublicationRow} {t : UploadWorld} (hkept : KeepsTarget id row t)
    (hworks : WorksOn is w id row)
    (h : NoResidue S.sha256 t.destination row ↔ StartsClean S.sha256 w id row) :
    S.Ended is w id t := by
  obtain ⟨other, hother, hsame⟩ := hkept
  refine ⟨other, hother, WorksOn.same hworks hsame, ?_⟩
  rw [hsame.noResidue, SameTarget.startsClean hsame]
  exact h

/-- A publication that was pending is left clean when it started clean. -/
theorem placed_ended {publication : UploadPublication} {u t : UploadWorld}
    (hu : u.destination = w.destination) (hpending : Pending w id)
    (h : S.Placed u publication.toUploadPublicationRow t) :
    NoResidue S.sha256 t.destination publication.toUploadPublicationRow ↔
      StartsClean S.sha256 w id publication.toUploadPublicationRow := by
  obtain ⟨htarget, htemporary⟩ := h
  rw [hu] at htemporary
  unfold NoResidue StartsClean
  simp only [htarget, htemporary, hpending, true_and, not_true, false_and, or_false, not_and,
    ne_eq, not_not]
  tauto

theorem returns_publishCandidate :
    S.Returns is (fun _ => True) (fun _ t => S.Ended is w id t) (S.publishCandidate id) w := by
  refine returns_candidateOf.bind fun found t ht => ?_
  obtain ⟨rfl, hloads⟩ := ht
  split
  · exact Returns.fail _
  · rename_i candidate
    obtain ⟨row, hloaded⟩ := hloads candidate rfl
    refine (returns_ensureReservation hloaded).bind fun reserved u hu => ?_
    split
    · exact Returns.fail _
    · rename_i publication hpublication
      obtain ⟨hstored, hworks⟩ := hu.publication publication hpublication
      have hkept : KeepsTarget id publication.toUploadPublicationRow u :=
        ⟨_, hstored, .refl _⟩
      have hweaken {Q : UploadPublicationResult → UploadWorld → Prop}
          {p : UploadProgram UploadPublicationResult}
          (h : S.Returns is (KeepsTarget id publication.toUploadPublicationRow) Q p u) :
          S.Returns is (fun _ => True)
            (fun a v => Q a v ∧ KeepsTarget id publication.toUploadPublicationRow v) p u :=
        Secures.alone_weaken (fun _ _ => trivial) (fun _ _ _ _ _ => trivial) hkept
          (h.keeps hkept)
      refine Returns.demand fun _ => ?_
      split
      · rename_i hpending
        refine (hweaken (returns_publishPending hkept)).mono fun _ v hv => ?_
        exact ended_of_kept hv.2 hworks (placed_ended hu.destination (hu.pending.mp hpending) hv.1)
      · rename_i hpending
        refine (hweaken (Returns.untouched hkept returns_finishCleanup)).mono fun _ v hv => ?_
        refine ended_of_kept hv.2 hworks ?_
        have hnot : ¬Pending t id := fun h => hpending (hu.pending.mpr h)
        rw [hv.1, hu.destination]
        unfold StartsClean
        simp [hnot]

theorem returns_publishOwnedBlocking :
    S.Returns is (fun _ => True) (fun _ t => S.Ended is w id t) (S.publishOwnedBlocking id) w := by
  refine Returns.perform_bind (fun _ _ _ => trivial) fun m _ stop hstop => ?_
  split
  · exact Returns.fail _
  · exact returns_publishCandidate.rescue fun x t => Returns.fail _

theorem permitted_attempt {α : Type} (js : List Moment) (hjs : ∀ m ∈ js, m ∈ is)
    (p : UploadProgram α) (w : UploadWorld) : Permitted (S.attempt is) js p () w := by
  induction js generalizing p w with
  | nil => cases p <;> trivial
  | cons m js ih =>
    cases p with
    | done a => trivial
    | fail x => trivial
    | call e next =>
      exact ⟨hjs m List.mem_cons_self, ih (fun k hk => hjs k (List.mem_cons_of_mem _ hk)) _ _⟩

/-- A call that returns has its publication stored, its final target in the destination and
nothing else under the names of the publication, exactly when it started without the final
name or without the temporary one, or with a published upload that was clean already. -/
theorem publication_leaves_no_residue_iff (S : UploadServices) (id : UploadSessionId)
    (w : UploadWorld) (is : List Moment) (result : UploadPublicationResult)
    (h : (Program.run S.exec is (S.publishOwnedBlocking id) w).1 = .done result) :
    let t := (Program.run S.exec is (S.publishOwnedBlocking id) w).2
    ∃ row, t.store.publication? id = some row ∧ WorksOn is w id row ∧
      (NoResidue S.sha256 t.destination row ↔ StartsClean S.sha256 w id row) := by
  intro t
  have hall : S.Returns is (fun _ => True) (fun _ u => S.Ended is w id u)
    (S.publishOwnedBlocking id) w := returns_publishOwnedBlocking
  obtain ⟨-, hends⟩ := Secures.alone_run (fun _ _ _ _ => rfl) hall trivial is
    (permitted_attempt is (fun _ hm => hm) _ w)
  have hrun : (Program.run (S.attempt is).exec is (S.publishOwnedBlocking id) w).1 = .done result :=
    h
  rw [hrun] at hends
  exact hends result rfl

end UploadServices

/-! A publication cut between the link of its final name and the removal of its temporary
one, and the call that comes after it. -/

def exampleIdentity (kind : IdentityKind) : Identity kind :=
  ⟨"11111111-1111-4111-8111-111111111111", by decide +kernel⟩

def exampleStorageKey : UploadStorageKey := ⟨"aaaaaaaaaaaaaaaa", by decide +kernel⟩

def exampleChecksum : String :=
  "0000000000000000000000000000000000000000000000000000000000000000"

/- One validated byte, in the quarantine of an upload that waits for its publication. -/
def examplePending : UploadSessionRow where
  id := exampleIdentity .uploadSession
  state := .publishPending
  storageKey := exampleStorageKey
  displayFilename := ⟨"a.png", by decide +kernel⟩
  declaredSizeBytes := 1
  receivedSizeBytes := 1
  checksumAlgorithm := some "sha256"
  checksumHex := some exampleChecksum
  createdAtMs := 0
  updatedAtMs := 0
  expiresAtMs := 9
  failureCode := none
  version := 0
  validatedMediaKind := some .image
  validatedFormat := some .png
  byteIdentityId := some (exampleIdentity .mediaByteIdentity)
  duplicateDisposition := none
  createdByLoginKey := none
  duplicateResolutionMode := .explicit

def exampleServices : UploadServices where
  limits := ⟨9, 9, 9, 0⟩
  destinationId := exampleIdentity .library
  publishedReserveBytes := 0
  sha256 _ := exampleChecksum
  unicode := ⟨id, id⟩

def exampleWorld : UploadWorld where
  store := { UploadStore.empty [exampleIdentity .library] [] with
    sessions := ⟨[examplePending], by simp⟩
    identities := ⟨[⟨exampleIdentity .mediaByteIdentity, "sha256", 1, exampleChecksum, 0⟩], by simp⟩ }
  quarantine _ := some ⟨[7], 1, Nat.le_refl _⟩
  destination := ⟨fun _ => File.empty, 0, [], fun _ => [none]⟩

/- A moment in which nothing goes wrong. -/
def calmMoment : Moment where
  nowMs := 1
  identity := exampleIdentity
  storageKey := exampleStorageKey
  rootsSeparated := some true
  freeBytes := 9
  repositoryFault := none
  quarantineFault := none
  targetFault := none
  stopRequested := false
  verdict := .error .raised
  classification := none

/- The first attempt, cut right after it has linked the final name. -/
def exampleInterrupted : UploadWorld :=
  (Program.run exampleServices.exec (List.replicate 21 calmMoment)
    (exampleServices.publishOwnedBlocking (exampleIdentity .uploadSession)) exampleWorld).2

/- The attempt after it. -/
def exampleResumed : UploadProgram UploadPublicationResult × UploadWorld :=
  Program.run exampleServices.exec (List.replicate 9 calmMoment)
    (exampleServices.publishOwnedBlocking (exampleIdentity .uploadSession)) exampleInterrupted

def returned {α : Type} : UploadProgram α → Option α
  | .done a => some a
  | _ => none

theorem returned_some {α : Type} {p : UploadProgram α} {a : α} (h : returned p = some a) :
    p = .done a := by
  cases p with
  | done b =>
    cases h
    rfl
  | fail x => cases h
  | call e next => cases h

theorem exampleResumed_done :
    exampleResumed.1 = .done ⟨exampleIdentity .uploadSession, .published, some .complete⟩ :=
  returned_some (by decide +kernel)

/-- The second attempt returns, and the temporary name of the first is still there. -/
theorem publication_leaves_residue : ∃ result row, exampleResumed.1 = .done result ∧
    exampleResumed.2.store.publication? (exampleIdentity .uploadSession) = some row ∧
    HasTarget exampleServices.sha256 exampleResumed.2.destination row ∧
    ¬NoResidue exampleServices.sha256 exampleResumed.2.destination row := by
  have hnames : (exampleResumed.2.store.publication? (exampleIdentity .uploadSession)).any
      (fun row => (exampleResumed.2.destination.lookup (temporaryName row)).isSome &&
        (exampleResumed.2.destination.file? row.relativePath).any
          (contentMatches exampleServices.sha256 row)) = true := by
    decide +kernel
  obtain ⟨row, hrow, hboth⟩ := (Option.any_eq_true _ _).mp hnames
  simp only [Bool.and_eq_true] at hboth
  obtain ⟨file, hfile, hmatches⟩ := (Option.any_eq_true _ _).mp hboth.2
  refine ⟨_, row, exampleResumed_done, hrow, ⟨file, hfile, hmatches⟩, fun h => ?_⟩
  exact h.2 hboth.1

/-- The condition, at the second attempt. -/
theorem publication_leaves_no_residue_one : ∃ row,
    exampleResumed.2.store.publication? (exampleIdentity .uploadSession) = some row ∧
    WorksOn (List.replicate 9 calmMoment) exampleInterrupted (exampleIdentity .uploadSession) row ∧
    (NoResidue exampleServices.sha256 exampleResumed.2.destination row ↔
      StartsClean exampleServices.sha256 exampleInterrupted (exampleIdentity .uploadSession) row) :=
  UploadServices.publication_leaves_no_residue_iff exampleServices
    (exampleIdentity .uploadSession) exampleInterrupted (List.replicate 9 calmMoment)
    ⟨exampleIdentity .uploadSession, .published, some .complete⟩ exampleResumed_done

end FrameNest.Uploads
