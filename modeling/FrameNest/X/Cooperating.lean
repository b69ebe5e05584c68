import FrameNest.X.KeptRuns

/-! Every caller keeps to its part, so every reachable world has its rows as they must be. -/
namespace FrameNest.X
open Concurrent Relational Uploads
variable {X : XDomain} {c : XPostClaim X}

theorem keeps_normalizeRequester (login : String) :
    Keeps (fun _ => True) (normalizeRequester login : XProgram X String) := by
  unfold normalizeRequester
  split
  · exact .done trivial
  · exact .fail

theorem keeps_hiddenMediaIds (login : String) (media : List MediaId) :
    Keeps (fun _ => True) (hiddenMediaIds login media : XProgram X (List MediaId)) :=
  Keeps.ite (fun _ => .done trivial) fun _ => keeps_beside (by rfl)

theorem keeps_overlay : Keeps (fun _ => True) (overlay : XProgram X Unit) := keeps_beside (by rfl)

theorem keeps_requesterSnapshot (claim : XPostClaim X) :
    Keeps (fun _ => True) (requesterSnapshot claim) := by
  refine Keeps.bind (keeps_listAssets claim.id) fun assets _ => ?_
  exact Keeps.bind (keeps_hiddenMediaIds _ _) fun _ _ => .done trivial

theorem keeps_administrationGet (id : XPostClaimId) :
    Keeps (fun _ => True) (XAcquisitionAdministrationService.get id : XProgram X _) := by
  refine Keeps.bind (keeps_getPost id) fun found _ => ?_
  cases found with
  | none => exact .fail
  | some claim => exact Keeps.bind (keeps_listAssets claim.id) fun _ _ => .done trivial

namespace XAcquisitionRequestService

/-- A count, or a search whose answer is only looked at. -/
theorem keeps_counting {op : XOperation X} (h : ∀ (s : XStore X) a store,
    op.perform s = .ok (a, store) → store = s) : Keeps (fun _ => True) (claims op) :=
  keeps_reading fun s a store hop => by
    rw [h s a store hop]
    exact ⟨rfl, rfl⟩

theorem keeps_enforceAdmissionLimits (limits : XRequestLimits) (requester : String) :
    Keeps (fun _ => True) (enforceAdmissionLimits limits requester : XProgram X Unit) := by
  refine Keeps.bind (P := fun _ => True) ?_ fun _ _ => ?_
  · refine Keeps.ite (fun _ => ?_) fun _ => .done trivial
    exact Keeps.bind (keeps_counting fun s a store hop => by
      cases hop
      rfl) fun _ _ => Keeps.demand
  · refine Keeps.bind (keeps_counting fun s a store hop => by
      cases hop
      rfl) fun _ _ => Keeps.bind Keeps.demand fun _ _ => Keeps.bind keeps_clock fun _ _ => ?_
    refine Keeps.bind (keeps_counting fun s a store hop => by
      cases hop
      rfl) fun _ _ => Keeps.bind Keeps.demand fun _ _ => Keeps.bind keeps_clock fun _ _ => ?_
    refine Keeps.bind (keeps_counting fun s a store hop => by
      cases hop
      rfl) fun _ _ => Keeps.bind Keeps.demand fun _ _ => ?_
    exact Keeps.bind (keeps_beside (by rfl)) fun _ _ => Keeps.demand

theorem keeps_mediaCategories (hidden : List MediaId) (assets : List (XAsset X)) :
    Keeps (fun _ => True) (mediaCategories hidden assets) := by
  induction assets with
  | nil => exact .done trivial
  | cons a rest ih =>
    unfold mediaCategories
    split
    · exact ih
    · refine Keeps.bind (keeps_beside (by rfl)) fun answer _ => ?_
      cases answer with
      | none => exact .done trivial
      | some category => exact Keeps.bind ih fun _ _ => .done trivial

theorem keeps_rejectCategoryConflict (claim : XPostClaim X) (requested : Option ContentCategory)
    (liveCatalog : Bool) :
    Keeps (fun _ => True) (rejectCategoryConflict claim requested liveCatalog) := by
  unfold rejectCategoryConflict
  split
  · exact .done trivial
  · refine Keeps.ite (fun _ => ?_) fun _ => Keeps.demand
    refine Keeps.bind (P := fun _ => True) ?_ fun _ _ => Keeps.demand
    refine Keeps.bind (keeps_listAssets claim.id) fun assets _ => ?_
    refine Keeps.bind (keeps_hiddenMediaIds _ _) fun hidden _ => ?_
    refine Keeps.bind (keeps_mediaCategories hidden assets) fun live _ => ?_
    split <;> exact .done trivial

theorem keeps_storeSubmitAlias (withAlias : Bool) :
    Keeps (fun _ => True) (storeSubmitAlias withAlias : XProgram X Unit) :=
  Keeps.ite (fun _ => keeps_overlay) fun _ => .done trivial

theorem keeps_applyAliases (hidden : List MediaId) (assets : List (XAsset X)) :
    Keeps (fun _ => True) (applyAliases hidden assets) := by
  induction assets with
  | nil => exact .done trivial
  | cons a rest ih =>
    refine Keeps.bind (P := fun _ => True) ?_ fun _ _ => ih
    exact Keeps.ite (fun _ => keeps_overlay) fun _ => .done trivial

theorem keeps_createClaim (limits : XRequestLimits) (url : List Char) (requester : String)
    (category : Option ContentCategory) (withAlias : Bool) :
    Keeps (fun _ => True) (createClaim limits url requester category withAlias : XProgram X _) := by
  refine Keeps.bind (keeps_enforceAdmissionLimits limits requester) fun _ _ => ?_
  refine Keeps.bind (P := fun c : XPostClaim X => c.Untouched) ?_ fun claim hclaim => ?_
  · refine Keeps.bind keeps_clock fun now _ => Keeps.bind (keeps_beside (by rfl)) fun id _ => ?_
    exact Keeps.built fun c hc => new_untouched hc
  · refine Keeps.bind (keeps_createOrGetActive hclaim) fun answer _ => ?_
    refine Keeps.bind (P := fun _ => True) ?_ fun _ _ => ?_
    · exact Keeps.ite (fun _ => .done trivial) fun _ => keeps_rejectCategoryConflict _ _ _
    · exact Keeps.bind (keeps_storeSubmitAlias withAlias) fun _ _ => .done trivial

theorem keeps_submit (limits : XRequestLimits) (url : List Char) (login : String)
    (category : Option ContentCategory) (withAlias : Bool) :
    Keeps (fun _ => True) (submit limits url login category withAlias : XProgram X _) := by
  refine Keeps.bind (P := fun _ => True) (Keeps.built fun _ _ => trivial) fun identity _ => ?_
  refine Keeps.bind (keeps_normalizeRequester login) fun requester _ => ?_
  refine Keeps.bind (keeps_storeSubmitAlias withAlias) fun _ _ => ?_
  refine Keeps.bind (keeps_counting fun s a store hop => by
    cases hop
    rfl) fun owned _ => ?_
  cases owned with
  | some claim =>
    refine Keeps.bind (keeps_rejectCategoryConflict claim category true) fun _ _ => ?_
    refine Keeps.bind (keeps_storeSubmitAlias withAlias) fun _ _ => ?_
    refine Keeps.bind (P := fun _ => True) ?_ fun _ _ => .done trivial
    refine Keeps.ite (fun _ => ?_) fun _ => .done trivial
    refine Keeps.bind keeps_clock fun _ _ => Keeps.bind (keeps_listAssets claim.id) fun assets _ => ?_
    exact Keeps.bind (keeps_hiddenMediaIds _ _) fun hidden _ => keeps_applyAliases hidden assets
  | none =>
    refine Keeps.bind (keeps_counting fun s a store hop => by
      cases hop
      rfl) fun active _ => ?_
    cases active with
    | some claim =>
      refine Keeps.bind (keeps_rejectCategoryConflict claim category false) fun _ _ => ?_
      exact Keeps.bind (keeps_storeSubmitAlias withAlias) fun _ _ => .done trivial
    | none => exact keeps_createClaim limits url requester category withAlias

theorem keeps_getOwned (id : XPostClaimId) (login : String) :
    Keeps (fun _ => True) (getOwned id login : XProgram X _) := by
  refine Keeps.bind (keeps_normalizeRequester login) fun requester _ => ?_
  refine Keeps.bind (keeps_getOwnedPost id requester) fun found _ => ?_
  cases found with
  | none => exact .fail
  | some claim => exact keeps_requesterSnapshot claim

theorem keeps_resetAssets {assets : List (XAsset X)} (h : ∀ a ∈ assets, a.cleanupState = .pending) :
    Keeps (fun _ => True) (resetAssets assets) := by
  induction assets with
  | nil => exact .done trivial
  | cons a rest ih =>
    refine Keeps.bind (keeps_advanceAssetAndSave (h a List.mem_cons_self) fun _ => by rfl) fun _ _ => ?_
    exact ih fun b hb => h b (List.mem_cons_of_mem a hb)

theorem keeps_retryClaim {assets : List (XAsset X)} (hc : c.Untouched)
    (h : ∀ a ∈ assets, a.cleanupState = .pending) : Keeps (fun _ => True) (retryClaim c assets) := by
  refine Keeps.ite (fun _ => ?_) fun _ => Keeps.ite (fun _ => .fail) fun _ => ?_
  · exact Keeps.bind (keeps_advanceAndSave hc fun _ hrow => by exact hrow) fun queued _ =>
      keeps_requesterSnapshot queued
  · refine Keeps.bind (keeps_resetAssets fun a ha => h a (List.mem_filter.mp ha).1) fun _ _ => ?_
    exact Keeps.bind (keeps_advanceAndSave hc fun _ hrow => by exact hrow) fun resumed _ =>
      keeps_requesterSnapshot resumed

theorem keeps_retry (id : XPostClaimId) (login : String) :
    Keeps (fun _ => True) (retry id login : XProgram X _) := by
  refine Keeps.bind (keeps_normalizeRequester login) fun requester _ => ?_
  refine Keeps.bind (keeps_getOwnedPost id requester) fun found hfound => ?_
  cases found with
  | none => exact .fail
  | some claim =>
    refine Keeps.ite (fun _ => ?_) fun _ => .fail
    exact Keeps.bind (keeps_listAssets claim.id) fun assets hassets =>
      keeps_retryClaim (hfound claim rfl) hassets

end XAcquisitionRequestService

open XAcquisitionRequestService

theorem keeps_answered {α : Type} {p : XProgram X α} (h : Keeps (fun _ => True) p) :
    Keeps (fun _ => True) (answered p) :=
  Keeps.bind h fun _ _ => .done trivial

theorem call_keeps (call : XCall) : Keeps (fun _ => True) (call.program X) := by
  cases call with
  | coordinate settings iterations => exact keeps_runLoop settings iterations
  | submit limits url login category withAlias =>
    exact keeps_answered (keeps_submit limits url login category withAlias)
  | retry id login => exact keeps_answered (keeps_retry id login)
  | getOwned id login => exact keeps_answered (keeps_getOwned id login)
  | administrationGet id => exact keeps_answered (keeps_administrationGet id)
  | pipeline move => exact keeps_beside (by rfl)
  | removeCatalogMedia mediaId =>
    refine keeps_reading fun s a store hop => ?_
    have hop' : s.removeCatalogMedia mediaId = .ok (a, store) := hop
    simp only [XStore.removeCatalogMedia, require_bind_eq_ok] at hop'
    cases hop'.2
    exact ⟨rfl, rfl⟩

theorem xCooperation (X : XDomain) :
    Cooperation (xSystem X) (xRoles X) (fun _ _ _ => True) fun _ _ => True where
  rely_refl _ _ := trivial
  rely_trans _ _ _ _ _ _ := trivial
  within _ _ _ _ _ _ _ _ := trivial
  symm _ _ _ := trivial
  role _ _ _ _ := rfl
  newcomer _ _ _ _ _ := trivial
  secures call s _ := (call_keeps call _ s).mono fun _ _ _ => trivial

/-- The rows of every reachable world are as they must be. -/
theorem ReachableX.kept {w : XRun X} (h : ReachableX w) : w.state.Kept :=
  (Reachable.cooperative (xCooperation X) (empty_kept X) h).state

end FrameNest.X

/-! The clean-up of the staging of finished claims, over any number of drains. -/
namespace FrameNest.X
open Concurrent Relational Uploads
variable {X : XDomain}

/-- The states in which a claim is finished. -/
def finishedPostStates : List XAcquisitionState := [.completed, .completedPartial, .failed]

/-- The staging of a claim is gone, and its flags say so. -/
structure CleanedUp (w : XWorld X) (id : XPostClaimId) : Prop where
  staging : ∀ a ∈ w.store.listAssetsForPost id, w.staging a.stageKey = none
  assets : ∀ a ∈ w.store.listAssetsForPost id, a.state ∈ finishedAssetStates →
    a.cleanupState = .complete
  claim : ∃ c, w.store.getPost id = some c ∧ c.cleanupState = .complete

/-- One drain after another, each with the moments of its calls. -/
def drained (settings : CoordinatorSettings) : List (List XMoment) → XWorld X → XWorld X
  | [], w => w
  | is :: rest, w => drained settings rest (Program.run exec is (drainOnce settings) w).2

/- Drains in which every clearing succeeds. -/
def Clearing (drains : List (List XMoment)) : Prop := ∀ is ∈ drains, ∀ i ∈ is, i.clearFails = false

/-- After finitely many drains the claim is cleaned up, and it stays so and asks for no more
clean-up, whatever else the batches are filled with. -/
def CleanupConverges (settings : CoordinatorSettings) (w : XWorld X) (id : XPostClaimId) : Prop :=
  ∃ drains, Clearing drains ∧ ∀ more, Clearing more →
    CleanedUp (drained settings (drains ++ more) w) id ∧
      ∀ c ∈ (drained settings (drains ++ more) w).store.listCleanupCandidates settings.batchSize,
        c.id ≠ id

theorem drained_kept (settings : CoordinatorSettings) (drains : List (List XMoment))
    {w : XWorld X} (h : w.Kept) : (drained settings drains w).Kept := by
  induction drains generalizing w with
  | nil => exact h
  | cons is rest ih => exact ih ((keeps_drainOnce settings).run h is)

/-- A claim whose flag cannot be set is never cleaned up. -/
theorem XWorld.Kept.not_cleanedUp {w : XWorld X} (h : w.Kept) (id : XPostClaimId) :
    ¬ CleanedUp w id := by
  intro hcleaned
  obtain ⟨c, hc, hcomplete⟩ := hcleaned.claim
  have hpending : c.cleanupState = .pending := (h.getPost c hc).1
  rw [hpending] at hcomplete
  cases hcomplete

theorem XWorld.Kept.not_converges {w : XWorld X} (h : w.Kept) (settings : CoordinatorSettings)
    (id : XPostClaimId) : ¬ CleanupConverges settings w id := by
  rintro ⟨drains, -, hmore⟩
  have hcleaned := (hmore [] fun is his => by cases his).1
  exact (drained_kept settings _ h).not_cleanedUp id hcleaned

/-- In no reachable world does the clean-up of any claim come to an end: its flags are saved
within a state, and a save within a state is refused. -/
theorem cleanup_never_converges {w : XRun X} (h : ReachableX w) (settings : CoordinatorSettings)
    (id : XPostClaimId) : ¬ CleanupConverges settings w.state id :=
  h.kept.not_converges settings id

/-! A claim that fails at its inspection. -/

def exampleAssetId : XAssetId := ⟨"22222222-2222-4222-8222-222222222222", twos_canonical⟩

/- A moment without trouble, in which the post turns out to be deleted. -/
def deletedMoment : XMoment where
  nowMs := 5
  newClaimId := exampleClaimId
  newAssetId := exampleAssetId
  inspection := .ok { exampleInspection "" with failureCode := some "X_POST_DELETED" }

def exampleSettings : CoordinatorSettings := ⟨1048576, 32⟩

/- `https://x.com/alice/status/1`, saved by Alice. -/
def exampleSubmission : XCall :=
  .submit {} "https://x.com/alice/status/1".toList "alice" none false

/- The submission, and two drains. -/
def deletedPost : List (Move XCall XMoment) :=
  .start exampleSubmission :: List.replicate 12 (.call 0 deletedMoment) ++
    .start (.coordinate exampleSettings 2) :: List.replicate 30 (.call 1 deletedMoment)

def deletedWorld : XRun asciiDomain :=
  deletedPost.foldl (World.move (xSystem asciiDomain)) ⟨XWorld.empty asciiDomain, []⟩

theorem deletedWorld_reachable : ReachableX deletedWorld :=
  World.moves_reach deletedPost _ (World.allowed_of_forall (fun _ _ _ _ => trivial) _ _)

theorem deletedWorld_failed :
    deletedWorld.state.store.posts.rows.any (fun c => c.id = exampleClaimId ∧ c.state = .failed) =
      true := by
  decide +kernel

/-- The claim has failed, and no drain cleans it up. -/
theorem cleanup_never_converges_one :
    deletedWorld.state.store.posts.rows.any (fun c => c.id = exampleClaimId ∧ c.state = .failed) =
      true ∧ ¬ CleanupConverges exampleSettings deletedWorld.state exampleClaimId :=
  ⟨deletedWorld_failed,
    cleanup_never_converges deletedWorld_reachable exampleSettings exampleClaimId⟩

/-- Not every finished claim of a reachable world is cleaned up in the end. -/
theorem cleanup_fails : ¬ ∀ (w : XRun asciiDomain), ReachableX w →
    ∀ c ∈ w.state.store.posts.rows, c.state ∈ finishedPostStates →
      ∀ settings, CleanupConverges settings w.state c.id := by
  intro hall
  obtain ⟨c, hc, hfailed⟩ := List.any_eq_true.mp deletedWorld_failed
  have hstate : c.state = .failed := (of_decide_eq_true hfailed).2
  have hfinished : c.state ∈ finishedPostStates := by
    rw [hstate]
    decide
  exact deletedWorld_reachable.kept.not_converges exampleSettings c.id
    (hall deletedWorld deletedWorld_reachable c hc hfinished exampleSettings)

end FrameNest.X
