import FrameNest.X.KeptColumns

/-! Every program of the services and of the coordinator keeps the columns, so every reachable
world has them as they must be. -/
namespace FrameNest.X
open Relational Uploads Acquisition
variable {X : XDomain} {c : XPostClaim X} {a : XAsset X}

theorem new_untouched {id : XPostClaimId} {url : List Char} {now : Nat} {login : Option String}
    {category : Option ContentCategory} (h : XPostClaim.new X id url now login category = some c) :
    c.Untouched := by
  simp only [XPostClaim.new, Option.bind_eq_bind] at h
  obtain ⟨identity, -, hrest⟩ := Option.bind_eq_some_iff.mp h
  have hconstructed : ∃ owner, constructPost X
      { id
        state := .submitted
        submittedUrl := url
        canonicalUrl := identity.canonicalUrl
        xPostId := identity.postId
        createdAtMs := now
        updatedAtMs := now
        createdByLoginKey := owner
        title := some (defaultXTitle identity.postId)
        requestedContentCategory := category } = some c := by
    cases login with
    | none => exact ⟨none, hrest⟩
    | some login =>
      obtain ⟨owner, -, hc⟩ := Option.bind_eq_some_iff.mp hrest
      exact ⟨owner, hc⟩
  obtain ⟨owner, hc⟩ := hconstructed
  rw [constructPost_some hc]
  exact ⟨rfl, rfl, rfl, rfl⟩

theorem newAsset_pending {id : XAssetId} {claimId : XPostClaimId} {ordinal : Int}
    {mediaType : XMediaType} {mime : List Char} {now : Nat} {key variant : Option (List Char)}
    {width height duration : Option Int}
    (h : XAsset.new X id claimId ordinal mediaType mime now key width height duration variant =
      some a) : a.cleanupState = .pending := by
  rw [constructAsset_some h]

theorem keeps_createOrGetActive (h : c.Untouched) :
    Keeps (fun answer : XPostClaim X × Bool => answer.1.Untouched)
      (claims (.createOrGetActive c) : XProgram X (XPostClaim X × Bool)) := by
  refine keeps_claims fun t answer store ht hop => ?_
  have hop' : t.store.createOrGetActive c = .ok (answer, store) := hop
  simp only [XStore.createOrGetActive, require_bind_eq_ok] at hop'
  obtain ⟨-, -, hop'⟩ := hop'
  split at hop'
  · rename_i active hfound
    cases hop'
    exact ⟨ht, (ht.posts active (List.mem_of_find?_eq_some hfound)).1⟩
  · split at hop'
    · rename_i posts hinsert
      cases hop'
      split at hinsert
      · rename_i haccepts
        simp only [XStore.acceptsPost, Bool.and_eq_true] at haccepts
        refine ⟨⟨fun e he => ?_, ht.assets⟩, h⟩
        obtain hold | rfl := (Table.mem_insert hinsert).mp he
        · exact ht.posts e hold
        · exact ⟨h, haccepts.1.1⟩
      · cases hinsert
    · cases hop'

theorem createAssets_kept {assets : List (XAsset X)} {u : Unit} {store : XStore X}
    (h : ∀ a ∈ assets, a.cleanupState = .pending) {t : XWorld X} (ht : t.Kept)
    (hop : XStore.createAssets assets t.store = .ok (u, store)) :
    XWorld.Kept { t with store } := by
  induction assets generalizing t with
  | nil =>
    cases hop
    exact ht
  | cons a rest ih =>
    unfold XStore.createAssets at hop
    split at hop
    · rename_i table hinsert
      split at hinsert
      · have hnext : XWorld.Kept { t with store := { t.store with assets := table } } := by
          refine ⟨ht.posts, fun e he => ?_⟩
          obtain hold | rfl := (Table.mem_insert hinsert).mp he
          · exact ht.assets e hold
          · exact h e List.mem_cons_self
        have hdone := ih (fun b hb => h b (List.mem_cons_of_mem a hb)) hnext hop
        exact hdone
      · cases hinsert
    · cases hop

theorem keeps_createAssets {assets : List (XAsset X)} (h : ∀ a ∈ assets, a.cleanupState = .pending) :
    Keeps (fun _ => True) (claims (.createAssets assets) : XProgram X Unit) :=
  keeps_claims fun _ _ _ ht hop => ⟨createAssets_kept h ht hop, trivial⟩

theorem keeps_listRecovery (limit : Nat) :
    Keeps (fun found : List (XPostClaim X) => ∀ c ∈ found, c.Untouched)
      (claims (.listRecoveryCandidates limit) : XProgram X (List (XPostClaim X))) := by
  refine keeps_claims fun t answer store ht hop => ?_
  cases hop
  refine ⟨ht, fun c hc => ?_⟩
  have hmem : c ∈ t.store.posts.rows :=
    (List.mem_filter.mp (mem_orderBy.mp (List.mem_of_mem_take hc))).1
  exact (ht.posts c hmem).1

theorem keeps_listCleanup (limit : Nat) :
    Keeps (fun found : List (XPostClaim X) => ∀ c ∈ found, c.Untouched)
      (claims (.listCleanupCandidates limit) : XProgram X (List (XPostClaim X))) := by
  refine keeps_claims fun t answer store ht hop => ?_
  cases hop
  refine ⟨ht, fun c hc => ?_⟩
  have hmem : c ∈ t.store.posts.rows := (List.mem_filter.mp (List.mem_of_mem_take hc)).1
  exact (ht.posts c hmem).1

/-! Clean-up and failure. -/

/-- A cleaned asset is in the state of the one that was read, so its save is refused. -/
theorem keeps_cleanAssetStaging (h : a.cleanupState = .pending) :
    Keeps (fun b : XAsset X => b.cleanupState = .pending) (cleanAssetStaging a) := by
  refine Keeps.bind (Keeps.attempt fun i _ ht => exec_kept (by rfl) i ht) fun answer _ => ?_
  cases answer with
  | error x => exact .done h
  | ok u =>
    refine Keeps.bind keeps_clock fun updatedAt _ => Keeps.bind keeps_clock fun cleanedAt _ => ?_
    refine Keeps.bind (P := fun b : XAsset X => b.state = a.state) (Keeps.built fun b hb => ?_)
      fun b hb => ?_
    · rw [XAsset.evolve_some hb]
    · refine Keeps.rescue ?_ fun x => .done h
      have hrefused : b.state ∉ allowedAssetTransitions a.state := by
        rw [hb]
        exact asset_not_self a.state
      exact (keeps_saveAsset fun hallowed => absurd hallowed hrefused).mono
        fun _ he => absurd he.2 hrefused

theorem keeps_cleanFinished {assets : List (XAsset X)} (h : ∀ a ∈ assets, a.cleanupState = .pending) :
    Keeps (fun _ => True) (cleanFinished assets) := by
  induction assets with
  | nil => exact .done trivial
  | cons a rest ih =>
    have hrest : Keeps (fun _ => True) (cleanFinished rest) :=
      ih fun b hb => h b (List.mem_cons_of_mem a hb)
    refine Keeps.ite (fun _ => ?_) fun _ => hrest
    exact Keeps.bind (keeps_cleanAssetStaging (h a List.mem_cons_self)) fun _ _ => hrest

/-- A cleaned claim is in the state of the one that was read. -/
theorem keeps_cleanUp (claim : XPostClaim X) : Keeps (fun _ => True) (cleanUp claim) := by
  refine Keeps.bind (keeps_listAssets claim.id) fun assets hassets => ?_
  refine Keeps.bind (keeps_cleanFinished hassets) fun _ _ => ?_
  refine Keeps.bind (keeps_listAssets claim.id) fun assets _ => ?_
  refine Keeps.ite (fun _ => ?_) fun _ => .done trivial
  refine Keeps.bind keeps_clock fun updatedAt _ => Keeps.bind keeps_clock fun cleanedAt _ => ?_
  refine Keeps.bind (P := fun d : XPostClaim X => d.state = claim.state)
    (Keeps.built fun d hd => by rw [XPostClaim.evolve_some hd]) fun d hd => ?_
  have hrefused : d.state ∉ allowedPostTransitions claim.state := by
    rw [hd]
    exact post_not_self claim.state
  exact Keeps.bind (keeps_save fun hallowed => absurd hallowed hrefused) fun _ _ => .done trivial

theorem keeps_fail (claim : XPostClaim X) (stage : XFailureStage) (code : String) :
    Keeps (fun _ => True) (fail claim stage code) := by
  refine Keeps.rescue ?_ fun x => by cases x <;> first | exact .done trivial | exact .fail
  refine Keeps.bind (keeps_getPost claim.id) fun found hfound => ?_
  cases found with
  | none => exact .done trivial
  | some current =>
    refine Keeps.ite (fun _ => .done trivial) fun _ => ?_
    refine Keeps.bind keeps_clock fun updatedAt _ => Keeps.bind keeps_clock fun completedAt _ => ?_
    refine Keeps.bind (P := fun d : XPostClaim X => d.Untouched) (Keeps.built fun d hd => ?_)
      fun d hd => ?_
    · exact advance_untouched hd (hfound current rfl) fun _ hrow => hrow
    · exact Keeps.bind (keeps_save fun _ => hd) fun _ _ => keeps_cleanUp d

theorem keeps_advanceToHandoff (claim : XPostClaim X) (assets : List (XAsset X)) :
    Keeps (fun _ => True) (advanceToHandoff claim assets) := by
  refine Keeps.ite (fun _ => .done trivial) fun _ => ?_
  refine Keeps.bind (keeps_getPost claim.id) fun found hfound => ?_
  cases found with
  | none => exact .done trivial
  | some current =>
    refine Keeps.ite (fun _ => ?_) fun _ => .done trivial
    exact Keeps.bind (keeps_advanceAndSave (hfound current rfl) (fun _ hrow => by exact hrow))
      fun _ _ => .done trivial

theorem keeps_failAsset (claim : XPostClaim X) (h : a.cleanupState = .pending)
    (stage : XFailureStage) (code : String) : Keeps (fun _ => True) (failAsset claim a stage code) := by
  refine Keeps.bind (keeps_advanceAssetAndSave h (fun _ => by rfl)) fun _ _ => ?_
  refine Keeps.ite (fun _ => keeps_fail claim stage code) fun _ => ?_
  exact Keeps.bind (keeps_listAssets claim.id) fun assets _ => keeps_advanceToHandoff claim assets

/-! Extraction. -/

theorem keeps_newAssets (claimId : XPostClaimId) (descriptors : List XNormalizedAssetDescriptor) :
    Keeps (fun assets : List (XAsset X) => ∀ a ∈ assets, a.cleanupState = .pending)
      (newAssets claimId descriptors) := by
  induction descriptors with
  | nil => exact .done fun a ha => by cases ha
  | cons d rest ih =>
    refine Keeps.bind keeps_clock fun now _ => Keeps.bind (keeps_beside (by rfl)) fun id _ => ?_
    refine Keeps.bind (P := fun a : XAsset X => a.cleanupState = .pending)
      (Keeps.built fun a ha => newAsset_pending ha) fun a ha => ?_
    refine Keeps.bind ih fun others hothers => .done ?_
    intro b hb
    obtain rfl | hmem := List.mem_cons.mp hb
    · exact ha
    · exact hothers b hmem

theorem keeps_recordInspection (h : c.Untouched) (inspection : XNormalizedInspection)
    (first : XNormalizedAssetDescriptor) :
    Keeps (fun _ => True) (recordInspection c inspection first) := by
  refine Keeps.bind keeps_clock fun now _ => ?_
  refine Keeps.bind (P := fun d : XPostClaim X => d.Untouched) (Keeps.built fun d hd => ?_)
    fun d hd => ?_
  · simp only [extracted, Option.bind_eq_bind, Option.bind_eq_some_iff] at hd
    obtain ⟨texts, -, hd⟩ := hd
    exact advance_untouched hd h fun _ hrow => hrow
  · refine Keeps.bind (keeps_save fun _ => hd) fun e _ => ?_
    exact Keeps.bind (keeps_newAssets e.id inspection.assets) fun assets hassets =>
      keeps_createAssets hassets

theorem keeps_inspected (h : c.Untouched) (inspection : XNormalizedInspection) :
    Keeps (fun _ => True) (inspected c inspection) := by
  unfold inspected
  split
  · exact keeps_fail _ _ _
  · exact keeps_fail _ _ _
  · exact Keeps.ite (fun _ => keeps_fail _ _ _) fun _ => keeps_recordInspection h inspection _

theorem keeps_extract (claim : XPostClaim X) : Keeps (fun _ => True) (extract claim) := by
  refine Keeps.bind (keeps_getPost claim.id) fun found hfound => ?_
  cases found with
  | none => exact .done trivial
  | some current =>
    have hcurrent := hfound current rfl
    refine Keeps.ite (fun _ => .done trivial) fun _ => ?_
    refine Keeps.bind (P := fun d : XPostClaim X => d.Untouched) ?_ fun d hd => ?_
    · exact Keeps.ite (fun _ => keeps_advanceAndSave hcurrent (fun _ hrow => by exact hrow))
        fun _ => .done hcurrent
    · refine Keeps.bind (Keeps.attempt fun i _ ht => exec_kept (by rfl) i ht) fun answer _ => ?_
      cases answer with
      | ok inspection => exact keeps_inspected hd inspection
      | error x => cases x <;> first | exact keeps_fail _ _ _ | exact .fail

/-! Acquisition. -/

theorem keeps_acquireOne (claim : XPostClaim X) (asset : XAsset X) :
    Keeps (fun _ => True) (acquireOne claim asset) := by
  refine Keeps.bind (keeps_beside (by rfl)) fun result _ => ?_
  refine Keeps.bind Keeps.demand fun _ _ => ?_
  exact Keeps.bind Keeps.demand fun _ _ => .done trivial

theorem keeps_clearInterrupted (assets : List (XAsset X)) :
    Keeps (fun _ => True) (clearInterrupted assets) := by
  induction assets with
  | nil => exact .done trivial
  | cons a rest ih =>
    refine Keeps.bind (Keeps.attempt fun i _ ht => exec_kept (by rfl) i ht) fun answer _ => ?_
    cases answer with
    | error x => exact .done trivial
    | ok u => exact ih

theorem keeps_toAcquiring (h : a.cleanupState = .pending) :
    Keeps (fun b : XAsset X => b.cleanupState = .pending) (toAcquiring a) := by
  refine Keeps.bind (P := fun b : XAsset X => b.cleanupState = .pending) ?_ fun b hb => ?_
  · exact Keeps.ite (fun _ => keeps_advanceAssetAndSave h (fun _ => by rfl)) fun _ => .done h
  · exact Keeps.ite (fun _ => keeps_advanceAssetAndSave hb (fun _ => by rfl)) fun _ => .done hb

theorem keeps_acquireAsset (claim : XPostClaim X) (h : a.cleanupState = .pending) :
    Keeps (fun _ => True) (acquireAsset claim a) := by
  refine Keeps.bind (keeps_toAcquiring h) fun acquiring hacquiring => ?_
  refine Keeps.bind (P := fun _ => True) ?_ fun result _ => ?_
  · refine Keeps.rescue ?_ fun x => .done trivial
    exact Keeps.bind (keeps_acquireOne claim acquiring) fun _ _ => .done trivial
  · cases result with
    | error x =>
      cases x <;> first
        | exact .done trivial
        | exact keeps_failAsset claim hacquiring _ _
    | ok acquired =>
      refine Keeps.bind (keeps_advanceAssetAndSave hacquiring (fun _ => by rfl)) fun _ _ => ?_
      exact Keeps.bind (keeps_listAssets claim.id) fun assets _ => keeps_advanceToHandoff claim assets

theorem keeps_acquire (claim : XPostClaim X) : Keeps (fun _ => True) (acquire claim) := by
  refine Keeps.bind (keeps_listAssets claim.id) fun assets _ => ?_
  refine Keeps.bind (keeps_clearInterrupted _) fun cleared _ => ?_
  refine Keeps.ite (fun _ => ?_) fun _ => .done trivial
  refine Keeps.bind (keeps_listAssets claim.id) fun assets hassets => ?_
  cases hfound : List.find? (fun a : XAsset X => a.state ∈ awaitingAssetStates) assets with
  | none => exact keeps_advanceToHandoff claim assets
  | some asset => exact keeps_acquireAsset claim (hassets asset (List.mem_of_find?_eq_some hfound))

/-! Handoff. -/

theorem keeps_sendChunks (settings : CoordinatorSettings) (id : UploadSessionId)
    (reader : StagedArtifactReader) (size fuel : Nat) (snapshot : UploadSnapshot) :
    Keeps (fun _ => True) (sendChunks settings id reader size fuel snapshot : XProgram X _) := by
  induction fuel generalizing snapshot with
  | zero => exact .done trivial
  | succ fuel ih =>
    refine Keeps.ite (fun _ => ?_) fun _ => .done trivial
    refine Keeps.bind (keeps_beside (by rfl)) fun _ _ => Keeps.bind (keeps_beside (by rfl)) fun chunk _ => ?_
    refine Keeps.bind Keeps.demand fun _ _ => ?_
    exact Keeps.bind (keeps_beside (by rfl)) fun next _ => ih next

theorem keeps_handoffAsset (settings : CoordinatorSettings) (claim : XPostClaim X)
    (h : a.cleanupState = .pending) : Keeps (fun _ => True) (handoffAsset settings claim a) := by
  unfold handoffAsset
  split
  · exact .fail
  · rename_i size _
    refine Keeps.bind (keeps_beside (by rfl)) fun snapshot _ => ?_
    refine Keeps.bind (P := fun _ => True) ?_ fun _ _ => ?_
    · exact Keeps.ite
        (fun _ => (keeps_advanceAssetAndSave h (fun _ => by rfl)).mono fun _ _ => trivial)
        fun _ => .done trivial
    · refine Keeps.bind (keeps_beside (by rfl)) fun reader _ => ?_
      refine Keeps.bind (keeps_sendChunks settings _ reader size size snapshot) fun sent _ => ?_
      refine Keeps.bind (keeps_beside (by rfl)) fun _ _ => ?_
      refine Keeps.bind (P := fun _ => True) ?_ fun last _ => ?_
      · exact Keeps.ite (fun _ => keeps_beside (by rfl)) fun _ => .done trivial
      · exact Keeps.bind Keeps.demand fun _ _ => keeps_beside (by rfl)

theorem keeps_projectUpload (claim : XPostClaim X) (h : a.cleanupState = .pending)
    (upload : Upload) : Keeps (fun _ => True) (projectUpload claim a upload) := by
  refine Keeps.ite (fun _ => keeps_beside (by rfl)) fun _ => Keeps.ite (fun _ => ?_)
    fun _ => keeps_failAsset claim h _ _
  refine Keeps.bind (keeps_beside (by rfl)) fun candidate _ => ?_
  unfold completeAsset
  split
  · exact .fail
  · refine Keeps.bind keeps_clock fun updatedAt _ => Keeps.bind keeps_clock fun completedAt _ => ?_
    refine Keeps.bind (P := fun b : XAsset X => b.cleanupState = .pending)
      (Keeps.built fun b hb => advance_pending hb h fun _ => rfl) fun b hb => ?_
    exact Keeps.bind (keeps_saveAsset fun _ => hb) fun _ _ => keeps_beside (by rfl)

theorem keeps_projectAsset (claim : XPostClaim X) (h : a.cleanupState = .pending) :
    Keeps (fun _ => True) (projectAsset claim a) := by
  unfold projectAsset
  split
  · exact .fail
  · refine Keeps.bind (P := fun b : XAsset X => b.cleanupState = .pending) ?_ fun b hb => ?_
    · exact Keeps.ite (fun _ => keeps_cleanAssetStaging h) fun _ => .done h
    · refine Keeps.bind (keeps_beside (by rfl)) fun found _ => ?_
      cases found with
      | none => exact .fail
      | some upload => exact keeps_projectUpload claim hb upload

theorem conclusion_discreet (assets failed success : List (XAsset X)) :
    Discreet (conclusion assets failed success).2 := by
  intro row hrow
  unfold conclusion
  split <;> exact hrow

theorem keeps_conclude (claim : XPostClaim X) (assets : List (XAsset X)) :
    Keeps (fun _ => True) (conclude claim assets) := by
  refine Keeps.bind (keeps_getPost claim.id) fun found hfound => ?_
  cases found with
  | none => exact .done trivial
  | some current =>
    refine Keeps.ite (fun _ => ?_) fun _ => .done trivial
    refine Keeps.bind keeps_clock fun now _ => ?_
    refine Keeps.bind (P := fun d : XPostClaim X => d.Untouched) (Keeps.built fun d hd =>
      evolve_untouched hd (hfound current rfl) fun _ hrow => hrow) fun counted hcounted => ?_
    refine Keeps.bind keeps_clock fun updatedAt _ => Keeps.bind keeps_clock fun completedAt _ => ?_
    refine Keeps.bind (P := fun d : XPostClaim X => d.Untouched) (Keeps.built fun d hd => ?_)
      fun d hd => ?_
    · refine advance_untouched hd hcounted fun row hrow => ?_
      exact conclusion_discreet assets _ _ row hrow
    · exact Keeps.bind (keeps_save fun _ => hd) fun _ _ => keeps_cleanUp d

theorem keeps_handoff (settings : CoordinatorSettings) (claim : XPostClaim X) :
    Keeps (fun _ => True) (handoff settings claim) := by
  refine Keeps.bind (keeps_listAssets claim.id) fun assets hassets => ?_
  cases hstaged : List.find? (fun a : XAsset X => a.state = .staged) assets with
  | some asset =>
    exact keeps_handoffAsset settings claim (hassets asset (List.mem_of_find?_eq_some hstaged))
  | none =>
    cases hhanding : List.find? (fun a : XAsset X => a.state = .handingOff) assets with
    | some asset =>
      exact keeps_projectAsset claim (hassets asset (List.mem_of_find?_eq_some hhanding))
    | none => exact keeps_conclude claim assets

/-! The runner. -/

theorem keeps_process (settings : CoordinatorSettings) (h : c.Untouched) :
    Keeps (fun _ => True) (process settings c) := by
  refine Keeps.rescue ?_ fun x => by
    cases x <;> first | exact .done trivial | exact keeps_fail _ _ _
  unfold step
  split
  · exact Keeps.bind (keeps_advanceAndSave h (fun _ hrow => by exact hrow)) fun _ _ => .done trivial
  · exact keeps_extract c
  · exact keeps_extract c
  · exact keeps_acquire c
  · exact keeps_handoff settings c
  all_goals exact .done trivial

theorem keeps_reconcileAll (claims : List (XPostClaim X)) :
    Keeps (fun _ => True) (reconcileAll claims) := by
  induction claims with
  | nil => exact .done trivial
  | cons c rest ih => exact Keeps.bind (keeps_cleanUp c) fun _ _ => ih

theorem keeps_processAll (settings : CoordinatorSettings) {claims : List (XPostClaim X)}
    (h : ∀ c ∈ claims, c.Untouched) : Keeps (fun _ => True) (processAll settings claims) := by
  induction claims with
  | nil => exact .done trivial
  | cons c rest ih =>
    refine Keeps.bind (keeps_process settings (h c List.mem_cons_self)) fun _ _ => ?_
    exact ih fun d hd => h d (List.mem_cons_of_mem c hd)

theorem keeps_drainOnce (settings : CoordinatorSettings) :
    Keeps (fun _ => True) (drainOnce settings : XProgram X Bool) := by
  refine Keeps.bind (keeps_listCleanup settings.batchSize) fun cleanup _ => ?_
  refine Keeps.bind (keeps_reconcileAll cleanup) fun _ _ => ?_
  refine Keeps.bind (keeps_listRecovery settings.batchSize) fun candidates hcandidates => ?_
  exact Keeps.bind (keeps_processAll settings hcandidates) fun _ _ => .done trivial

theorem keeps_runLoop (settings : CoordinatorSettings) (iterations : Nat) :
    Keeps (fun _ => True) (runLoop settings iterations : XProgram X Unit) := by
  induction iterations with
  | zero => exact .done trivial
  | succ n ih =>
    exact Keeps.bind (Keeps.rescue (keeps_drainOnce settings) fun x => .done trivial) fun _ _ => ih

end FrameNest.X
