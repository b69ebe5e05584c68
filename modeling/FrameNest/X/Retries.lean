import FrameNest.Concurrent.CrashLogic
import FrameNest.X.Cooperating

/-! The retry flag against the retry: when the flag is true of a claim and a retry of it goes
through, and what a retry leaves behind that raises or is cut. -/
namespace FrameNest.X
open Concurrent Relational Uploads XAcquisitionRequestService
variable {X : XDomain}

/-- Calls made one after another from the `k`-th moment on. -/
def momentsFrom (moments : Nat → XMoment) (k n : Nat) : List XMoment := (List.range' k n).map moments

/-- The claim is on its way again. -/
def TakenUp (t : XWorld X) (id : XPostClaimId) : Prop :=
  ∃ c, t.store.getPost id = some c ∧ (c.state = .queued ∨ c.state = .acquiring)

/-- A retry in these moments goes through: the claim is on its way again, and the assets that are
reset are pending. -/
def Retries (moments : Nat → XMoment) (s : XWorld X) (id : XPostClaimId) (login : String) : Prop :=
  ∃ n snapshot t,
    Program.run exec (momentsFrom moments 0 n) (retry id login) s = (.done snapshot, t) ∧
      TakenUp t id ∧ ∀ a ∈ s.store.listAssetsForPost id, assetRetryable a = true →
        ∃ b ∈ t.store.listAssetsForPost id, b.id = a.id ∧ b.state = .pending

/-- The flag says whether a retry goes through; and a retry that raises or is cut anywhere, before
the claim is on its way again, leaves a claim that a retry takes up as it would have before. -/
structure RetrySound (moments : Nat → XMoment) (s : XWorld X) (c : XPostClaim X) (login : String) :
    Prop where
  truthful : retryEligible c (s.store.listAssetsForPost c.id) = true ↔ Retries moments s c.id login
  atomic : ∀ is : List XMoment, TakenUp (Program.run exec is (retry c.id login) s).2 c.id ∨
    (Retries moments (Program.run exec is (retry c.id login) s).2 c.id login ↔
      Retries moments s c.id login)

/- An asset of which nothing is left to do. -/
def XAsset.Settled (a : XAsset X) : Prop :=
  a.state = .cataloged ∨ (a.state = .failed ∧ isRetryableXFailure a.failureCode = false)

/- Nobody else holds the place of the claim among the active ones. -/
def PlaceFree (s : XStore X) (c : XPostClaim X) : Prop :=
  ∀ d ∈ s.posts.rows, d.id ≠ c.id → d.isActive = true → d.xPostId = c.xPostId →
    d.createdByLoginKey ≠ c.createdByLoginKey

/-- The claim is neither failed nor partly completed with failures; or all its assets are settled,
and if it has failed without any, its place is free and the clock is not behind its creation. -/
def RetrySafe (moments : Nat → XMoment) (s : XWorld X) (c : XPostClaim X) : Prop :=
  (c.state ≠ .failed ∧ (c.state = .completedPartial → c.failureCount = 0)) ∨
    ((∀ a ∈ s.store.listAssetsForPost c.id, a.Settled) ∧
      (c.state = .failed → s.store.listAssetsForPost c.id = [] →
        PlaceFree s.store c ∧ c.createdAtMs ≤ (moments 2).nowMs))

/-! One call of a run. -/

section Calls
variable {α β : Type} {moments : Nat → XMoment} {k n : Nat} {s t : XWorld X} {b : β}

theorem momentsFrom_succ : momentsFrom moments k (n + 1) =
    moments k :: momentsFrom moments (k + 1) n := by
  simp [momentsFrom, List.range'_succ]

/-- A statement without a fault. -/
theorem run_claims {op : XOperation X} {f : op.Answer → XProgram X β} {a : op.Answer}
    {store : XStore X} (hcalm : (moments k).repositoryFails = false)
    (hop : op.perform s.store = .ok (a, store)) :
    Program.run exec (momentsFrom moments k (n + 1)) (claims op >>= f) s =
      Program.run exec (momentsFrom moments (k + 1) n) (f a) { s with store } := by
  have hexec : exec (moments k) (.claims op) s = (.ok a, { s with store }) := by
    obtain ⟨x, hexec⟩ | ⟨a', store', hop', hexec⟩ := exec_claims (moments k) op s
    · simp [exec, hcalm, transaction_of_ok hop] at hexec
      cases hexec
    · rw [hop] at hop'
      cases hop'
      exact hexec
  rw [momentsFrom_succ]
  exact Program.run_perform hexec

theorem run_clock {f : Nat → XProgram X β} :
    Program.run exec (momentsFrom moments k (n + 1)) (readClock >>= f) s =
      Program.run exec (momentsFrom moments (k + 1) n) (f (moments k).nowMs) s := by
  rw [momentsFrom_succ]
  exact Program.run_perform rfl

/-- A run that ends well has made its next statement. -/
theorem run_claims_done {op : XOperation X} {f : op.Answer → XProgram X β}
    (h : Program.run exec (momentsFrom moments k n) (claims op >>= f) s = (.done b, t)) :
    ∃ m a store, n = m + 1 ∧ op.perform s.store = .ok (a, store) ∧ Program.run exec
      (momentsFrom moments (k + 1) m) (f a) { s with store } = (.done b, t) := by
  cases n with
  | zero => cases h
  | succ m =>
    rw [momentsFrom_succ] at h
    obtain ⟨x, hexec⟩ | ⟨a, store, hop, hexec⟩ := exec_claims (moments k) op s
    · have hrun : Program.run exec (moments k :: momentsFrom moments (k + 1) m)
          (claims op >>= f) s = (.fail x, s) := Program.run_perform_error hexec
      rw [hrun] at h
      cases h
    · have hrun : Program.run exec (moments k :: momentsFrom moments (k + 1) m)
          (claims op >>= f) s =
            Program.run exec (momentsFrom moments (k + 1) m) (f a) { s with store } :=
        Program.run_perform hexec
      rw [hrun] at h
      exact ⟨m, a, store, rfl, hop, h⟩

theorem run_clock_done {f : Nat → XProgram X β}
    (h : Program.run exec (momentsFrom moments k n) (readClock >>= f) s = (.done b, t)) :
    ∃ m, n = m + 1 ∧
      Program.run exec (momentsFrom moments (k + 1) m) (f (moments k).nowMs) s = (.done b, t) := by
  cases n with
  | zero => cases h
  | succ m =>
    rw [run_clock] at h
    exact ⟨m, rfl, h⟩

theorem run_built_done {value : Option α} {f : α → XProgram X β} {is : List XMoment}
    (h : Program.run exec is (built value >>= f) s = (.done b, t)) :
    ∃ a, value = some a ∧ Program.run exec is (f a) s = (.done b, t) := by
  cases value with
  | none =>
    have hfail : Program.run exec is (built none >>= f) s = (.fail .acquisition, s) :=
      Program.run_fail is _ s
    rw [hfail] at h
    cases h
  | some a => exact ⟨a, rfl, h⟩

end Calls

/-! What every cut of a program leaves. -/

section Cuts
variable {α β : Type} {I : XWorld X → Prop} {Q : Except XError β → XWorld X → Prop} {s : XWorld X}

theorem upholds_claims {op : XOperation X} {f : op.Answer → XProgram X β} (hI : I s)
    (herror : ∀ x, Q (.error x) s) (hok : ∀ a store, op.perform s.store = .ok (a, store) →
      I { s with store } ∧ Upholds exec I Q (f a) { s with store }) :
    Upholds exec I Q (claims op >>= f) s := by
  refine Upholds.bind (Upholds.perform fun i => ?_)
  obtain ⟨x, hexec⟩ | ⟨a, store, hop, hexec⟩ := exec_claims i op s
  · simp only [hexec]
    exact ⟨hI, herror x⟩
  · simp only [hexec]
    exact hok a store hop

theorem upholds_clock {f : Nat → XProgram X β} (hI : I s)
    (h : ∀ now, Upholds exec I Q (f now) s) : Upholds exec I Q (readClock >>= f) s :=
  fun i => ⟨hI, h i.nowMs⟩

theorem upholds_built {value : Option α} {f : α → XProgram X β}
    (hnone : value = none → Q (.error .acquisition) s)
    (hsome : ∀ a, value = some a → Upholds exec I Q (f a) s) :
    Upholds exec I Q (built value >>= f) s := by
  cases value with
  | none => exact hnone rfl
  | some a => exact hsome a rfl

/-- Where nothing is asked, everything upholds it. -/
theorem upholds_anything (hQ : ∀ r t, Q r t) (p : XProgram X β) :
    Upholds exec (fun _ => True) Q p s := by
  induction p generalizing s with
  | done b => exact hQ _ _
  | fail x => exact hQ _ _
  | call e next ih => exact fun i => ⟨trivial, ih _⟩

end Cuts

/-! The eligibility rules. -/

section Rules
variable {c : XPostClaim X} {assets : List (XAsset X)} {a : XAsset X}

theorem assetRetryable_iff : assetRetryable a = false ↔ a.Settled := by
  unfold assetRetryable XAsset.Settled activeXAssetStates
  cases hstate : a.state <;> simp

theorem mayRetry_iff : mayRetry c = false ↔
    c.state ≠ .failed ∧ (c.state = .completedPartial → c.failureCount = 0) := by
  unfold mayRetry
  simp

/-- A claim that may be retried, and an asset to reset or nothing discovered yet. -/
theorem retryEligible_iff : retryEligible c assets = true ↔ mayRetry c = true ∧
    ((c.state = .failed ∧ assets = []) ∨ ∃ a ∈ assets, assetRetryable a = true) := by
  unfold retryEligible mayRetry
  cases hstate : c.state <;> simp

end Rules

/-! The retry, call by call. -/

section Retry
variable {s t : XWorld X} {c : XPostClaim X} {login requester : String}

/-- The owner's retry of a claim that is there. -/
theorem retry_eq (id : XPostClaimId) (hlogin : X.normalizeLogin login = some requester) :
    (retry id login : XProgram X (XClaimSnapshot X)) =
      (getOwnedPost id requester >>= fun found => match found with
        | none => .fail .notFound
        | some claim =>
          if mayRetry claim then listAssetsForPost claim.id >>= fun assets => retryClaim claim assets
          else .fail .notRetryable) := by
  simp only [retry, normalizeRequester, hlogin]
  rfl

theorem getOwned_some (hc : s.store.getPost c.id = some c)
    (howner : c.createdByLoginKey = some requester) :
    s.store.getOwnedPost c.id requester = some c := by
  simp [XStore.getOwnedPost, hc, Option.filter, howner]

/-- A claim that is not eligible: the retry raises, and has written nothing. -/
theorem retry_refused (hlogin : X.normalizeLogin login = some requester)
    (hc : s.store.getPost c.id = some c) (howner : c.createdByLoginKey = some requester)
    (hflag : retryEligible c (s.store.listAssetsForPost c.id) = false) :
    Upholds exec (fun t => t = s) (fun r _ => ∀ v, r ≠ .ok v) (retry c.id login) s := by
  rw [retry_eq c.id hlogin]
  refine upholds_claims rfl (fun x v => nofun) fun found store hop => ⟨?_, ?_⟩
  · cases hop
    rfl
  · cases hop
    rw [getOwned_some hc howner]
    by_cases hmay : mayRetry c = true
    · simp only [hmay, if_true]
      refine upholds_claims rfl (fun x v => nofun) fun assets store hop => ⟨?_, ?_⟩
      · cases hop
        rfl
      · cases hop
        have hempty : ¬((s.store.listAssetsForPost c.id).isEmpty = true ∧ c.state = .failed) := by
          rintro ⟨hnil, hfailed⟩
          have heligible := retryEligible_iff.mpr ⟨hmay, .inl ⟨hfailed, List.isEmpty_iff.mp hnil⟩⟩
          rw [hflag] at heligible
          cases heligible
        have hnone : ((s.store.listAssetsForPost c.id).filter assetRetryable).isEmpty = true := by
          rw [List.isEmpty_iff, List.filter_eq_nil_iff]
          intro a ha hretryable
          have heligible := retryEligible_iff.mpr ⟨hmay, .inr ⟨a, ha, hretryable⟩⟩
          rw [hflag] at heligible
          cases heligible
        rw [retryClaim, if_neg hempty, if_pos hnone]
        exact fun v => nofun
    · simp only [hmay]
      exact fun v => nofun

/-- An asset on its way cannot be reset, so a list with one in it never is. -/
theorem resetAssets_refused {assets : List (XAsset X)} {b : XAsset X} (hb : b ∈ assets)
    (hactive : b.state ≠ .failed) (s : XWorld X) :
    Upholds exec (fun _ => True) (fun r _ => ∀ v, r ≠ .ok v) (resetAssets assets) s := by
  induction assets generalizing s with
  | nil => cases hb
  | cons a rest ih =>
    obtain rfl | hrest := List.mem_cons.mp hb
    · have hrefused : ∀ now, b.advance .pending now clearedAsset = none := by
        intro now
        unfold XAsset.advance
        rw [if_neg]
        cases hstate : b.state <;> simp_all [allowedAssetTransitions]
      refine Upholds.bind (upholds_clock trivial fun now => ?_)
      refine upholds_built (fun _ v => nofun) fun d hd => ?_
      rw [hrefused now] at hd
      cases hd
    · refine Upholds.bind ((upholds_anything (Q := fun _ _ => True) (fun _ _ => trivial) _).mono
        fun r t _ => ?_)
      cases r with
      | ok _ => exact ih hrest t
      | error x => exact fun v => nofun

/-- A claim with an asset on its way cannot be retried. -/
theorem retry_stuck (hlogin : X.normalizeLogin login = some requester)
    (hc : s.store.getPost c.id = some c) (howner : c.createdByLoginKey = some requester)
    {b : XAsset X} (hb : b ∈ s.store.listAssetsForPost c.id) (hactive : b.state ∈ activeXAssetStates) :
    Upholds exec (fun _ => True) (fun r _ => ∀ v, r ≠ .ok v) (retry c.id login) s := by
  have hne : b.state ≠ .failed := by
    intro heq
    rw [heq] at hactive
    exact absurd hactive (by decide)
  rw [retry_eq c.id hlogin]
  refine upholds_claims trivial (fun x v => nofun) fun found store hop => ⟨trivial, ?_⟩
  cases hop
  rw [getOwned_some hc howner]
  by_cases hmay : mayRetry c = true
  · simp only [hmay, if_true]
    refine upholds_claims trivial (fun x v => nofun) fun assets store hop => ⟨trivial, ?_⟩
    cases hop
    have hretryable : b ∈ (s.store.listAssetsForPost c.id).filter assetRetryable :=
      List.mem_filter.mpr ⟨hb, by simp [assetRetryable, hne, hactive]⟩
    have hempty : ¬((s.store.listAssetsForPost c.id).isEmpty = true ∧ c.state = .failed) := by
      rintro ⟨hnil, -⟩
      rw [List.isEmpty_iff.mp hnil] at hb
      cases hb
    have hsome : ¬((s.store.listAssetsForPost c.id).filter assetRetryable).isEmpty = true := by
      intro hnil
      rw [List.isEmpty_iff.mp hnil] at hretryable
      cases hretryable
    rw [retryClaim, if_neg hempty, if_neg hsome]
    refine Upholds.bind ((resetAssets_refused hretryable hne s).mono fun r t hr => ?_)
    cases r with
    | ok u => exact absurd rfl (hr u)
    | error x => exact fun v => nofun
  · simp only [hmay]
    exact fun v => nofun

/-- What is refused however it is cut does not go through. -/
theorem not_retries {moments : Nat → XMoment} {id : XPostClaimId} {I : XWorld X → Prop}
    (h : Upholds exec I (fun r _ => ∀ v, r ≠ .ok v) (retry id login) s) :
    ¬ Retries moments s id login := by
  rintro ⟨n, snapshot, t, hrun, -, -⟩
  have hended := (h.ended (momentsFrom moments 0 n)).1 snapshot (by rw [hrun])
  exact hended snapshot rfl

end Retry

/-! The saves of a retry. -/

section Saves
variable {β : Type} {moments : Nat → XMoment} {k n : Nat} {s : XStore X} {w v : XWorld X}
  {c d : XPostClaim X} {a b : XAsset X} {store : XStore X} {u : Unit} {r : β}

theorem selectPost_of_row (hc : s.getPost d.id = some c)
    (hallowed : d.state ∈ allowedPostTransitions c.state) :
    s.selectPost d c.state c.version = .ok ((), s) := by
  simp [XStore.selectPost, hc, hallowed]

/-- The UPDATE over the row that is there: the table has taken the new row. -/
theorem updatePost_done (hc : s.getPost d.id = some c)
    (h : s.updatePost d c.version = .ok (u, store)) : s.acceptsPost d = true ∧
      store.getPost d.id = some d ∧ store.assets = s.assets := by
  unfold XStore.updatePost at h
  rw [hc, Option.any_some, decide_eq_true rfl, if_pos rfl] at h
  split at h
  · rename_i haccepts
    cases h
    have hrow : s.posts.find? d.id = some c := hc
    have hid : c.id = d.id := Table.find?_key (t := s.posts) (r := c) hrow
    refine ⟨haccepts, ?_, rfl⟩
    have hfound := Table.find?_update (t := s.posts) (k := d.id) (replacePost d c.version)
      (replacePost_id d c.version) d.id
    rw [if_pos rfl, hrow, Option.map_some, replacePost, if_pos ⟨hid, rfl⟩] at hfound
    exact hfound
  · cases h

theorem updatePost_of_accepts (hc : s.getPost d.id = some c) (haccepts : s.acceptsPost d = true) :
    ∃ store, s.updatePost d c.version = .ok ((), store) := by
  unfold XStore.updatePost
  rw [hc, Option.any_some, decide_eq_true rfl, if_pos rfl, if_pos haccepts]
  exact ⟨_, rfl⟩

theorem updateAsset_done (ha : s.getAsset b.id = some a)
    (h : s.updateAsset b a.version = .ok (u, store)) :
    store.posts = s.posts ∧ b ∈ store.assets.rows := by
  unfold XStore.updateAsset at h
  rw [ha, Option.any_some, decide_eq_true rfl, if_pos rfl] at h
  split at h
  · cases h
    have hrow : s.assets.find? b.id = some a := ha
    have hid : a.id = b.id := Table.find?_key (t := s.assets) (r := a) hrow
    have hmem : replaceAsset b a.version a ∈ (s.assets.update b.id (replaceAsset b a.version)
        (replaceAsset_id b a.version)).rows := Table.update_mem (Table.find?_mem hrow) hid
    rw [replaceAsset, if_pos ⟨hid, rfl⟩] at hmem
    exact ⟨rfl, hmem⟩
  · cases h

/- A move and its save, call by call. -/
theorem advanceAndSave_bind (c : XPostClaim X) (target : XAcquisitionState)
    (changes : XPostClaimRow → XPostClaimRow) (f : XPostClaim X → XProgram X β) :
    advanceAndSave c target changes >>= f = readClock >>= fun now =>
      built (c.advance target now changes) >>= fun d =>
        claims (.selectPost d c.state c.version) >>= fun _ =>
          claims (.updatePost d c.version) >>= fun _ => f d := by
  have hsave : ∀ d, save c d >>= f = claims (.selectPost d c.state c.version) >>= fun _ =>
      claims (.updatePost d c.version) >>= fun _ => f d := by
    intro d
    refine (Program.bind_assoc _ _ _).trans (congrArg (Program.bind _) (funext fun _ => ?_))
    exact Program.bind_assoc _ _ _
  simp only [advanceAndSave, Program.bind_assoc, hsave]

theorem advanceAssetAndSave_bind (a : XAsset X) (target : XAssetState)
    (changes : XAssetRow → XAssetRow) (f : XAsset X → XProgram X β) :
    advanceAssetAndSave a target changes >>= f = readClock >>= fun now =>
      built (a.advance target now changes) >>= fun b =>
        claims (.selectAsset b a.state a.version) >>= fun _ =>
          claims (.updateAsset b a.version) >>= fun _ => f b := by
  have hsave : ∀ b, saveAssetOver a b >>= f = claims (.selectAsset b a.state a.version) >>=
      fun _ => claims (.updateAsset b a.version) >>= fun _ => f b := by
    intro b
    refine (Program.bind_assoc _ _ _).trans (congrArg (Program.bind _) (funext fun _ => ?_))
    exact Program.bind_assoc _ _ _
  simp only [advanceAssetAndSave, Program.bind_assoc, hsave]

/-- A move that is saved in a run that ends well. -/
theorem run_advanceAndSave_done {target : XAcquisitionState} {changes : XPostClaimRow → XPostClaimRow}
    {f : XPostClaim X → XProgram X β}
    (h : Program.run exec (momentsFrom moments k n) (advanceAndSave c target changes >>= f) w =
      (.done r, v)) :
    ∃ m d store, n = m + 3 ∧ c.advance target (moments k).nowMs changes = some d ∧
      w.store.updatePost d c.version = .ok ((), store) ∧
      Program.run exec (momentsFrom moments (k + 3) m) (f d) { w with store } = (.done r, v) := by
  rw [advanceAndSave_bind] at h
  obtain ⟨n, rfl, hbuilt⟩ := run_clock_done h
  obtain ⟨d, hd, hsave⟩ := run_built_done hbuilt
  obtain ⟨n, u, store, rfl, hselect, hupdated⟩ := run_claims_done hsave
  obtain ⟨rfl, -⟩ := XStore.selectPost_ok hselect
  obtain ⟨n, u, store, rfl, hupdate, hdone⟩ := run_claims_done hupdated
  exact ⟨n, d, store, rfl, hd, hupdate, hdone⟩

theorem run_advanceAssetAndSave_done {target : XAssetState} {changes : XAssetRow → XAssetRow}
    {f : XAsset X → XProgram X β}
    (h : Program.run exec (momentsFrom moments k n) (advanceAssetAndSave a target changes >>= f) w =
      (.done r, v)) :
    ∃ m b store, n = m + 3 ∧ a.advance target (moments k).nowMs changes = some b ∧
      w.store.selectAsset b a.state a.version = .ok ((), w.store) ∧
      w.store.updateAsset b a.version = .ok ((), store) ∧
      Program.run exec (momentsFrom moments (k + 3) m) (f b) { w with store } = (.done r, v) := by
  rw [advanceAssetAndSave_bind] at h
  obtain ⟨n, rfl, hbuilt⟩ := run_clock_done h
  obtain ⟨b, hb, hsave⟩ := run_built_done hbuilt
  obtain ⟨n, u, store, rfl, hselect, hupdated⟩ := run_claims_done hsave
  obtain ⟨rfl, -⟩ := XStore.selectAsset_ok hselect
  obtain ⟨n, u, store, rfl, hupdate, hdone⟩ := run_claims_done hupdated
  exact ⟨n, b, store, rfl, hb, hselect, hupdate, hdone⟩

/-- A move and its save in moments without a fault. -/
theorem run_saved {α : Type} {make : Nat → Option α} {p q : α → XOperation X}
    {f : α → XProgram X β} {b : α} {u : (p b).Answer} {v : (q b).Answer}
    (hcalm : ∀ k, (moments k).repositoryFails = false) (hb : make (moments k).nowMs = some b)
    (hselect : (p b).perform w.store = .ok (u, w.store))
    (hupdate : (q b).perform w.store = .ok (v, store)) :
    Program.run exec (momentsFrom moments k (n + 3)) (readClock >>= fun now =>
      built (make now) >>= fun b => claims (p b) >>= fun _ =>
        claims (q b) >>= fun _ => f b) w =
      Program.run exec (momentsFrom moments (k + 3) n) (f b) { w with store } := by
  have hbuilt : (built (make (moments k).nowMs) : XProgram X _) = .done b := by
    rw [hb]
    rfl
  rw [run_clock, hbuilt, Program.done_bind, run_claims (hcalm (k + 1)) hselect]
  exact run_claims (hcalm (k + 2)) hupdate

end Saves

/-! What a retry comes to. -/

section Outcome
variable {moments : Nat → XMoment} {n : Nat} {s t : XWorld X} {c d : XPostClaim X}
  {login requester : String} {assets : List (XAsset X)} {snapshot : XClaimSnapshot X}

theorem retryClaim_fresh (hassets : assets = []) (hfailed : c.state = .failed) :
    retryClaim c assets = advanceAndSave c .queued cleared >>= requesterSnapshot := by
  rw [retryClaim, if_pos ⟨List.isEmpty_iff.mpr hassets, hfailed⟩]

/-- With an asset to reset, the retry begins with the first of them. -/
theorem retryClaim_resets {a : XAsset X} (ha : a ∈ assets) (hretryable : assetRetryable a = true) :
    ∃ first ∈ assets, assetRetryable first = true ∧ ∃ rest : XProgram X (XClaimSnapshot X),
      retryClaim c assets = advanceAssetAndSave first .pending clearedAsset >>= fun _ => rest := by
  have hmem : a ∈ assets.filter assetRetryable := List.mem_filter.mpr ⟨ha, hretryable⟩
  obtain ⟨first, others, hfilter⟩ := List.exists_cons_of_ne_nil (List.ne_nil_of_mem hmem)
  have hfirst : first ∈ assets.filter assetRetryable := by simp [hfilter]
  refine ⟨first, (List.mem_filter.mp hfirst).1, (List.mem_filter.mp hfirst).2, resetAssets others >>=
    fun _ => advanceAndSave c .acquiring cleared >>= requesterSnapshot, ?_⟩
  have hempty : ¬(assets.isEmpty = true ∧ c.state = .failed) := by
    rintro ⟨hnil, -⟩
    rw [List.isEmpty_iff.mp hnil] at ha
    cases ha
  rw [retryClaim, if_neg hempty, hfilter, if_neg (by simp), resetAssets, Program.bind_assoc]

/-- A claim that may be retried: the retry reads it and its assets. -/
theorem run_retry (hlogin : X.normalizeLogin login = some requester)
    (hc : s.store.getPost c.id = some c) (howner : c.createdByLoginKey = some requester)
    (hcalm : ∀ k, (moments k).repositoryFails = false) (hmay : mayRetry c = true) :
    Program.run exec (momentsFrom moments 0 (n + 2)) (retry c.id login) s =
      Program.run exec (momentsFrom moments 2 n)
        (retryClaim c (s.store.listAssetsForPost c.id)) s := by
  have hfound : (XOperation.getOwnedPost c.id requester).perform s.store =
      .ok (some c, s.store) := by
    simp only [XOperation.perform, getOwned_some hc howner]
  rw [retry_eq c.id hlogin]
  refine (run_claims (hcalm 0) hfound).trans ?_
  simp only [hmay, if_true]
  exact run_claims (hcalm 1) rfl

theorem run_retry_done (hlogin : X.normalizeLogin login = some requester)
    (hc : s.store.getPost c.id = some c) (howner : c.createdByLoginKey = some requester)
    (hmay : mayRetry c = true)
    (h : Program.run exec (momentsFrom moments 0 n) (retry c.id login) s = (.done snapshot, t)) :
    ∃ m, n = m + 2 ∧ Program.run exec (momentsFrom moments 2 m)
      (retryClaim c (s.store.listAssetsForPost c.id)) s = (.done snapshot, t) := by
  rw [retry_eq c.id hlogin] at h
  obtain ⟨n, found, store, rfl, hop, hfound⟩ := run_claims_done h
  cases hop
  rw [getOwned_some hc howner] at hfound
  simp only [hmay, if_true] at hfound
  obtain ⟨n, assets, store, rfl, hop, hclaim⟩ := run_claims_done hfound
  cases hop
  exact ⟨n, rfl, hclaim⟩

/-- An asset that is reset: the first save of a retry that goes through leaves it pending, with the
claim as it was. -/
theorem not_sound_of_retryable (hlogin : X.normalizeLogin login = some requester)
    (hc : s.store.getPost c.id = some c) (howner : c.createdByLoginKey = some requester)
    (hcalm : ∀ k, (moments k).repositoryFails = false) (hmay : mayRetry c = true) {a : XAsset X}
    (ha : a ∈ s.store.listAssetsForPost c.id) (hretryable : assetRetryable a = true) :
    ¬ RetrySound moments s c login := by
  intro hsound
  have hretries := hsound.truthful.mp (retryEligible_iff.mpr ⟨hmay, .inr ⟨a, ha, hretryable⟩⟩)
  obtain ⟨n, snapshot, t, hrun, -, -⟩ := id hretries
  obtain ⟨m, -, hclaim⟩ := run_retry_done hlogin hc howner hmay hrun
  obtain ⟨first, hfirst, -, rest, hrest⟩ := retryClaim_resets (c := c) ha hretryable
  rw [hrest] at hclaim
  obtain ⟨m, b, store, -, hb, hselect, hupdate, -⟩ := run_advanceAssetAndSave_done hclaim
  have hcut : (Program.run exec (momentsFrom moments 0 5) (retry c.id login) s).2 =
      { s with store } := by
    rw [run_retry hlogin hc howner hcalm hmay, hrest, advanceAssetAndSave_bind]
    rw [run_saved (n := 0) (p := fun b => .selectAsset b first.state first.version)
      (q := fun b => .updateAsset b first.version) hcalm hb hselect hupdate]
    exact congrArg Prod.snd (Program.run_nil _ _)
  -- the row that the first reset has saved
  obtain ⟨hmem, hclaimId⟩ : first ∈ s.store.assets.rows ∧ first.claimId = c.id := by
    simpa [XStore.listAssetsForPost, mem_orderBy] using hfirst
  have hrow : b.toXAssetRow = _ := (XAsset.advance_some hb).2
  have hid : b.id = first.id := by rw [hrow]; rfl
  have hstate : b.state = .pending := by rw [hrow]
  have hbelongs : b.claimId = c.id := by rw [hrow]; exact hclaimId
  have hold : s.store.getAsset b.id = some first := by
    rw [hid]
    exact Table.mem_find? hmem
  obtain ⟨hposts, hsaved⟩ := updateAsset_done hold hupdate
  have hb' : b ∈ store.listAssetsForPost c.id := by
    simpa [XStore.listAssetsForPost, mem_orderBy] using ⟨hsaved, hbelongs⟩
  have hc' : store.getPost c.id = some c := by
    rw [XStore.getPost, hposts]
    exact hc
  have hactive : b.state ∈ activeXAssetStates := by
    rw [hstate]
    decide
  have hstuck : ¬ Retries moments { s with store } c.id login :=
    not_retries (retry_stuck hlogin hc' howner hb' hactive)
  obtain htaken | hsame := hsound.atomic (momentsFrom moments 0 5)
  · rw [hcut] at htaken
    obtain ⟨d, hd, hqueued⟩ := htaken
    have heq : c = d := Option.some.inj (hc'.symm.trans hd)
    subst heq
    have hidle : mayRetry c = false := by
      obtain hstate | hstate := hqueued <;> simp [mayRetry, hstate]
    rw [hmay] at hidle
    cases hidle
  · rw [hcut] at hsame
    exact hstuck (hsame.mpr hretries)

/-- A retry that goes through without assets: the place was free, and the clock not behind. -/
theorem place_of_retries (hlogin : X.normalizeLogin login = some requester)
    (hc : s.store.getPost c.id = some c) (howner : c.createdByLoginKey = some requester)
    (hfailed : c.state = .failed) (hassets : s.store.listAssetsForPost c.id = [])
    (h : Retries moments s c.id login) : PlaceFree s.store c ∧ c.createdAtMs ≤ (moments 2).nowMs := by
  obtain ⟨n, snapshot, t, hrun, -, -⟩ := h
  have hmay : mayRetry c = true := by simp [mayRetry, hfailed]
  obtain ⟨m, -, hclaim⟩ := run_retry_done hlogin hc howner hmay hrun
  rw [retryClaim_fresh hassets hfailed] at hclaim
  obtain ⟨m, d, store, -, hd, hupdate, -⟩ := run_advanceAndSave_done hclaim
  have hrow : d.toXPostClaimRow = _ := (XPostClaim.advance_some hd).2
  have hid : d.id = c.id := by rw [hrow]; rfl
  obtain ⟨haccepts, -, -⟩ := updatePost_done (hid ▸ hc) hupdate
  constructor
  · intro e he hne hactive hpost howned
    have hkey : d.createdByLoginKey = c.createdByLoginKey := by rw [hrow]; rfl
    have hclash : d.clashes e = true := by
      have hqueued : d.isActive = true := by
        have hstate : d.state = .queued := by rw [hrow]
        rw [XPostClaim.isActive, hstate]
        decide
      have hsame : d.xPostId = e.xPostId := by
        rw [hpost, hrow]
        rfl
      simp [XPostClaim.clashes, hqueued, hactive, hsame, hkey, howned, howner]
    simp only [XStore.acceptsPost, Bool.and_eq_true, Bool.not_eq_true', List.any_eq_false] at haccepts
    exact haccepts.2 e he (by simp [hid, hne, hclash])
  · have hvalid := d.valid
    simp only [XPostClaimRow.isValid, XPostClaimRow.ownershipValid, Bool.and_eq_true,
      decide_eq_true_eq] at hvalid
    have hle : d.createdAtMs ≤ d.updatedAtMs := hvalid.1.1.1.2.1.1.1
    rw [hrow] at hle
    exact hle

/-- The row of a failed claim, queued again: its constructor takes it. -/
theorem queued_built (hc : c.Untouched) {now : Nat} (hnow : c.createdAtMs ≤ now)
    (hfailed : c.state = .failed) : ∃ d, c.advance .queued now cleared = some d := by
  have hallowed : XAcquisitionState.queued ∈ allowedPostTransitions c.state := by
    rw [hfailed]
    decide
  have hvalid : XPostClaimRow.isValid X { cleared c.toXPostClaimRow with
      state := .queued, updatedAtMs := now, version := c.version + 1 } = true := by
    have hold := c.valid
    simp only [XPostClaimRow.isValid, Bool.and_eq_true] at hold ⊢
    obtain ⟨⟨⟨⟨hsource, hownership⟩, hadvisory⟩, hextraction⟩, houtcome⟩ := hold
    refine ⟨⟨⟨⟨hsource, ?_⟩, hadvisory⟩, hextraction⟩, ?_⟩
    · simp only [XPostClaimRow.ownershipValid, Bool.and_eq_true, decide_eq_true_eq] at hownership ⊢
      obtain ⟨⟨⟨-, hretryOf⟩, hresolved⟩, hlogin⟩ := hownership
      exact ⟨⟨⟨hnow, hretryOf⟩, hresolved⟩, hlogin⟩
    · simp only [XPostClaimRow.outcomeValid, Bool.and_eq_true, decide_eq_true_eq] at houtcome ⊢
      obtain ⟨⟨-, hcleanup⟩, -⟩ := houtcome
      have hremoved : c.catalogRemovedAtMs = none := hc.2.1
      exact ⟨⟨by simp [cleared], hcleanup⟩, by simp [cleared, hremoved]⟩
  rw [XPostClaim.advance, if_pos hallowed]
  exact ⟨_, dif_pos hvalid⟩

/-- The table takes the queued row, where the place is free. -/
theorem queued_accepted (hkept : c.Untouched ∧ c.columnsValid = true) (hplace : PlaceFree s.store c)
    {now : Nat} (hd : c.advance .queued now cleared = some d) : s.store.acceptsPost d = true := by
  have hrow : d.toXPostClaimRow = _ := (XPostClaim.advance_some hd).2
  obtain ⟨⟨-, hremoved, hretryOf, hresolved⟩, hcolumns⟩ := hkept
  have hvalid : d.columnsValid = true := by
    simp only [XPostClaim.columnsValid, Bool.and_eq_true] at hcolumns ⊢
    rw [hrow]
    simp only [cleared, hremoved]
    exact ⟨⟨hcolumns.1.1, rfl⟩, rfl⟩
  have hrefers : s.store.postRefers d = true := by
    rw [XStore.postRefers, hrow]
    simp only [cleared, hretryOf, hresolved]
    rfl
  have hfree : (s.store.posts.rows.any fun e => e.id ≠ d.id && d.clashes e) = false := by
    rw [List.any_eq_false]
    intro e he hclash
    simp only [XPostClaim.clashes, Bool.and_eq_true, decide_eq_true_eq] at hclash
    obtain ⟨hne, ⟨⟨⟨-, hactive⟩, hpost⟩, -⟩, howned⟩ := hclash
    rw [hrow] at hne hpost howned
    exact hplace e he hne hactive hpost.symm howned.symm
  rw [XStore.acceptsPost, hvalid, hrefers, hfree]
  rfl

/-- A failed claim without assets: with its place free, and the clock not behind, a retry goes
through. -/
theorem retries_of_place (hlogin : X.normalizeLogin login = some requester)
    (hc : s.store.getPost c.id = some c) (howner : c.createdByLoginKey = some requester)
    (hcalm : ∀ k, (moments k).repositoryFails = false) (hfailed : c.state = .failed)
    (hassets : s.store.listAssetsForPost c.id = []) (hkept : c.Untouched ∧ c.columnsValid = true)
    (hplace : PlaceFree s.store c) (hnow : c.createdAtMs ≤ (moments 2).nowMs) :
    Retries moments s c.id login := by
  have hmay : mayRetry c = true := by simp [mayRetry, hfailed]
  obtain ⟨d, hd⟩ := queued_built hkept.1 hnow hfailed
  have hrow : d.toXPostClaimRow = _ := (XPostClaim.advance_some hd).2
  have hid : d.id = c.id := by rw [hrow]; rfl
  have hstate : d.state = .queued := by rw [hrow]
  have hold : s.store.getPost d.id = some c := by
    rw [hid]
    exact hc
  have hselect := selectPost_of_row hold (d := d) (by rw [hstate, hfailed]; decide)
  obtain ⟨store, hupdate⟩ := updatePost_of_accepts hold (queued_accepted hkept hplace hd)
  obtain ⟨-, hsaved, hkeptAssets⟩ := updatePost_done hold hupdate
  have hlist : store.listAssetsForPost d.id = [] := by
    rw [XStore.listAssetsForPost, hkeptAssets, hid]
    exact hassets
  have hrun : Program.run exec (momentsFrom moments 0 6) (retry c.id login) s =
      (.done (administrationSnapshot d []), { s with store }) := by
    rw [run_retry hlogin hc howner hcalm hmay, retryClaim_fresh hassets hfailed,
      advanceAndSave_bind]
    rw [run_saved (p := fun d => .selectPost d c.state c.version)
      (q := fun d => .updatePost d c.version) hcalm hd hselect hupdate]
    refine (run_claims (hcalm 5) rfl).trans ?_
    simp [hlist, hiddenMediaIds, administrationSnapshot]
  refine ⟨6, _, _, hrun, ⟨d, hid ▸ hsaved, .inl hstate⟩, ?_⟩
  rw [hassets]
  intro a ha
  cases ha

theorem requesterSnapshot_reads {I : XWorld X → Prop} (hI : I s) (d : XPostClaim X) :
    Upholds exec I (fun _ _ => True) (requesterSnapshot d) s := by
  refine upholds_claims hI (fun _ => trivial) fun assets store hop => ?_
  cases hop
  refine ⟨hI, ?_⟩
  have hhidden : ∀ login media, Upholds exec I (fun _ _ => True) (hiddenMediaIds login media) s := by
    intro login media
    cases media with
    | nil => trivial
    | cons _ _ => exact Upholds.perform fun i => ⟨hI, trivial⟩
  refine Upholds.bind ((hhidden _ _).mono fun r t _ => ?_)
  cases r <;> trivial

/-- The retry of a failed claim without assets writes once: its claim is queued, or as it was. -/
theorem retry_fresh_upholds (hlogin : X.normalizeLogin login = some requester)
    (hc : s.store.getPost c.id = some c) (howner : c.createdByLoginKey = some requester)
    (hfailed : c.state = .failed) (hassets : s.store.listAssetsForPost c.id = []) :
    Upholds exec (fun t => t = s ∨ TakenUp t c.id) (fun _ _ => True) (retry c.id login) s := by
  rw [retry_eq c.id hlogin]
  refine upholds_claims (.inl rfl) (fun _ => trivial) fun found store hop => ⟨?_, ?_⟩
  · cases hop
    exact .inl rfl
  cases hop
  have hmay : mayRetry c = true := by simp [mayRetry, hfailed]
  rw [getOwned_some hc howner]
  simp only [hmay, if_true]
  refine upholds_claims (.inl rfl) (fun _ => trivial) fun assets store hop => ⟨?_, ?_⟩
  · cases hop
    exact .inl rfl
  cases hop
  rw [retryClaim_fresh hassets hfailed, advanceAndSave_bind]
  refine upholds_clock (.inl rfl) fun now => upholds_built (fun _ => trivial) fun d hd => ?_
  have hrow : d.toXPostClaimRow = _ := (XPostClaim.advance_some hd).2
  have hid : d.id = c.id := by rw [hrow]; rfl
  have hstate : d.state = .queued := by rw [hrow]
  refine upholds_claims (.inl rfl) (fun _ => trivial) fun u store hselect => ?_
  obtain ⟨rfl, -⟩ := XStore.selectPost_ok hselect
  refine ⟨.inl rfl, upholds_claims (.inl rfl) (fun _ => trivial) fun u store hupdate => ?_⟩
  obtain ⟨-, hsaved, -⟩ := updatePost_done (hid ▸ hc) hupdate
  have htaken : TakenUp { s with store } c.id := ⟨d, hid ▸ hsaved, .inl hstate⟩
  refine ⟨.inr htaken, ?_⟩
  exact requesterSnapshot_reads (.inr htaken) d

/-- A claim that may not be retried as it is: the retry raises and leaves all as it was. -/
theorem sound_of_refused (hlogin : X.normalizeLogin login = some requester)
    (hc : s.store.getPost c.id = some c) (howner : c.createdByLoginKey = some requester)
    (hflag : retryEligible c (s.store.listAssetsForPost c.id) = false) :
    RetrySound moments s c login := by
  have hrefused := retry_refused hlogin hc howner hflag
  constructor
  · rw [hflag]
    exact iff_of_false (by simp) (not_retries hrefused)
  · intro is
    right
    rw [hrefused.run rfl is]

end Outcome

/-- The flag and the retry of a claim agree, and a retry that is cut leaves them agreed, exactly
where the claim may not be retried at all, or has no asset to reset and its place is free. -/
theorem retrySound_iff_safe {w : XRun X} (h : ReachableX w) {c : XPostClaim X}
    (hc : c ∈ w.state.store.posts.rows) {login requester : String}
    (hlogin : X.normalizeLogin login = some requester)
    (howner : c.createdByLoginKey = some requester) {moments : Nat → XMoment}
    (hcalm : ∀ k, (moments k).repositoryFails = false) :
    RetrySound moments w.state c login ↔ RetrySafe moments w.state c := by
  have hrow : w.state.store.getPost c.id = some c := Table.mem_find? hc
  constructor
  · intro hsound
    by_cases hmay : mayRetry c = true
    · right
      refine ⟨fun a ha => ?_, fun hfailed hassets => ?_⟩
      · rw [← assetRetryable_iff, ← Bool.not_eq_true]
        intro hretryable
        exact not_sound_of_retryable hlogin hrow howner hcalm hmay ha hretryable hsound
      · have hflag := retryEligible_iff.mpr ⟨hmay, .inl ⟨hfailed, hassets⟩⟩
        exact place_of_retries hlogin hrow howner hfailed hassets (hsound.truthful.mp hflag)
    · left
      exact mayRetry_iff.mp (Bool.eq_false_of_not_eq_true hmay)
  · intro hsafe
    by_cases hflag : retryEligible c (w.state.store.listAssetsForPost c.id) = true
    · -- the flag is true of a claim that has failed before anything was discovered
      obtain ⟨hmay, hwhy⟩ := retryEligible_iff.mp hflag
      obtain hidle | ⟨hsettled, hplace⟩ := hsafe
      · rw [mayRetry_iff.mpr hidle] at hmay
        cases hmay
      obtain ⟨hfailed, hassets⟩ | ⟨a, ha, hretryable⟩ := hwhy
      · obtain ⟨hfree, hnow⟩ := hplace hfailed hassets
        have hretries : Retries moments w.state c.id login :=
          retries_of_place hlogin hrow howner hcalm hfailed hassets (h.kept.posts c hc) hfree hnow
        refine ⟨iff_of_true hflag hretries, fun is => ?_⟩
        obtain heq | htaken :=
          (retry_fresh_upholds hlogin hrow howner hfailed hassets).run (.inl rfl) is
        · right
          rw [heq]
        · exact .inl htaken
      · rw [assetRetryable_iff.mpr (hsettled a ha)] at hretryable
        cases hretryable
    · exact sound_of_refused hlogin hrow howner (Bool.eq_false_of_not_eq_true hflag)

/-! A claim that has failed before anything was discovered, and one whose download has failed. -/

theorem deletedWorld_rows : (deletedWorld.state.store.posts.rows.all fun c =>
    c.id = exampleClaimId ∧ c.state = .failed ∧ c.createdByLoginKey = some "alice" ∧
      c.createdAtMs ≤ 5 ∧ deletedWorld.state.store.listAssetsForPost c.id = []) = true := by
  decide +kernel

/-- The claim of a post that has been deleted may be retried, as its flag says. -/
theorem retrySound_iff_safe_deleted : ∃ c ∈ deletedWorld.state.store.posts.rows,
    c.state = .failed ∧ RetrySound (fun _ => deletedMoment) deletedWorld.state c "alice" := by
  obtain ⟨c, hc, -⟩ := List.any_eq_true.mp deletedWorld_failed
  have hrow := of_decide_eq_true (List.all_eq_true.mp deletedWorld_rows c hc)
  obtain ⟨hid, hfailed, howner, hcreated, hassets⟩ := hrow
  have hsafe : RetrySafe (fun _ => deletedMoment) deletedWorld.state c := by
    right
    refine ⟨fun a ha => ?_, fun _ _ => ⟨fun d hd hne => ?_, hcreated⟩⟩
    · rw [hassets] at ha
      cases ha
    · have hother := of_decide_eq_true (List.all_eq_true.mp deletedWorld_rows d hd)
      exact absurd (hother.1.trans hid.symm) hne
  have hlogin : asciiDomain.normalizeLogin "alice" = some "alice" := rfl
  exact ⟨c, hc, hfailed, (retrySound_iff_safe deletedWorld_reachable hc hlogin howner
    fun _ => rfl).mpr hsafe⟩

/- A moment in which the download of the image times out. -/
def timeoutMoment : XMoment where
  nowMs := 5
  newClaimId := exampleClaimId
  newAssetId := exampleAssetId
  inspection := .ok (exampleInspection "A sunny day. More soon.")
  download := .error (.extraction "X_DOWNLOAD_TIMEOUT")

/- The submission, and four drains. -/
def timedOut : List (Move XCall XMoment) :=
  .start exampleSubmission :: List.replicate 12 (.call 0 timeoutMoment) ++
    .start (.coordinate exampleSettings 4) :: List.replicate 60 (.call 1 timeoutMoment)

def timedOutWorld : XRun asciiDomain :=
  timedOut.foldl (World.move (xSystem asciiDomain)) ⟨XWorld.empty asciiDomain, []⟩

theorem timedOutWorld_reachable : ReachableX timedOutWorld :=
  World.moves_reach timedOut _ (World.allowed_of_forall (fun _ _ _ _ => trivial) _ _)

theorem timedOutWorld_failed : (timedOutWorld.state.store.posts.rows.any fun c =>
    c.state = .failed ∧ c.createdByLoginKey = some "alice" ∧
      (timedOutWorld.state.store.listAssetsForPost c.id).any assetRetryable = true) = true := by
  decide +kernel

/-- A retry of a claim whose download has timed out is not atomic: cut after the first reset, it
leaves a claim that is flagged and cannot be retried. -/
theorem retry_not_sound : ¬ ∀ (w : XRun asciiDomain), ReachableX w →
    ∀ c ∈ w.state.store.posts.rows, ∀ login, c.createdByLoginKey = some login →
      ∀ moments : Nat → XMoment, (∀ k, (moments k).repositoryFails = false) →
        RetrySound moments w.state c login := by
  intro hall
  obtain ⟨c, hc, hfacts⟩ := List.any_eq_true.mp timedOutWorld_failed
  obtain ⟨hfailed, howner, hassets⟩ := of_decide_eq_true hfacts
  obtain ⟨a, ha, hretryable⟩ := List.any_eq_true.mp hassets
  have hmay : mayRetry c = true := by simp [mayRetry, hfailed]
  have hlogin : asciiDomain.normalizeLogin "alice" = some "alice" := rfl
  exact not_sound_of_retryable hlogin (Table.mem_find? hc) howner (fun _ => rfl) hmay ha hretryable
    (hall timedOutWorld timedOutWorld_reachable c hc "alice" howner (fun _ => timeoutMoment)
      fun _ => rfl)

end FrameNest.X
