import FrameNest.X.Coordinator

/-! What no call changes: the rows that are saved have the clean-up column, the removal column and
the references of the rows that were read, and a save within a state is refused. -/
namespace FrameNest.X
open Concurrent Relational Uploads
variable {X : XDomain} {α β : Type}

/-- Nothing cleaned up, nothing removed, no other claim referred to. -/
def XPostClaimRow.Untouched (row : XPostClaimRow) : Prop :=
  row.cleanupState = .pending ∧ row.catalogRemovedAtMs = none ∧ row.retryOfClaimId = none ∧
    row.resolvedClaimId = none

/-- What holds of the rows of every reachable world. -/
structure XWorld.Kept (w : XWorld X) : Prop where
  posts : ∀ c ∈ w.store.posts.rows, c.Untouched ∧ c.columnsValid = true
  assets : ∀ a ∈ w.store.assets.rows, a.cleanupState = .pending

theorem empty_kept (X : XDomain) : (XWorld.empty X).Kept where
  posts _ hc := nomatch hc
  assets _ ha := nomatch ha

/-- The callers share nothing but the invariant. -/
def xRoles (X : XDomain) : Roles (XWorld X) XRole where
  inv := XWorld.Kept
  rely _ _ _ := True
  guar _ _ _ := True

/-- Every call of the program keeps the rows as they must be, and its result satisfies `P`. -/
def Keeps (P : α → Prop) (p : XProgram X α) : Prop :=
  ∀ g s, Secures (xProtocol X) (xRoles X) g (fun r _ => ∀ a, r = .ok a → P a) p s

namespace Keeps
variable {P : α → Prop} {P' : β → Prop} {p : XProgram X α}

theorem done {a : α} (h : P a) : Keeps P (.done a : XProgram X α) := by
  intro g s b hb
  cases hb
  exact h

theorem fail {x : XError} : Keeps P (.fail x : XProgram X α) := by
  intro g s b hb
  cases hb

theorem mono {Q : α → Prop} (h : Keeps P p) (hPQ : ∀ a, P a → Q a) : Keeps Q p :=
  fun g s => (h g s).mono fun _ _ hr a ha => hPQ a (hr a ha)

theorem bind {f : α → XProgram X β} (h : Keeps P p) (hf : ∀ a, P a → Keeps P' (f a)) :
    Keeps P' (p >>= f) := by
  intro g s
  refine Secures.bind ((h g s).mono fun r t hr => ?_)
  cases r with
  | ok a => exact hf a (hr a rfl) g t
  | error x =>
    intro b hb
    cases hb

theorem ite {c : Prop} [Decidable c] {q : XProgram X α} (hp : c → Keeps P p)
    (hq : ¬c → Keeps P q) : Keeps P (if c then p else q) := by
  by_cases hc : c
  · simpa [hc] using hp hc
  · simpa [hc] using hq hc

theorem rescue {handler : XError → XProgram X α} (h : Keeps P p) (hx : ∀ x, Keeps P (handler x)) :
    Keeps P (p.rescue handler) := by
  intro g s
  refine Secures.rescue ((h g s).mono fun r t hr => ?_)
  cases r with
  | ok a => exact hr
  | error x => exact hx x g t

/-- One call, judged from what it makes of every state that is as it must be. -/
theorem perform {e : XEffect X} {P : e.Answer → Prop} (h : ∀ (i : XMoment) (t : XWorld X), t.Kept →
    (exec i e t).2.Kept ∧ ∀ a, (exec i e t).1 = .ok a → P a) : Keeps P (Program.perform e) := by
  intro g s
  refine Secures.perform fun t _ ht i _ => ?_
  obtain ⟨hkept, hP⟩ := h i t ht
  exact ⟨hkept, trivial, hP⟩

theorem attempt {e : XEffect X} (h : ∀ (i : XMoment) (t : XWorld X), t.Kept → (exec i e t).2.Kept) :
    Keeps (fun _ => True) (Program.attempt e) :=
  fun _ _ t _ ht i _ => ⟨h i t ht, trivial, fun _ _ => trivial⟩

theorem built {value : Option α} (h : ∀ a, value = some a → P a) :
    Keeps P (built value : XProgram X α) := by
  cases value with
  | none => exact fail
  | some a => exact done (h a rfl)

theorem demand {b : Bool} {x : XError} : Keeps (fun _ => True) (demand b x : XProgram X Unit) :=
  ite (fun _ => done trivial) fun _ => fail

/-- However early its run is cut, the rows are as they must be. -/
theorem run (h : Keeps P p) {s : XWorld X} (hs : s.Kept) (is : List XMoment) :
    (Program.run exec is p s).2.Kept := by
  have hsecure := h .other s
  clear h
  induction is generalizing p s with
  | nil => simpa using hs
  | cons i is ih =>
    cases p with
    | done a => simpa using hs
    | fail x => simpa using hs
    | call e next =>
      obtain ⟨hkept, -, hnext⟩ := hsecure s trivial hs i trivial
      exact ih hkept hnext

end Keeps

/-! The effects. -/

/-- A statement on the tables: refused, or the new tables. -/
theorem exec_claims (i : XMoment) (op : XOperation X) (t : XWorld X) :
    (∃ x, exec i (.claims op) t = (.error x, t)) ∨
      ∃ a store, op.perform t.store = .ok (a, store) ∧
        exec i (.claims op) t = (.ok a, { t with store }) := by
  simp only [exec]
  split
  · exact Or.inl ⟨.repository .failed, rfl⟩
  · cases h : op.perform t.store with
    | error x =>
      rw [transaction_of_error h]
      exact Or.inl ⟨x, rfl⟩
    | ok r =>
      rw [transaction_of_ok h]
      exact Or.inr ⟨r.1, r.2, rfl, rfl⟩

/- A state with the same claims and assets. -/
theorem XWorld.Kept.same {t t' : XWorld X} (h : t.Kept) (hposts : t'.store.posts = t.store.posts)
    (hassets : t'.store.assets = t.store.assets) : t'.Kept where
  posts := by
    rw [hposts]
    exact h.posts
  assets := by
    rw [hassets]
    exact h.assets

def XEffect.isClaims : XEffect X → Bool
  | claims _ => true
  | _ => false

/-- Only the repository touches the claims and their assets. -/
theorem exec_beside {e : XEffect X} (he : e.isClaims = false) (i : XMoment) (t : XWorld X) :
    (exec i e t).2.store.posts = t.store.posts ∧ (exec i e t).2.store.assets = t.store.assets := by
  cases e with
  | claims op => cases he
  | clear stageKey =>
    simp only [exec]
    split
    · split <;> exact ⟨rfl, rfl⟩
    · exact ⟨rfl, rfl⟩
  | _ => exact ⟨rfl, rfl⟩

theorem exec_kept {e : XEffect X} (he : e.isClaims = false) (i : XMoment) {t : XWorld X}
    (ht : t.Kept) : (exec i e t).2.Kept :=
  ht.same (exec_beside he i t).1 (exec_beside he i t).2

/-- A statement that is judged from what its operation makes of the tables. -/
theorem keeps_claims {op : XOperation X} {P : op.Answer → Prop}
    (h : ∀ (t : XWorld X) a store, t.Kept → op.perform t.store = .ok (a, store) →
      XWorld.Kept { t with store } ∧ P a) : Keeps P (claims op) := by
  refine Keeps.perform fun i t ht => ?_
  obtain ⟨x, hexec⟩ | ⟨a, store, hop, hexec⟩ := exec_claims i op t
  · rw [hexec]
    exact ⟨ht, nofun⟩
  · obtain ⟨hkept, hP⟩ := h t a store ht hop
    rw [hexec]
    refine ⟨hkept, fun b hb => ?_⟩
    cases hb
    exact hP

/- An effect beside the tables, whatever it answers. -/
theorem keeps_beside {e : XEffect X} (he : e.isClaims = false) :
    Keeps (fun _ => True) (Program.perform e) :=
  Keeps.perform fun i _ ht => ⟨exec_kept he i ht, fun _ _ => trivial⟩

theorem keeps_clock : Keeps (fun _ => True) (readClock : XProgram X Nat) := keeps_beside rfl

theorem XWorld.Kept.getPost {t : XWorld X} (h : t.Kept) {id : XPostClaimId} :
    ∀ c ∈ t.store.getPost id, c.Untouched :=
  fun _ hc => (h.posts _ (Table.find?_mem hc)).1

theorem XWorld.Kept.listAssets {t : XWorld X} (h : t.Kept) {id : XPostClaimId} :
    ∀ a ∈ t.store.listAssetsForPost id, a.cleanupState = .pending := by
  intro a ha
  have hmem : a ∈ t.store.assets.rows := (List.mem_filter.mp (mem_orderBy.mp ha)).1
  exact h.assets a hmem

theorem keeps_getPost (id : XPostClaimId) :
    Keeps (fun found => ∀ c ∈ found, c.Untouched) (getPost id : XProgram X (Option (XPostClaim X))) := by
  refine keeps_claims fun t a store ht hop => ?_
  cases hop
  exact ⟨ht, ht.getPost⟩

theorem keeps_getOwnedPost (id : XPostClaimId) (login : String) :
    Keeps (fun found => ∀ c ∈ found, c.Untouched)
      (getOwnedPost id login : XProgram X (Option (XPostClaim X))) := by
  refine keeps_claims fun t a store ht hop => ?_
  cases hop
  refine ⟨ht, fun c hc => ?_⟩
  exact ht.getPost c (Option.mem_filter_iff.mp hc).1

theorem keeps_listAssets (id : XPostClaimId) :
    Keeps (fun assets => ∀ a ∈ assets, a.cleanupState = .pending)
      (listAssetsForPost id : XProgram X (List (XAsset X))) := by
  refine keeps_claims fun t a store ht hop => ?_
  cases hop
  exact ⟨ht, ht.listAssets⟩

/-- A statement that leaves the tables alone, whatever it answers. -/
theorem keeps_reading {op : XOperation X}
    (h : ∀ (s : XStore X) a store, op.perform s = .ok (a, store) →
      store.posts = s.posts ∧ store.assets = s.assets) : Keeps (fun _ => True) (claims op) := by
  refine keeps_claims fun t a store ht hop => ?_
  obtain ⟨hposts, hassets⟩ := h t.store a store hop
  exact ⟨ht.same hposts hassets, trivial⟩

/-! The saves. -/

section Saves
variable {c d : XPostClaim X} {a b : XAsset X}

/-- The UPDATE of a claim with the columns as they must be. -/
theorem keeps_updatePost (hd : d.Untouched) (version : Nat) :
    Keeps (fun _ => True) (claims (.updatePost d version) : XProgram X Unit) := by
  refine keeps_claims fun t u store ht hop => ⟨?_, trivial⟩
  have hop' : t.store.updatePost d version = .ok (u, store) := hop
  unfold XStore.updatePost at hop'
  split at hop'
  · split at hop'
    · rename_i haccepts
      cases hop'
      refine ⟨fun e he => ?_, ht.assets⟩
      have hmem : e ∈ (t.store.posts.update d.id (replacePost d version)
        (replacePost_id d version)).rows := he
      obtain ⟨hold, -⟩ | ⟨row, hrow, -, rfl⟩ := Table.mem_update hmem
      · exact ht.posts e hold
      · unfold replacePost
        split
        · simp only [XStore.acceptsPost, Bool.and_eq_true] at haccepts
          exact ⟨hd, haccepts.1.1⟩
        · exact ht.posts row hrow
    · cases hop'
  · cases hop'
    exact ht

theorem keeps_updateAsset (hb : b.cleanupState = .pending) (version : Nat) :
    Keeps (fun _ => True) (claims (.updateAsset b version) : XProgram X Unit) := by
  refine keeps_claims fun t u store ht hop => ⟨?_, trivial⟩
  have hop' : t.store.updateAsset b version = .ok (u, store) := hop
  unfold XStore.updateAsset at hop'
  split at hop'
  · split at hop'
    · cases hop'
      refine ⟨ht.posts, fun e he => ?_⟩
      have hmem : e ∈ (t.store.assets.update b.id (replaceAsset b version)
        (replaceAsset_id b version)).rows := he
      obtain ⟨hold, -⟩ | ⟨row, hrow, -, rfl⟩ := Table.mem_update hmem
      · exact ht.assets e hold
      · unfold replaceAsset
        split
        · exact hb
        · exact ht.assets row hrow
    · cases hop'
  · cases hop'
    exact ht

/-- The SELECT of a save lets only moves of the transition graph pass. -/
theorem keeps_selectPost (d : XPostClaim X) (state : XAcquisitionState) (version : Nat) :
    Keeps (fun _ => d.state ∈ allowedPostTransitions state)
      (claims (.selectPost d state version) : XProgram X Unit) := by
  refine keeps_claims fun t u store ht hop => ?_
  obtain ⟨rfl, hallowed⟩ := XStore.selectPost_ok hop
  exact ⟨ht, hallowed⟩

theorem keeps_selectAsset (b : XAsset X) (state : XAssetState) (version : Nat) :
    Keeps (fun _ => b.state ∈ allowedAssetTransitions state)
      (claims (.selectAsset b state version) : XProgram X Unit) := by
  refine keeps_claims fun t u store ht hop => ?_
  obtain ⟨rfl, hallowed⟩ := XStore.selectAsset_ok hop
  exact ⟨ht, hallowed⟩

/-- A save keeps the columns if its row does, or if its state is no successor of the one expected:
then it is refused. -/
theorem keeps_save (h : d.state ∈ allowedPostTransitions c.state → d.Untouched) :
    Keeps (fun e => e = d ∧ d.state ∈ allowedPostTransitions c.state) (save c d) := by
  refine Keeps.bind (keeps_selectPost d c.state c.version) fun _ hallowed => ?_
  exact Keeps.bind (keeps_updatePost (h hallowed) c.version) fun _ _ => .done ⟨rfl, hallowed⟩

theorem keeps_saveAsset (h : b.state ∈ allowedAssetTransitions a.state → b.cleanupState = .pending) :
    Keeps (fun e => e = b ∧ b.state ∈ allowedAssetTransitions a.state) (saveAssetOver a b) := by
  refine Keeps.bind (keeps_selectAsset b a.state a.version) fun _ hallowed => ?_
  exact Keeps.bind (keeps_updateAsset (h hallowed) a.version) fun _ _ => .done ⟨rfl, hallowed⟩

/- A change of columns that leaves those of the clean-up and the removal alone. -/
def Discreet (changes : XPostClaimRow → XPostClaimRow) : Prop :=
  ∀ row, row.Untouched → (changes row).Untouched

def DiscreetAsset (changes : XAssetRow → XAssetRow) : Prop :=
  ∀ row, (changes row).cleanupState = row.cleanupState

theorem advance_untouched {target : XAcquisitionState} {now : Nat}
    {changes : XPostClaimRow → XPostClaimRow} (h : c.advance target now changes = some d)
    (hc : c.Untouched) (hchanges : Discreet changes) : d.Untouched := by
  obtain ⟨-, hrow⟩ := XPostClaim.advance_some h
  rw [hrow]
  exact hchanges _ hc

theorem evolve_untouched {now : Nat} {changes : XPostClaimRow → XPostClaimRow}
    (h : c.evolve now changes = some d) (hc : c.Untouched) (hchanges : Discreet changes) :
    d.Untouched := by
  rw [XPostClaim.evolve_some h]
  exact hchanges _ hc

theorem advance_pending {target : XAssetState} {now : Nat} {changes : XAssetRow → XAssetRow}
    (h : a.advance target now changes = some b) (ha : a.cleanupState = .pending)
    (hchanges : DiscreetAsset changes) : b.cleanupState = .pending := by
  obtain ⟨-, hrow⟩ := XAsset.advance_some h
  rw [hrow]
  exact (hchanges _).trans ha

theorem keeps_advanceAndSave {target : XAcquisitionState} {changes : XPostClaimRow → XPostClaimRow}
    (hc : c.Untouched) (hchanges : Discreet changes) :
    Keeps (fun e : XPostClaim X => e.Untouched) (advanceAndSave c target changes) := by
  refine Keeps.bind keeps_clock fun now _ => ?_
  refine Keeps.bind (P := fun d : XPostClaim X => d.Untouched)
    (Keeps.built fun d hd => advance_untouched hd hc hchanges) fun d hd => ?_
  exact (keeps_save fun _ => hd).mono fun e he => he.1 ▸ hd

theorem keeps_advanceAssetAndSave {target : XAssetState} {changes : XAssetRow → XAssetRow}
    (ha : a.cleanupState = .pending) (hchanges : DiscreetAsset changes) :
    Keeps (fun b : XAsset X => b.cleanupState = .pending)
      (advanceAssetAndSave a target changes) := by
  refine Keeps.bind keeps_clock fun now _ => ?_
  refine Keeps.bind (P := fun b : XAsset X => b.cleanupState = .pending)
    (Keeps.built fun b hb => advance_pending hb ha hchanges) fun b hb => ?_
  exact (keeps_saveAsset fun _ => hb).mono fun e he => he.1 ▸ hb

end Saves
end FrameNest.X
