import FrameNest.X.Extraction

/-! `save_post` and `save_asset`, statement by statement. The SELECT runs in a snapshot of its own;
the UPDATE opens the write transaction, which nobody else can while it is open, and the COMMIT
makes its change visible. The row count of the UPDATE is not looked at. -/
namespace FrameNest.X
variable {X : XDomain}

/- A row of either table, by its key. -/
inductive XKey where
  | post (id : XPostClaimId)
  | asset (id : XAssetId)
deriving DecidableEq

inductive XRowState where
  | post (state : XAcquisitionState)
  | asset (state : XAssetState)
deriving DecidableEq

inductive XRow (X : XDomain) where
  | post (claim : XPostClaim X)
  | asset (asset : XAsset X)
deriving DecidableEq

namespace XRow

def key : XRow X → XKey
  | .post claim => .post claim.id
  | .asset a => .asset a.id

def state : XRow X → XRowState
  | .post claim => .post claim.state
  | .asset a => .asset a.state

def version : XRow X → Nat
  | .post claim => claim.version
  | .asset a => a.version

end XRow

/- `ensure_x_transition_allowed` and `ensure_x_asset_transition_allowed`. -/
def XRowState.allows : XRowState → XRowState → Bool
  | .post source, .post target => target ∈ allowedPostTransitions source
  | .asset source, .asset target => target ∈ allowedAssetTransitions source
  | _, _ => false

/-- One call: the row to store, and what the stored one is expected to be. -/
structure SaveCall (X : XDomain) where
  row : XRow X
  expectedState : XRowState
  expectedVersion : Nat

/- `save_post` and `save_asset`. -/
def savePost (claim : XPostClaim X) (expectedState : XAcquisitionState) (expectedVersion : Nat) :
    SaveCall X := ⟨.post claim, .post expectedState, expectedVersion⟩

/-- How far a call has come. -/
inductive Phase (X : XDomain) where
  | asked
  | selected (seen : XRow X)
  /-- The UPDATE is done, and matched the row or nothing. -/
  | updated (matched : Bool)
  /-- The call returned; `stored` is its row in the table at that time. -/
  | returned (stored : Option (XRow X))
  | raised
deriving DecidableEq

/-- The committed rows, the open write transaction, the calls and the changes committed so far. -/
structure Database (X : XDomain) where
  rows : XKey → Option (XRow X)
  writer : Option Nat
  calls : List (SaveCall X × Phase X)
  changes : List (XRow X × XRow X)

inductive Event (X : XDomain) where
  | ask (call : SaveCall X)
  | select (n : Nat)
  | update (n : Nat)
  | commit (n : Nat)
  /-- A statement fails, or the process dies: the transaction is rolled back. -/
  | fail (n : Nat)
  /-- Another transaction inserts a row. -/
  | insert (row : XRow X)

namespace SaveCall
variable (call : SaveCall X) (rows : XKey → Option (XRow X))

/- The SELECT, and the checks on the row it finds. -/
def select : Phase X :=
  match rows call.row.key with
  | none => .raised
  | some row =>
    if row.state ≠ call.expectedState ∨ row.version ≠ call.expectedVersion then .raised
    else if row.state.allows call.row.state then .selected row
    else .raised

/- `WHERE id = .. AND version = expected_version`. -/
def matching : Option (XRow X) := (rows call.row.key).filter (·.version = call.expectedVersion)

end SaveCall

namespace Database
variable (d : Database X)

def setPhase (n : Nat) (call : SaveCall X) (phase : Phase X) : Database X :=
  { d with calls := d.calls.set n (call, phase) }

/-- What one event makes of the database; `none` where it cannot happen. -/
def after : Event X → Option (Database X)
  | .ask call => some { d with calls := d.calls ++ [(call, .asked)] }
  | .select n =>
    match d.calls[n]? with
    | some (call, .asked) => some (d.setPhase n call (call.select d.rows))
    | _ => none
  | .update n =>
    match d.calls[n]? with
    | some (call, .selected _) =>
      if d.writer = none then
        some { d.setPhase n call (.updated (call.matching d.rows).isSome) with writer := some n }
      else none
    | _ => none
  | .commit n =>
    match d.calls[n]? with
    | some (call, .updated true) =>
      let rows := Function.update d.rows call.row.key (some call.row)
      some { d.setPhase n call (.returned (rows call.row.key)) with
        rows
        writer := none
        changes := d.changes ++ ((d.rows call.row.key).map (·, call.row)).toList }
    | some (call, .updated false) =>
      some { d.setPhase n call (.returned (d.rows call.row.key)) with writer := none }
    | _ => none
  | .fail n =>
    match d.calls[n]? with
    | some (call, .asked) | some (call, .selected _) => some (d.setPhase n call .raised)
    | some (call, .updated _) => some { d.setPhase n call .raised with writer := none }
    | _ => none
  | .insert row =>
    if d.writer = none ∧ (d.rows row.key).isNone then
      some { d with rows := Function.update d.rows row.key (some row) }
    else none

/- Nothing has been called yet. -/
structure Started : Prop where
  keyed : ∀ k row, d.rows k = some row → row.key = k
  writer : d.writer = none
  calls : d.calls = []
  changes : d.changes = []

/-- What the saves promise. -/
structure Honest : Prop where
  returned : ∀ call stored, (call, Phase.returned stored) ∈ d.calls → stored = some call.row
  once : ∀ (m n : Nat) (call call' : SaveCall X) stored stored', m ≠ n →
    d.calls[m]? = some (call, .returned stored) → d.calls[n]? = some (call', .returned stored') →
      call.row.key = call'.row.key → call.expectedVersion ≠ call'.expectedVersion
  changes : ∀ old new, (old, new) ∈ d.changes →
    old.key = new.key ∧ old.state.allows new.state = true ∧ old.version < new.version

end Database

/-- Every state of every interleaving. -/
inductive Reached : Database X → Prop
  | start {d : Database X} (h : d.Started) : Reached d
  | step {d d' : Database X} {e : Event X} (h : Reached d) (he : d.after e = some d') : Reached d'

/-- What an event needs for the promise: a new row is newer than the one expected, and at the
UPDATE the row still has the version expected. -/
def Event.isFresh (d : Database X) : Event X → Bool
  | .ask call => call.expectedVersion < call.row.version
  | .update n =>
    match d.calls[n]? with
    | some (call, .selected _) => (d.rows call.row.key).any (·.version = call.expectedVersion)
    | _ => true
  | _ => true

/-- Every state of an interleaving whose events are all fresh. -/
inductive FreshlyReached : Database X → Prop
  | start {d : Database X} (h : d.Started) : FreshlyReached d
  | step {d d' : Database X} {e : Event X} (h : FreshlyReached d) (hfresh : e.isFresh d = true)
      (he : d.after e = some d') : FreshlyReached d'

namespace SaveCall
variable {call : SaveCall X}

/-- The SELECT finds the row that is expected, and a move the graph allows. -/
theorem select_selected {rows : XKey → Option (XRow X)} {seen : XRow X}
    (h : call.select rows = .selected seen) : rows call.row.key = some seen ∧
      seen.version = call.expectedVersion ∧ seen.state.allows call.row.state = true := by
  unfold SaveCall.select at h
  split at h
  · cases h
  · rename_i row hrow
    split at h
    · cases h
    · rename_i hexpected
      split at h
      · rename_i hallows
        cases h
        simp only [not_or, not_not] at hexpected
        exact ⟨hrow, hexpected.2, hallows⟩
      · cases h

theorem select_cases (rows : XKey → Option (XRow X)) :
    call.select rows = .raised ∨ ∃ seen, call.select rows = .selected seen := by
  unfold SaveCall.select
  split
  · exact .inl rfl
  · split
    · exact .inl rfl
    · split
      · exact .inr ⟨_, rfl⟩
      · exact .inl rfl

end SaveCall

/-- What holds of the calls and the rows in every fresh interleaving. -/
structure Database.Current (d : Database X) : Prop where
  keyed : ∀ k row, d.rows k = some row → row.key = k
  newer : ∀ (n : Nat) (call : SaveCall X) phase, d.calls[n]? = some (call, phase) →
    call.expectedVersion < call.row.version
  selected : ∀ (n : Nat) (call : SaveCall X) seen, d.calls[n]? = some (call, .selected seen) →
    seen.version = call.expectedVersion ∧ seen.state.allows call.row.state = true ∧
      ∃ row, d.rows call.row.key = some row ∧ (row = seen ∨ seen.version < row.version)
  updated : ∀ (n : Nat) (call : SaveCall X) matched, d.calls[n]? = some (call, .updated matched) →
    d.writer = some n ∧ matched = true ∧ ∃ row, d.rows call.row.key = some row ∧
      row.version = call.expectedVersion ∧ row.state.allows call.row.state = true
  returned : ∀ (n : Nat) (call : SaveCall X) stored, d.calls[n]? = some (call, .returned stored) →
    stored = some call.row ∧
      ∃ row, d.rows call.row.key = some row ∧ call.row.version ≤ row.version
  honest : d.Honest

namespace Database
variable {d d' : Database X} {n : Nat} {call : SaveCall X} {phase : Phase X}

theorem Started.current (h : d.Started) : d.Current := by
  have hnone : ∀ (n : Nat) (p : SaveCall X × Phase X), d.calls[n]? ≠ some p := by
    intro n p hp
    rw [h.calls] at hp
    cases hp
  refine ⟨h.keyed, fun n call phase hn => absurd hn (hnone n _),
    fun n call seen hn => absurd hn (hnone n _), fun n call matched hn => absurd hn (hnone n _),
    fun n call stored hn => absurd hn (hnone n _), ⟨?_, ?_, ?_⟩⟩
  · intro call stored hmem
    rw [h.calls] at hmem
    cases hmem
  · intro m n call call' stored stored' _ hm
    exact absurd hm (hnone m _)
  · intro old new hmem
    rw [h.changes] at hmem
    cases hmem

/-- A new phase of one call. -/
theorem setPhase_get {p : SaveCall X × Phase X} (h : d.calls[n]? = some p) (m : Nat) :
    (d.setPhase n call phase).calls[m]? = if n = m then some (call, phase) else d.calls[m]? := by
  have hlength : n < d.calls.length := by
    obtain ⟨hlength, -⟩ := List.getElem?_eq_some_iff.mp h
    exact hlength
  rw [setPhase, List.getElem?_set]
  simp [hlength]

/-- A step after which a call is asked or has raised, and everything else stands. -/
theorem Current.quiet (h : d.Current) (hrows : d'.rows = d.rows) (hchanges : d'.changes = d.changes)
    (hwriter : ∀ (m : Nat) (call : SaveCall X) matched, d'.calls[m]? = some (call, .updated matched) →
      d.writer = some m → d'.writer = some m)
    (hcalls : ∀ (m : Nat) (call : SaveCall X) phase, d'.calls[m]? = some (call, phase) →
      d.calls[m]? = some (call, phase) ∨
        ((phase = .asked ∨ phase = .raised) ∧ call.expectedVersion < call.row.version)) :
    d'.Current where
  keyed := by
    rw [hrows]
    exact h.keyed
  newer m call phase hm := by
    rcases hcalls m call phase hm with hold | ⟨-, hnewer⟩
    · exact h.newer m call phase hold
    · exact hnewer
  selected m call seen hm := by
    rcases hcalls m call _ hm with hold | ⟨heq | heq, -⟩
    · rw [hrows]
      exact h.selected m call seen hold
    · cases heq
    · cases heq
  updated m call matched hm := by
    rcases hcalls m call _ hm with hold | ⟨heq | heq, -⟩
    · obtain ⟨hw, hmatched, hrow⟩ := h.updated m call matched hold
      rw [hrows]
      exact ⟨hwriter m call matched hm hw, hmatched, hrow⟩
    · cases heq
    · cases heq
  returned m call stored hm := by
    rcases hcalls m call _ hm with hold | ⟨heq | heq, -⟩
    · rw [hrows]
      exact h.returned m call stored hold
    · cases heq
    · cases heq
  honest := by
    have hreturned : ∀ (m : Nat) (call : SaveCall X) stored,
        d'.calls[m]? = some (call, .returned stored) → d.calls[m]? = some (call, .returned stored) := by
      intro m call stored hm
      rcases hcalls m call _ hm with hold | ⟨heq | heq, -⟩
      · exact hold
      · cases heq
      · cases heq
    refine ⟨fun call stored hmem => ?_, fun m n call call' stored stored' hne hm hn =>
      h.honest.once m n call call' stored stored' hne (hreturned m _ _ hm) (hreturned n _ _ hn), ?_⟩
    · obtain ⟨m, hm⟩ := List.mem_iff_getElem?.mp hmem
      exact (h.returned m call stored (hreturned m call stored hm)).1
    · rw [hchanges]
      exact h.honest.changes

/-- Any other event that only gives one call a new phase, which is not that of its return. -/
theorem Current.rephase (h : d.Current) (phase : Phase X) {old : Phase X}
    (hn : d.calls[n]? = some (call, old))
    (hrows : d'.rows = d.rows) (hchanges : d'.changes = d.changes)
    (hcalls : d'.calls = (d.setPhase n call phase).calls)
    (hselected : ∀ seen, phase = .selected seen → d.rows call.row.key = some seen ∧
      seen.version = call.expectedVersion ∧ seen.state.allows call.row.state = true)
    (hupdated : ∀ matched, phase = .updated matched → d'.writer = some n ∧ matched = true ∧
      ∃ row, d.rows call.row.key = some row ∧ row.version = call.expectedVersion ∧
        row.state.allows call.row.state = true)
    (hreturned : ∀ stored, phase ≠ .returned stored)
    (hwriter : ∀ m, m ≠ n → d.writer = some m → d'.writer = some m) : d'.Current := by
  have hget : ∀ m, d'.calls[m]? = if n = m then some (call, phase) else d.calls[m]? := by
    intro m
    rw [hcalls]
    exact setPhase_get hn m
  -- Either it is the call with the new phase, or it stands as before.
  have hcases : ∀ m call' phase', d'.calls[m]? = some (call', phase') →
      (n = m ∧ call' = call ∧ phase' = phase) ∨ (n ≠ m ∧ d.calls[m]? = some (call', phase')) := by
    intro m call' phase' hm
    rw [hget] at hm
    split at hm
    · rename_i heq
      cases hm
      exact .inl ⟨heq, rfl, rfl⟩
    · rename_i hne
      exact .inr ⟨hne, hm⟩
  have hstill : ∀ (m : Nat) (call' : SaveCall X) stored, d'.calls[m]? = some (call', .returned stored) →
      d.calls[m]? = some (call', .returned stored) := by
    intro m call' stored hm
    rcases hcases m call' _ hm with ⟨-, -, heq⟩ | ⟨-, hold⟩
    · exact absurd heq.symm (hreturned stored)
    · exact hold
  refine ⟨by rw [hrows]; exact h.keyed, fun m call' phase' hm => ?_, fun m call' seen hm => ?_,
    fun m call' matched hm => ?_, fun m call' stored hm => ?_, ⟨?_, ?_, ?_⟩⟩
  · rcases hcases m call' phase' hm with ⟨-, rfl, -⟩ | ⟨-, hold⟩
    · exact h.newer n call' old hn
    · exact h.newer m call' phase' hold
  · rw [hrows]
    rcases hcases m call' _ hm with ⟨-, rfl, heq⟩ | ⟨-, hold⟩
    · obtain ⟨hrow, hversion, hallows⟩ := hselected seen heq.symm
      exact ⟨hversion, hallows, seen, hrow, .inl rfl⟩
    · exact h.selected m call' seen hold
  · rw [hrows]
    rcases hcases m call' _ hm with ⟨rfl, rfl, heq⟩ | ⟨hne, hold⟩
    · exact hupdated matched heq.symm
    · obtain ⟨hw, hmatched, hrow⟩ := h.updated m call' matched hold
      exact ⟨hwriter m (Ne.symm hne) hw, hmatched, hrow⟩
  · rw [hrows]
    exact h.returned m call' stored (hstill m call' stored hm)
  · intro call' stored hmem
    obtain ⟨m, hm⟩ := List.mem_iff_getElem?.mp hmem
    exact (h.returned m call' stored (hstill m call' stored hm)).1
  · intro m m' call' call'' stored stored' hne hm hm'
    exact h.honest.once m m' call' call'' stored stored' hne (hstill m _ _ hm) (hstill m' _ _ hm')
  · rw [hchanges]
    exact h.honest.changes

theorem Current.raises (h : d.Current) {old : Phase X} (hn : d.calls[n]? = some (call, old))
    (hrows : d'.rows = d.rows) (hchanges : d'.changes = d.changes)
    (hcalls : d'.calls = (d.setPhase n call .raised).calls)
    (hwriter : ∀ m, m ≠ n → d.writer = some m → d'.writer = some m) : d'.Current := by
  refine h.rephase .raised hn hrows hchanges hcalls ?_ ?_ ?_ hwriter
  · intro seen heq
    cases heq
  · intro matched heq
    cases heq
  · intro stored heq
    cases heq

/-- The COMMIT of an UPDATE that matched. -/
theorem Current.commits (h : d.Current) (hn : d.calls[n]? = some (call, .updated true))
    (hrows : d'.rows = Function.update d.rows call.row.key (some call.row))
    (hcalls : d'.calls = (d.setPhase n call (.returned (some call.row))).calls)
    (hchanges : d'.changes = d.changes ++ ((d.rows call.row.key).map (·, call.row)).toList) :
    d'.Current := by
  obtain ⟨hw, -, row, hrow, hversion, hallows⟩ := h.updated n call true hn
  have hnewer : call.expectedVersion < call.row.version := h.newer n call _ hn
  have hlonely : ∀ (m : Nat) (call' : SaveCall X) matched, n ≠ m →
      d.calls[m]? ≠ some (call', .updated matched) := by
    intro m call' matched hne hm
    have hw' := (h.updated m call' matched hm).1
    rw [hw] at hw'
    exact hne (Option.some.inj hw')
  have hcases : ∀ m call' phase', d'.calls[m]? = some (call', phase') →
      (n = m ∧ call' = call ∧ phase' = .returned (some call.row)) ∨
        (n ≠ m ∧ d.calls[m]? = some (call', phase')) := by
    intro m call' phase' hm
    rw [hcalls, setPhase_get hn] at hm
    split at hm
    · rename_i heq
      cases hm
      exact .inl ⟨heq, rfl, rfl⟩
    · rename_i hne
      exact .inr ⟨hne, hm⟩
  -- The row of a key is the new one, or as it was; under its own key the version has grown.
  have hgrown : ∀ k old, d.rows k = some old →
      ∃ new, d'.rows k = some new ∧ (new = old ∨ old.version < new.version) := by
    intro k old hold
    rw [hrows]
    by_cases hk : k = call.row.key
    · subst hk
      rw [hrow] at hold
      cases hold
      exact ⟨call.row, by simp, .inr (by omega)⟩
    · exact ⟨old, by simpa [hk] using hold, .inl rfl⟩
  have hself : d'.rows call.row.key = some call.row := by
    rw [hrows]
    simp
  have hreturned : ∀ (m : Nat) (call' : SaveCall X) stored,
      d'.calls[m]? = some (call', .returned stored) → stored = some call'.row ∧
        ∃ row, d'.rows call'.row.key = some row ∧ call'.row.version ≤ row.version := by
    intro m call' stored hm
    rcases hcases m call' _ hm with ⟨-, rfl, heq⟩ | ⟨-, hold⟩
    · cases heq
      exact ⟨rfl, call'.row, hself, Nat.le_refl _⟩
    · obtain ⟨hstored, old, hold', hle⟩ := h.returned m call' stored hold
      obtain ⟨new, hnew, hcase⟩ := hgrown _ old hold'
      refine ⟨hstored, new, hnew, ?_⟩
      rcases hcase with rfl | hlt
      · exact hle
      · omega
  -- A call that returned before expected an earlier version of this row.
  have hearlier : ∀ (m : Nat) (call' : SaveCall X) stored, n ≠ m →
      d.calls[m]? = some (call', .returned stored) → call'.row.key = call.row.key →
        call'.expectedVersion < call.expectedVersion := by
    intro m call' stored _ hm hkey
    obtain ⟨-, old, hold, hle⟩ := h.returned m call' stored hm
    rw [hkey, hrow] at hold
    cases hold
    have hnewer' := h.newer m call' _ hm
    omega
  refine ⟨fun k row' hk => ?_, fun m call' phase' hm => ?_, fun m call' seen hm => ?_,
    fun m call' matched hm => ?_, hreturned, ⟨?_, ?_, ?_⟩⟩
  · rw [hrows] at hk
    by_cases heq : k = call.row.key
    · subst heq
      have hk' : some call.row = some row' := by simpa using hk
      cases hk'
      rfl
    · exact h.keyed k row' (by simpa [heq] using hk)
  · rcases hcases m call' phase' hm with ⟨-, rfl, -⟩ | ⟨-, hold⟩
    · exact hnewer
    · exact h.newer m call' phase' hold
  · rcases hcases m call' _ hm with ⟨-, -, heq⟩ | ⟨-, hold⟩
    · cases heq
    · obtain ⟨hseen, hallows', old, hold', hcase⟩ := h.selected m call' seen hold
      obtain ⟨new, hnew, hcase'⟩ := hgrown _ old hold'
      refine ⟨hseen, hallows', new, hnew, ?_⟩
      rcases hcase with rfl | hlt
      · exact hcase'
      · rcases hcase' with rfl | hlt'
        · exact .inr hlt
        · exact .inr (hlt.trans hlt')
  · rcases hcases m call' _ hm with ⟨-, -, heq⟩ | ⟨hne, hold⟩
    · cases heq
    · exact absurd hold (hlonely m call' matched hne)
  · intro call' stored hmem
    obtain ⟨m, hm⟩ := List.mem_iff_getElem?.mp hmem
    exact (hreturned m call' stored hm).1
  · intro m m' call' call'' stored stored' hne hm hm' hkey
    rcases hcases m call' _ hm with ⟨rfl, rfl, -⟩ | ⟨hnm, hold⟩
    · rcases hcases m' call'' _ hm' with ⟨rfl, -, -⟩ | ⟨hnm', hold'⟩
      · exact absurd rfl hne
      · have hlt := hearlier m' call'' stored' hnm' hold' hkey.symm
        omega
    · rcases hcases m' call'' _ hm' with ⟨rfl, rfl, -⟩ | ⟨-, hold'⟩
      · have hlt := hearlier m call' stored hnm hold hkey
        omega
      · exact h.honest.once m m' call' call'' stored stored' hne hold hold' hkey
  · intro old new hmem
    rw [hchanges, List.mem_append, hrow] at hmem
    rcases hmem with hmem | hmem
    · exact h.honest.changes old new hmem
    · have heq : old = row ∧ new = call.row := by simpa [eq_comm] using hmem
      obtain ⟨rfl, rfl⟩ := heq
      exact ⟨h.keyed _ _ hrow, hallows, by omega⟩

/-- Another transaction's INSERT leaves the rows that are there. -/
theorem Current.inserts (h : d.Current) {row : XRow X} (hnone : d.rows row.key = none) :
    Current { d with rows := Function.update d.rows row.key (some row) } := by
  have hkept : ∀ k old, d.rows k = some old → Function.update d.rows row.key (some row) k = some old := by
    intro k old hold
    have hne : k ≠ row.key := by
      rintro rfl
      rw [hnone] at hold
      cases hold
    simpa [hne] using hold
  refine ⟨fun k row' hk => ?_, h.newer, fun m call seen hm => ?_, fun m call matched hm => ?_,
    fun m call stored hm => ?_, ⟨h.honest.returned, h.honest.once, h.honest.changes⟩⟩
  · have hk' : Function.update d.rows row.key (some row) k = some row' := hk
    by_cases heq : k = row.key
    · subst heq
      have hrow : some row = some row' := by simpa using hk'
      cases hrow
      rfl
    · exact h.keyed k row' (by simpa [heq] using hk')
  · obtain ⟨hversion, hallows, old, hold, hcase⟩ := h.selected m call seen hm
    exact ⟨hversion, hallows, old, hkept _ old hold, hcase⟩
  · obtain ⟨hw, hmatched, old, hold, hcase⟩ := h.updated m call matched hm
    exact ⟨hw, hmatched, old, hkept _ old hold, hcase⟩
  · obtain ⟨hstored, old, hold, hle⟩ := h.returned m call stored hm
    exact ⟨hstored, old, hkept _ old hold, hle⟩

theorem Current.selects (h : d.Current) (hn : d.calls[n]? = some (call, .asked)) :
    (d.setPhase n call (call.select d.rows)).Current := by
  rcases call.select_cases d.rows with hraised | ⟨seen, hselected⟩
  · rw [hraised]
    exact h.raises hn rfl rfl rfl fun _ _ hm => hm
  · rw [hselected]
    refine h.rephase (.selected seen) hn rfl rfl rfl (fun row hrow => ?_)
      (fun _ heq => by cases heq) (fun _ heq => by cases heq) fun _ _ hm => hm
    cases hrow
    exact SaveCall.select_selected hselected

/-- An UPDATE that finds the version expected finds the row that the SELECT saw. -/
theorem Current.updates (h : d.Current) {seen : XRow X}
    (hn : d.calls[n]? = some (call, .selected seen)) (hfree : d.writer = none)
    (hfresh : (d.rows call.row.key).any (·.version = call.expectedVersion) = true) :
    Current { d.setPhase n call (.updated (call.matching d.rows).isSome) with writer := some n } := by
  obtain ⟨hseen, hallows, row, hrow, hcase⟩ := h.selected n call seen hn
  have hversion : row.version = call.expectedVersion := by simpa [hrow] using hfresh
  have hsame : row = seen := by
    rcases hcase with hsame | hlt
    · exact hsame
    · omega
  have hmatching : (call.matching d.rows).isSome = true := by
    simp [SaveCall.matching, hrow, hversion, Option.filter]
  refine h.rephase (.updated (call.matching d.rows).isSome) hn rfl rfl rfl
    (fun _ heq => by cases heq) (fun matched heq => ?_) (fun _ heq => by cases heq) fun m _ hm => ?_
  · cases heq
    refine ⟨rfl, hmatching, row, hrow, hversion, ?_⟩
    rw [hsame]
    exact hallows
  · rw [hfree] at hm
    cases hm

/-- What one fresh event makes of the database. -/
theorem Current.step (h : d.Current) {e : Event X} (hfresh : e.isFresh d = true) (he : d.after e = some d') :
    d'.Current := by
  cases e with
  | ask call =>
    cases he
    refine h.quiet rfl rfl (fun _ _ _ _ hw => hw) fun m call' phase hm => ?_
    rw [List.getElem?_append] at hm
    split at hm
    · exact .inl hm
    · rw [List.getElem?_singleton] at hm
      split at hm
      · cases hm
        exact .inr ⟨.inl rfl, by simpa [Event.isFresh] using hfresh⟩
      · cases hm
  | select n =>
    simp only [after] at he
    split at he
    · rename_i call hn
      cases he
      exact h.selects hn
    · cases he
  | update n =>
    simp only [after] at he
    split at he
    · rename_i call seen hn
      split at he
      · rename_i hfree
        cases he
        refine h.updates hn hfree ?_
        simpa only [Event.isFresh, hn] using hfresh
      · cases he
    · cases he
  | commit n =>
    simp only [after] at he
    split at he
    · rename_i call hn
      cases he
      refine h.commits hn rfl ?_ rfl
      simp [setPhase]
    · rename_i call hn
      -- An UPDATE that matched nothing is not fresh.
      have hmatched := (h.updated n call false hn).2.1
      cases hmatched
    · cases he
  | fail n =>
    simp only [after] at he
    split at he
    · rename_i call hn
      cases he
      exact h.raises hn rfl rfl rfl fun _ _ hm => hm
    · rename_i call seen hn
      cases he
      exact h.raises hn rfl rfl rfl fun _ _ hm => hm
    · rename_i call matched hn
      cases he
      refine h.raises hn rfl rfl rfl fun m hne hm => ?_
      rw [(h.updated n call matched hn).1] at hm
      exact absurd (Option.some.inj hm).symm hne
    · cases he
  | insert row =>
    simp only [after] at he
    split at he
    · rename_i hfree
      cases he
      exact h.inserts (by simpa using hfree.2)
    · cases he

end Database

theorem FreshlyReached.current {d : Database X} (h : FreshlyReached d) : d.Current := by
  induction h with
  | start h => exact h.current
  | step _ hfresh he ih => exact ih.step hfresh he

/- The events one after another; `fresh` asks them to be fresh as well. -/
def Database.play (fresh : Bool) (d : Database X) : List (Event X) → Option (Database X)
  | [] => some d
  | e :: events =>
    if fresh && !e.isFresh d then none
    else (d.after e).bind fun d' => d'.play fresh events

theorem Reached.play {d d' : Database X} (events : List (Event X)) (h : Reached d)
    (hplay : d.play false events = some d') : Reached d' := by
  induction events generalizing d with
  | nil =>
    cases hplay
    exact h
  | cons e events ih =>
    obtain ⟨next, hnext, hrest⟩ := Option.bind_eq_some_iff.mp hplay
    exact ih (h.step hnext) hrest

theorem FreshlyReached.play {d d' : Database X} (events : List (Event X)) (h : FreshlyReached d)
    (hplay : d.play true events = some d') : FreshlyReached d' := by
  induction events generalizing d with
  | nil =>
    cases hplay
    exact h
  | cons e events ih =>
    unfold Database.play at hplay
    split at hplay
    · cases hplay
    · rename_i hfresh
      obtain ⟨next, hnext, hrest⟩ := Option.bind_eq_some_iff.mp hplay
      exact ih (h.step (by simpa using hfresh) hnext) hrest

def exampleAcquiring : XPostClaim asciiDomain where
  toXPostClaimRow := { exampleExtracting.toXPostClaimRow with
    state := .acquiring, updatedAtMs := 3, version := 1 }
  valid := by decide +kernel

def exampleFailed : XPostClaim asciiDomain where
  toXPostClaimRow := { exampleExtracting.toXPostClaimRow with
    state := .failed, updatedAtMs := 4, version := 1, completedAtMs := some 4
    failureStage := some .internal, failureCode := some "X_EXTRACTOR_FAILED" }
  valid := by decide +kernel

/- A claim under extraction, and nothing else. -/
def exampleDatabase : Database asciiDomain where
  rows k := if k = .post exampleClaimId then some (.post exampleExtracting) else none
  writer := none
  calls := []
  changes := []

theorem exampleDatabase_started : exampleDatabase.Started where
  keyed k row hrow := by
    simp only [exampleDatabase] at hrow
    split at hrow
    · rename_i hk
      cases hrow
      exact hk.symm
    · cases hrow
  writer := rfl
  calls := rfl
  changes := rfl

def advancing : SaveCall asciiDomain := savePost exampleAcquiring .extracting 0
def failing : SaveCall asciiDomain := savePost exampleFailed .extracting 0

/- One save on its own. -/
def oneSave : List (Event asciiDomain) := [.ask advancing, .select 0, .update 0, .commit 0]

/- Two saves that expect the same version: the second UPDATE matches nothing. -/
def twoSaves : List (Event asciiDomain) :=
  [.ask advancing, .ask failing, .select 0, .select 1, .update 0, .commit 0, .update 1, .commit 1]

end FrameNest.X
