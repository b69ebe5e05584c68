import FrameNest.Analysis.Obedience

/-! Paid analysis calls are disciplined: the journal of every run of the system holds no more
invocations of a run than its limit, one recorded retryable failure before each further one. -/
namespace FrameNest.Analysis
open Concurrent Relational

def JournalEntry.invokes (run : MediaAnalysisRunId) : JournalEntry → Bool
  | .invoked id _ => id = run
  | _ => false

def JournalEntry.requeues (run : MediaAnalysisRunId) : JournalEntry → Bool
  | .requeued id _ => id = run
  | _ => false

/-- How often the provider was called for a run. -/
def invocations (run : MediaAnalysisRunId) (journal : List JournalEntry) : Nat :=
  journal.countP (·.invokes run)

/-- How often a retryable failure of a run was recorded. -/
def retries (run : MediaAnalysisRunId) (journal : List JournalEntry) : Nat :=
  journal.countP (·.requeues run)

/-- Each invocation comes below its limit and after a recorded failure for each earlier one. -/
def Disciplined (journal : List JournalEntry) : Prop :=
  ∀ later run maxAttempts earlier, journal = later ++ .invoked run maxAttempts :: earlier →
    invocations run earlier < maxAttempts.value ∧ invocations run earlier ≤ retries run earlier

/-- Entries among which there is no invocation. -/
def Unpaid (entries : List JournalEntry) : Prop :=
  ∀ run maxAttempts, JournalEntry.invoked run maxAttempts ∉ entries

section Journal
variable {run : MediaAnalysisRunId} {entries journal : List JournalEntry}

theorem Unpaid.invocations_append (h : Unpaid entries) :
    invocations run (entries ++ journal) = invocations run journal := by
  have hzero : entries.countP (·.invokes run) = 0 := by
    rw [List.countP_eq_zero]
    intro entry hentry hinvokes
    cases entry with
    | invoked id maxAttempts => exact h id maxAttempts hentry
    | _ => cases hinvokes
  simp [invocations, List.countP_append, hzero]

theorem retries_append_le : retries run journal ≤ retries run (entries ++ journal) := by
  simp [retries, List.countP_append]

theorem invocations_cons (id : MediaAnalysisRunId) (maxAttempts : MaxAttempts) :
    invocations run (.invoked id maxAttempts :: journal) =
      invocations run journal + if id = run then 1 else 0 := by
  by_cases h : id = run <;> simp [invocations, JournalEntry.invokes, h]

theorem retries_cons_requeued (id : MediaAnalysisRunId) (code : AnalysisErrorCode) :
    retries run (.requeued id code :: journal) =
      retries run journal + if id = run then 1 else 0 := by
  by_cases h : id = run <;> simp [retries, JournalEntry.requeues, h]

theorem retries_cons_invoked (id : MediaAnalysisRunId) (maxAttempts : MaxAttempts) :
    retries run (.invoked id maxAttempts :: journal) = retries run journal := by
  simp [retries, JournalEntry.requeues]

theorem Disciplined.append (h : Disciplined journal) (hentries : Unpaid entries) :
    Disciplined (entries ++ journal) := by
  induction entries with
  | nil => exact h
  | cons entry entries ih =>
    have hrest : Unpaid entries := fun run maxAttempts hmem =>
      hentries run maxAttempts (List.mem_cons_of_mem _ hmem)
    intro later run maxAttempts earlier heq
    cases later with
    | nil =>
      cases heq
      exact absurd List.mem_cons_self (hentries run maxAttempts)
    | cons first later =>
      exact ih hrest later run maxAttempts earlier (List.cons.inj heq).2

theorem Disciplined.invoked (h : Disciplined journal) {maxAttempts : MaxAttempts}
    (hm : invocations run journal < maxAttempts.value)
    (hr : invocations run journal ≤ retries run journal) :
    Disciplined (.invoked run maxAttempts :: journal) := by
  intro later run' maxAttempts' earlier heq
  cases later with
  | nil =>
    cases heq
    exact ⟨hm, hr⟩
  | cons first later =>
    cases heq
    exact h later run' maxAttempts' earlier rfl

theorem journalOf_unpaid (actor : Actor) (op : RunOperation) (s : RunStore)
    (r : Except RunRepositoryError op.Answer) : Unpaid (journalOf actor op s r) := by
  intro run maxAttempts hmem
  unfold journalOf at hmem
  split at hmem
  · simp at hmem
  · split at hmem <;> simp at hmem
  · split at hmem <;> simp at hmem
  · simp at hmem

theorem journalOf_requeued {actor : Actor} {op : RunOperation} {s : RunStore}
    {r : Except RunRepositoryError op.Answer} {code : AnalysisErrorCode}
    (h : JournalEntry.requeued run code ∈ journalOf actor op s r) :
    ∃ version message now, op = .requeueForRetry run version code message now := by
  unfold journalOf at h
  split at h
  · simp only [List.mem_singleton, JournalEntry.requeued.injEq] at h
    obtain ⟨rfl, rfl⟩ := h
    exact ⟨_, _, _, rfl⟩
  · split at h <;> simp at h
  · split at h <;> simp at h
  · simp at h

end Journal

/-- At most one run of a medium and definition is active. -/
def RunStore.SingleActive (s : RunStore) : Prop :=
  ∀ k k' r r', s.find? k = some r → s.find? k' = some r' → r.state.active = true →
    r'.state.active = true → r.mediaId = r'.mediaId →
    r.analysisDefinition = r'.analysisDefinition → k = k'

/-- The accounts of the whole state. -/
structure AnalysisState.Accounted (s : AnalysisState) : Prop where
  known : ∀ run, s.store.find? run = none → invocations run s.journal = 0
  within : ∀ run row, s.store.find? run = some row → invocations run s.journal ≤ row.attemptCount
  requeued : ∀ run row, s.store.find? run = some row → row.state = .pending →
    invocations run s.journal ≤ retries run s.journal
  single : s.store.SingleActive
  disciplined : Disciplined s.journal
  retryable : ∀ run code, JournalEntry.requeued run code ∈ s.journal → code ∈ retryableErrorCodes

/-- The account of one claim: its run is still analyzing as claimed, or over; before the
invocation there is room for it, after it one retry is owed. -/
def Claim.Accounted (c : Claim) (s : AnalysisState) : Prop :=
  ∃ row, s.store.find? c.run = some row ∧
    ((row.state = .analyzing ∧ row.version = c.version) ∨ row.state.terminal = true) ∧
    (c.invoked = false → invocations c.run s.journal < row.attemptCount ∧
      invocations c.run s.journal < c.maxAttempts.value ∧
      invocations c.run s.journal ≤ retries c.run s.journal) ∧
    (c.invoked = true → invocations c.run s.journal ≤ retries c.run s.journal + 1)

def Memory.Accounted (g : Memory) (s : AnalysisState) : Prop :=
  ∀ c, g.claim = some c → c.Accounted s

/-- Two calls never hold claims on one run. -/
def Memory.ClaimsApart (g g' : Memory) : Prop :=
  ∀ c c', g.claim = some c → g'.claim = some c' → c.run ≠ c'.run

/-- What a rewriting step may do to its row as far as the accounts go. -/
structure Accountable (row row' : MediaAnalysisRun) : Prop where
  attempts : row.attemptCount ≤ row'.attemptCount
  active : row'.state.active = true → row.state.active = true
  medium : row'.mediaId = row.mediaId
  definition : row'.analysisDefinition = row.analysisDefinition

section Steps
variable {s : AnalysisState} {t : RunStore} {row row' run : MediaAnalysisRun}
  {entries : List JournalEntry}

theorem AnalysisState.Accounted.rewritten (hs : s.Accounted) (h : Rewritten s.store t row row')
    (ha : Accountable row row') (hunpaid : Unpaid entries)
    (hcodes : ∀ run code, JournalEntry.requeued run code ∈ entries → code ∈ retryableErrorCodes)
    (hpending : row'.state = .pending →
      invocations row.id s.journal ≤ retries row.id (entries ++ s.journal)) :
    AnalysisState.Accounted ⟨t, entries ++ s.journal⟩ where
  known run hnone := by
    have hfind := h.find run
    rw [hnone] at hfind
    rw [hunpaid.invocations_append]
    by_cases hk : row.id = run
    · simp [hk] at hfind
    · rw [if_neg hk] at hfind
      exact hs.known run hfind.symm
  within run r hr := by
    rw [hunpaid.invocations_append]
    rw [h.find run] at hr
    by_cases hk : row.id = run
    · rw [if_pos hk] at hr
      cases hr
      have hold := hs.within row.id row h.found
      rw [hk] at hold
      exact hold.trans ha.attempts
    · rw [if_neg hk] at hr
      exact hs.within run r hr
  requeued run r hr hp := by
    rw [hunpaid.invocations_append]
    rw [h.find run] at hr
    by_cases hk : row.id = run
    · rw [if_pos hk] at hr
      cases hr
      rw [← hk]
      exact hpending hp
    · rw [if_neg hk] at hr
      exact (hs.requeued run r hr hp).trans retries_append_le
  single k k' r r' hr hr' hact hact' hm hd := by
    -- each active row of the new store was an active row of the old one
    have hold : ∀ k r, t.find? k = some r → r.state.active = true → ∃ r₀, s.store.find? k = some r₀ ∧
        r₀.state.active = true ∧ r₀.mediaId = r.mediaId ∧
        r₀.analysisDefinition = r.analysisDefinition := by
      intro k r hr hact
      rw [h.find k] at hr
      by_cases hk : row.id = k
      · rw [if_pos hk] at hr
        cases hr
        exact ⟨row, hk ▸ h.found, ha.active hact, ha.medium.symm, ha.definition.symm⟩
      · rw [if_neg hk] at hr
        exact ⟨r, hr, hact, rfl, rfl⟩
    obtain ⟨r₀, hr₀, hact₀, hm₀, hd₀⟩ := hold k r hr hact
    obtain ⟨r₁, hr₁, hact₁, hm₁, hd₁⟩ := hold k' r' hr' hact'
    exact hs.single k k' r₀ r₁ hr₀ hr₁ hact₀ hact₁ (hm₀.trans (hm.trans hm₁.symm))
      (hd₀.trans (hd.trans hd₁.symm))
  disciplined := hs.disciplined.append hunpaid
  retryable run code hmem := by
    obtain hmem | hmem := List.mem_append.mp hmem
    · exact hcodes run code hmem
    · exact hs.retryable run code hmem

theorem AnalysisState.Accounted.inserted (hs : s.Accounted) (h : Inserted s.store t run)
    (hunpaid : Unpaid entries)
    (hcodes : ∀ run code, JournalEntry.requeued run code ∈ entries → code ∈ retryableErrorCodes) :
    AnalysisState.Accounted ⟨t, entries ++ s.journal⟩ where
  known k hnone := by
    rw [hunpaid.invocations_append]
    have hfind := h.find k
    rw [hnone] at hfind
    by_cases hk : run.id = k
    · simp [hk] at hfind
    · rw [if_neg hk] at hfind
      exact hs.known k hfind.symm
  within k r hr := by
    rw [hunpaid.invocations_append]
    rw [h.find k] at hr
    by_cases hk : run.id = k
    · rw [if_pos hk] at hr
      have hzero := hs.known run.id h.absent
      rw [hk] at hzero
      omega
    · rw [if_neg hk] at hr
      exact hs.within k r hr
  requeued k r hr hp := by
    rw [hunpaid.invocations_append]
    rw [h.find k] at hr
    by_cases hk : run.id = k
    · have hzero := hs.known run.id h.absent
      rw [hk] at hzero
      omega
    · rw [if_neg hk] at hr
      exact (hs.requeued k r hr hp).trans retries_append_le
  single k k' r r' hr hr' hact hact' hm hd := by
    rw [h.find] at hr hr'
    by_cases hk : run.id = k
    · by_cases hk' : run.id = k'
      · exact hk.symm.trans hk'
      · rw [if_pos hk] at hr
        rw [if_neg hk'] at hr'
        cases hr
        exact (h.inactive k' r' hr' hact' hm.symm hd.symm).elim
    · rw [if_neg hk] at hr
      by_cases hk' : run.id = k'
      · rw [if_pos hk'] at hr'
        cases hr'
        exact (h.inactive k r hr hact hm hd).elim
      · rw [if_neg hk'] at hr'
        exact hs.single k k' r r' hr hr' hact hact' hm hd
  disciplined := hs.disciplined.append hunpaid
  retryable k code hmem := by
    obtain hmem | hmem := List.mem_append.mp hmem
    · exact hcodes k code hmem
    · exact hs.retryable k code hmem

/-- Entries about nothing that was paid for or requeued change no account. -/
theorem AnalysisState.Accounted.noted (hs : s.Accounted) (hunpaid : Unpaid entries)
    (hcodes : ∀ run code, JournalEntry.requeued run code ∈ entries → code ∈ retryableErrorCodes) :
    AnalysisState.Accounted ⟨s.store, entries ++ s.journal⟩ where
  known run hnone := by
    rw [hunpaid.invocations_append]
    exact hs.known run hnone
  within run r hr := by
    rw [hunpaid.invocations_append]
    exact hs.within run r hr
  requeued run r hr hp := by
    rw [hunpaid.invocations_append]
    exact (hs.requeued run r hr hp).trans retries_append_le
  single := hs.single
  disciplined := hs.disciplined.append hunpaid
  retryable run code hmem := by
    obtain hmem | hmem := List.mem_append.mp hmem
    · exact hcodes run code hmem
    · exact hs.retryable run code hmem

/-- The paid call itself: the claim that asks for it leaves room. -/
theorem AnalysisState.Accounted.invoked (hs : s.Accounted) {c : Claim} (hc : c.Accounted s)
    (hfresh : c.invoked = false) :
    AnalysisState.Accounted { s with journal := .invoked c.run c.maxAttempts :: s.journal } where
  known run hnone := by
    obtain ⟨row, hrow, -⟩ := hc
    rw [invocations_cons]
    by_cases hk : c.run = run
    · rw [← hk] at hnone
      rw [hrow] at hnone
      cases hnone
    · rw [if_neg hk]
      exact hs.known run hnone
  within run r hr := by
    obtain ⟨row, hrow, -, hroom, -⟩ := hc
    rw [invocations_cons]
    by_cases hk : c.run = run
    · subst hk
      rw [hrow] at hr
      cases hr
      have hlt := (hroom hfresh).1
      rw [if_pos rfl]
      omega
    · rw [if_neg hk]
      exact hs.within run r hr
  requeued run r hr hp := by
    obtain ⟨row, hrow, hstate, -, -⟩ := hc
    rw [invocations_cons, retries_cons_invoked]
    by_cases hk : c.run = run
    · subst hk
      rw [hrow] at hr
      cases hr
      rw [hp] at hstate
      obtain ⟨hstate, -⟩ | hstate := hstate
      · cases hstate
      · cases hstate
    · rw [if_neg hk]
      exact hs.requeued run r hr hp
  single := hs.single
  disciplined := by
    obtain ⟨row, hrow, -, hroom, -⟩ := hc
    exact hs.disciplined.invoked (hroom hfresh).2.1 (hroom hfresh).2.2
  retryable run code hmem := by
    obtain heq | hmem := List.mem_cons.mp hmem
    · cases heq
    · exact hs.retryable run code hmem

theorem Claim.Accounted.rewritten {c : Claim} (hc : c.Accounted s)
    (h : Rewritten s.store t row row') (hunpaid : Unpaid entries)
    (hover : c.run = row.id → row'.state.terminal = true ∧ row'.attemptCount = row.attemptCount) :
    c.Accounted ⟨t, entries ++ s.journal⟩ := by
  obtain ⟨held, hheld, hstate, hfresh, hpaid⟩ := hc
  unfold Claim.Accounted
  simp only [hunpaid.invocations_append, h.find c.run]
  have hretries : retries c.run s.journal ≤ retries c.run (entries ++ s.journal) :=
    retries_append_le
  by_cases hk : row.id = c.run
  · rw [if_pos hk]
    obtain ⟨hterminal, hattempts⟩ := hover hk.symm
    have heq : row = held := by
      have hrow := h.found
      rw [hk, hheld] at hrow
      exact (Option.some.inj hrow).symm
    subst heq
    refine ⟨row', rfl, Or.inr hterminal, fun hi => ?_, fun hi => ?_⟩
    · obtain ⟨hlt, hmax, hret⟩ := hfresh hi
      exact ⟨by omega, hmax, by omega⟩
    · have hret := hpaid hi
      omega
  · rw [if_neg hk]
    refine ⟨held, hheld, hstate, fun hi => ?_, fun hi => ?_⟩
    · obtain ⟨hlt, hmax, hret⟩ := hfresh hi
      exact ⟨hlt, hmax, by omega⟩
    · have hret := hpaid hi
      omega

theorem Claim.Accounted.inserted {c : Claim} (hc : c.Accounted s) (h : Inserted s.store t run)
    (hunpaid : Unpaid entries) : c.Accounted ⟨t, entries ++ s.journal⟩ := by
  obtain ⟨held, hheld, hstate, hfresh, hpaid⟩ := hc
  unfold Claim.Accounted
  simp only [hunpaid.invocations_append, h.find c.run]
  have hretries : retries c.run s.journal ≤ retries c.run (entries ++ s.journal) :=
    retries_append_le
  have hk : run.id ≠ c.run := by
    intro hk
    have habsent := h.absent
    rw [hk, hheld] at habsent
    cases habsent
  rw [if_neg hk]
  refine ⟨held, hheld, hstate, fun hi => ?_, fun hi => ?_⟩
  · obtain ⟨hlt, hmax, hret⟩ := hfresh hi
    exact ⟨hlt, hmax, by omega⟩
  · have hret := hpaid hi
    omega

theorem Claim.Accounted.noted {c : Claim} (hc : c.Accounted s) (hunpaid : Unpaid entries) :
    c.Accounted ⟨s.store, entries ++ s.journal⟩ := by
  obtain ⟨held, hheld, hstate, hfresh, hpaid⟩ := hc
  unfold Claim.Accounted
  simp only [hunpaid.invocations_append]
  have hretries : retries c.run s.journal ≤ retries c.run (entries ++ s.journal) :=
    retries_append_le
  refine ⟨held, hheld, hstate, fun hi => ?_, fun hi => ?_⟩
  · obtain ⟨hlt, hmax, hret⟩ := hfresh hi
    exact ⟨hlt, hmax, by omega⟩
  · have hret := hpaid hi
    omega

theorem Claim.Accounted.invoked {c : Claim} (hc : c.Accounted s) (hfresh : c.invoked = false) :
    Claim.Accounted { c with invoked := true }
      { s with journal := .invoked c.run c.maxAttempts :: s.journal } := by
  obtain ⟨held, hheld, hstate, hroom, -⟩ := hc
  refine ⟨held, hheld, hstate, fun hi => (by cases hi), fun _ => ?_⟩
  simp only [invocations_cons, retries_cons_invoked, if_true]
  have hret := (hroom hfresh).2.2
  omega

theorem Claim.Accounted.invoked_other {c c' : Claim} (hc : c'.Accounted s) (hne : c.run ≠ c'.run) :
    c'.Accounted { s with journal := .invoked c.run c.maxAttempts :: s.journal } := by
  obtain ⟨held, hheld, hstate, hroom, hpaid⟩ := hc
  refine ⟨held, hheld, hstate, ?_, ?_⟩
  · simpa [invocations_cons, retries_cons_invoked, hne] using hroom
  · simpa [invocations_cons, retries_cons_invoked, hne] using hpaid

/-- What a claim takes is accounted for from the start. -/
theorem Claim.Accounted.claimed (hs : s.Accounted) {now : Nat} {maxAttempts : MaxAttempts}
    (h : Rewritten s.store t row (row.claimed now)) (hp : row.state = .pending)
    (hm : row.attemptCount + 1 ≤ maxAttempts.value) (hunpaid : Unpaid entries) :
    Claim.Accounted ⟨row.id, (row.claimed now).version, maxAttempts, false⟩
      ⟨t, entries ++ s.journal⟩ := by
  have hwithin := hs.within row.id row h.found
  have hret := hs.requeued row.id row h.found hp
  have hretries : retries row.id s.journal ≤ retries row.id (entries ++ s.journal) :=
    retries_append_le
  refine ⟨row.claimed now, by simp [h.find], Or.inl ⟨rfl, rfl⟩, fun _ => ?_, fun hi => by cases hi⟩
  simp only [hunpaid.invocations_append, MediaAnalysisRun.claimed]
  omega

end Steps

/-! The five writes, as far as the accounts go. -/

section Writes
variable (row : MediaAnalysisRun)

theorem claimed_accountable (now : Nat) (h : row.state = .pending) :
    Accountable row (row.claimed now) :=
  ⟨Nat.le_succ _, fun _ => by rw [h]; rfl, rfl, rfl⟩

theorem requeued_accountable (h : row.state = .analyzing) : Accountable row row.requeued :=
  ⟨Nat.le_refl _, fun _ => by rw [h]; rfl, rfl, rfl⟩

theorem analyzed_accountable (suggestion : MediaSuggestion) (now : Nat) :
    Accountable row (row.analyzed suggestion now) :=
  ⟨Nat.le_refl _, fun h => (by cases h), rfl, rfl⟩

theorem failed_accountable (code : AnalysisErrorCode) (message : String) (now : Nat) :
    Accountable row (row.failed code message now) :=
  ⟨Nat.le_refl _, fun h => (by cases h), rfl, rfl⟩

theorem interrupted_accountable (now : Nat) : Accountable row (row.interrupted now) :=
  ⟨Nat.le_refl _, fun h => (by cases h), rfl, rfl⟩

end Writes

section Calls
variable {s : AnalysisState} {g g' : Memory} {actor : Actor} {op : RunOperation}
  {r : Except RunRepositoryError op.Answer} {t : RunStore}

/-- A transaction of a call that keeps to its claim keeps the accounts. -/
theorem AnalysisState.Accounted.transaction (hs : s.Accounted) (hg : g.Accounted s)
    (hmay : g.may (.runs actor op)) (h : op.Effected s.store r t) :
    AnalysisState.Accounted ⟨t, journalOf actor op s.store r ++ s.journal⟩ := by
  have hunpaid := journalOf_unpaid actor op s.store r
  have hcodes : ∀ run code, JournalEntry.requeued run code ∈ journalOf actor op s.store r →
      code ∈ retryableErrorCodes := by
    intro run code hmem
    obtain ⟨version, message, now, rfl⟩ := journalOf_requeued hmem
    exact hmay.2.2.1
  cases h with
  | refused => exact hs.noted hunpaid hcodes
  | looked => exact hs.noted hunpaid hcodes
  | listed => exact hs.noted hunpaid hcodes
  | found => exact hs.noted hunpaid hcodes
  | foundManual => exact hs.noted hunpaid hcodes
  | created _ _ _ _ run _ h => exact hs.inserted h hunpaid hcodes
  | createdManual _ _ _ _ run _ h => exact hs.inserted h hunpaid hcodes
  | claimed row now _ _ hp hm h =>
    exact hs.rewritten h (claimed_accountable row now hp) hunpaid hcodes fun hp' => by cases hp'
  | requeued row code message now _ ha h =>
    refine hs.rewritten h (requeued_accountable row ha) hunpaid hcodes fun _ => ?_
    -- the one retry this claim owes is the one just recorded
    obtain ⟨-, -, -, c, hclaim, hrun, -⟩ := hmay
    obtain ⟨held, -, -, hfresh, hpaid⟩ := hg c hclaim
    rw [hrun] at hfresh hpaid
    simp only [journalOf, List.singleton_append, retries_cons_requeued, if_true]
    cases hi : c.invoked with
    | false =>
      have hret := (hfresh hi).2.2
      omega
    | true => exact hpaid hi
  | analyzed row suggestion now _ ha h =>
    exact hs.rewritten h (analyzed_accountable row suggestion now) hunpaid hcodes
      fun hp => by cases hp
  | failed row code message now _ ha h =>
    exact hs.rewritten h (failed_accountable row code message now) hunpaid hcodes
      fun hp => by cases hp
  | interrupted row now _ ha h =>
    exact hs.rewritten h (interrupted_accountable row now) hunpaid hcodes fun hp => by cases hp

/-- And the claims of every other call. -/
theorem Memory.Accounted.other (hg' : g'.Accounted s)
    (hapart : g.ClaimsApart g') (hmay : g.may (.runs actor op)) (h : op.Effected s.store r t) :
    g'.Accounted ⟨t, journalOf actor op s.store r ++ s.journal⟩ := by
  intro c' hclaim'
  have hc' := hg' c' hclaim'
  have hunpaid := journalOf_unpaid actor op s.store r
  cases h with
  | refused => exact hc'.noted hunpaid
  | looked => exact hc'.noted hunpaid
  | listed => exact hc'.noted hunpaid
  | found => exact hc'.noted hunpaid
  | foundManual => exact hc'.noted hunpaid
  | created _ _ _ _ run _ h => exact hc'.inserted h hunpaid
  | createdManual _ _ _ _ run _ h => exact hc'.inserted h hunpaid
  | claimed row now _ _ hp hm h =>
    refine hc'.rewritten h hunpaid fun hrun => ?_
    -- a claimed run is not pending
    obtain ⟨held, hheld, hstate, -⟩ := hc'
    rw [hrun, h.found] at hheld
    cases hheld
    rw [hp] at hstate
    obtain ⟨hstate, -⟩ | hstate := hstate
    · cases hstate
    · cases hstate
  | requeued row code message now _ ha h =>
    obtain ⟨-, -, -, c, hclaim, hrun, -⟩ := hmay
    exact hc'.rewritten h hunpaid fun heq => absurd (hrun.trans heq.symm) (hapart c c' hclaim hclaim')
  | analyzed row suggestion now _ ha h => exact hc'.rewritten h hunpaid fun _ => ⟨rfl, rfl⟩
  | failed row code message now _ ha h => exact hc'.rewritten h hunpaid fun _ => ⟨rfl, rfl⟩
  | interrupted row now _ ha h => exact hc'.rewritten h hunpaid fun _ => ⟨rfl, rfl⟩

/-- The caller's own claim after its transaction. -/
theorem Memory.Accounted.own (hs : s.Accounted) (hg : g.Accounted s)
    (h : op.Effected s.store r t) :
    (g.noteRuns s.store op (r.mapError fun _ => .failed)).Accounted
      ⟨t, journalOf actor op s.store r ++ s.journal⟩ := by
  have hunpaid := journalOf_unpaid actor op s.store r
  intro c hclaim
  cases h with
  | refused op x =>
    have hold : g.claim = some c := by
      cases op <;> first | exact hclaim | cases hclaim
    exact (hg c hold).noted hunpaid
  | looked => exact (hg c hclaim).noted hunpaid
  | listed => exact (hg c hclaim).noted hunpaid
  | found => exact (hg c hclaim).noted hunpaid
  | foundManual _ _ _ _ run hfound =>
    have hold : g.claim = some c := by
      simpa [Memory.noteRuns, Except.mapError, hfound] using hclaim
    exact (hg c hold).noted hunpaid
  | created _ _ _ _ run _ h => exact (hg c hclaim).inserted h hunpaid
  | createdManual _ _ _ _ run _ h =>
    have hold : g.claim = some c := by
      simp only [Memory.noteRuns, Except.mapError] at hclaim
      split at hclaim
      · exact hclaim
      · exact hclaim
    exact (hg c hold).inserted h hunpaid
  | claimed row now maxAttempts _ hp hm h =>
    cases hclaim
    exact Claim.Accounted.claimed hs h hp hm hunpaid
  | requeued => cases hclaim
  | analyzed => cases hclaim
  | failed => cases hclaim
  | interrupted row now _ ha h =>
    refine (hg c hclaim).rewritten h hunpaid fun _ => ⟨rfl, rfl⟩

/-- A claim in hand after a call was in hand before, or its run was pending. -/
theorem Memory.claim_origin (i : Moment) (e : AnalysisEffect) {c : Claim}
    (h : (g.note s e (e.exec i s).1).claim = some c) :
    (∃ c₀, g.claim = some c₀ ∧ c₀.run = c.run) ∨
      ∃ row, s.store.find? c.run = some row ∧ row.state = .pending := by
  cases e with
  | runs actor op =>
    change (g.note s (.runs actor op) ((op.exec i s.store).1.mapError .repository)).claim = _ at h
    rw [Memory.note_runs] at h
    have heff := op.effected i s.store
    generalize (op.exec i s.store).1 = r at h heff
    generalize (op.exec i s.store).2 = t at heff
    cases heff with
    | refused op x => cases op <;> first | exact Or.inl ⟨c, h, rfl⟩ | cases h
    | foundManual _ _ _ _ run hfound =>
      exact Or.inl ⟨c, by simpa [Memory.noteRuns, Except.mapError, hfound] using h, rfl⟩
    | createdManual _ _ _ _ run _ hin =>
      simp only [Memory.noteRuns, Except.mapError] at h
      split at h
      · exact Or.inl ⟨c, h, rfl⟩
      · exact Or.inl ⟨c, h, rfl⟩
    | claimed row now maxAttempts _ hp hm hrow =>
      cases h
      exact Or.inr ⟨row, hrow.found, hp⟩
    | requeued => cases h
    | analyzed => cases h
    | failed => cases h
    | _ => exact Or.inl ⟨c, h, rfl⟩
  | suggest run maxAttempts request =>
    obtain ⟨c₀, hc₀, rfl⟩ := Option.map_eq_some_iff.mp h
    exact Or.inl ⟨c₀, hc₀, rfl⟩
  | interruptRequested =>
    change (g.note s .interruptRequested (.ok i.interruptRequested)).claim = _ at h
    cases hi : i.interruptRequested with
    | true =>
      rw [hi] at h
      cases h
    | false =>
      rw [hi] at h
      exact Or.inl ⟨c, h, rfl⟩
  | _ =>
    rw [quiet_note rfl] at h
    exact Or.inl ⟨c, h, rfl⟩

end Calls

/-- The accounts hold in every run, for every call. -/
theorem paid_interference (lower : String → String) :
    Interference (analysisSystem lower) AnalysisState.Accounted Memory.Accounted
      Memory.ClaimsApart where
  start c s _ := by
    intro claim hclaim
    cases c <;> cases hclaim
  state g i e s hI hT hm hp := by
    cases e with
    | runs actor op => exact hI.transaction hT hm (op.effected i s.store)
    | suggest run maxAttempts request =>
      obtain ⟨-, c, hclaim, rfl, rfl, hfresh⟩ := hm
      exact hI.invoked (hT c hclaim) hfresh
    | _ => exact hI
  own g i e s hI hT hm hp := by
    cases e with
    | runs actor op =>
      have hown := @Memory.Accounted.own s g actor op _ _ hI hT (op.effected i s.store)
      rw [← Memory.note_runs g s actor op] at hown
      exact hown
    | suggest run maxAttempts request =>
      obtain ⟨-, c, hclaim, rfl, rfl, hfresh⟩ := hm
      intro c' hclaim'
      obtain ⟨c₀, hc₀, rfl⟩ := Option.map_eq_some_iff.mp hclaim'
      rw [hclaim] at hc₀
      cases hc₀
      exact (hT c hclaim).invoked hfresh
    | interruptRequested =>
      intro c hclaim
      change (g.note s .interruptRequested (.ok i.interruptRequested)).claim = _ at hclaim
      cases hi : i.interruptRequested with
      | true =>
        rw [hi] at hclaim
        cases hclaim
      | false =>
        rw [hi] at hclaim
        exact hT c hclaim
    | _ => exact hT
  other g g' i e s hI hT hT' hA hm hp := by
    cases e with
    | runs actor op => exact hT'.other hA hm (op.effected i s.store)
    | suggest run maxAttempts request =>
      obtain ⟨-, c, hclaim, rfl, rfl, hfresh⟩ := hm
      exact fun c' hclaim' => (hT' c' hclaim').invoked_other (hA c c' hclaim hclaim')
    | _ => exact hT'
  symm g g' h c c' hc hc' := (h c' c hc' hc).symm
  newcomer c g s _ _ := by
    intro claim claim' hclaim
    cases c <;> cases hclaim
  apart g g' i e s hI hT hT' hA hm hp := by
    intro c c' hclaim hclaim'
    obtain ⟨c₀, hc₀, hrun⟩ | ⟨row, hrow, hpending⟩ := Memory.claim_origin i e hclaim
    · rw [← hrun]
      exact hA c₀ c' hc₀ hclaim'
    · intro heq
      obtain ⟨held, hheld, hstate, -⟩ := hT' c' hclaim'
      rw [← heq, hrow] at hheld
      cases hheld
      rw [hpending] at hstate
      obtain ⟨hstate, -⟩ | hstate := hstate
      · cases hstate
      · cases hstate

/-- A terminal row is rewritten by no transaction. -/
theorem RunOperation.Effected.terminal {s t : RunStore} {op : RunOperation}
    {r : Except RunRepositoryError op.Answer} (h : op.Effected s r t) {k : MediaAnalysisRunId}
    {row : MediaAnalysisRun} (hrow : s.find? k = some row) (hterminal : row.state.terminal = true) :
    t.find? k = some row := by
  have hkept : ∀ {old new : MediaAnalysisRun}, Rewritten s t old new → old.state.terminal = false →
      t.find? k = some row := by
    intro old new hrewritten hactive
    rw [hrewritten.find]
    by_cases hk : old.id = k
    · have hfound := hrewritten.found
      rw [hk, hrow] at hfound
      cases hfound
      rw [hterminal] at hactive
      cases hactive
    · rw [if_neg hk]
      exact hrow
  have hfresh : ∀ {run : MediaAnalysisRun}, Inserted s t run → t.find? k = some row := by
    intro run hinserted
    rw [hinserted.find]
    by_cases hk : run.id = k
    · have habsent := hinserted.absent
      rw [hk, hrow] at habsent
      cases habsent
    · rw [if_neg hk]
      exact hrow
  cases h with
  | created _ _ _ _ run _ h => exact hfresh h
  | createdManual _ _ _ _ run _ h => exact hfresh h
  | claimed row _ _ _ hs _ h => exact hkept h (by rw [hs]; rfl)
  | requeued row _ _ _ _ hs h => exact hkept h (by rw [hs]; rfl)
  | analyzed row _ _ _ hs h => exact hkept h (by rw [hs]; rfl)
  | failed row _ _ _ _ hs h => exact hkept h (by rw [hs]; rfl)
  | interrupted row _ _ hs h => exact hkept h (by rw [hs]; rfl)
  | _ => exact hrow

theorem exec_terminal (i : Moment) (e : AnalysisEffect) {s : AnalysisState} {k : MediaAnalysisRunId}
    {row : MediaAnalysisRun} (hrow : s.store.find? k = some row)
    (hterminal : row.state.terminal = true) : (e.exec i s).2.store.find? k = some row := by
  cases e with
  | runs actor op => exact (op.effected i s.store).terminal hrow hterminal
  | _ => exact hrow

/-- A run left analyzing that nobody has in hand: its invocation was interrupted. -/
structure Interrupted (run : MediaAnalysisRunId)
    (w : World AnalysisEffect AnalysisEffect.Answer AnalysisFailure AnalysisState Memory Unit) :
    Prop where
  analyzing : ∃ row, w.state.store.find? run = some row ∧ row.state = .analyzing
  unheld : ∀ t ∈ w.threads, ∀ c, t.memory.claim = some c → c.run ≠ run

/-- What stays true of an interrupted run: it is no longer pending, and never paid for again. -/
def Shelved (run : MediaAnalysisRunId) (n : Nat) (s : AnalysisState) : Prop :=
  (∃ row, s.store.find? run = some row ∧ row.state ≠ .pending) ∧ invocations run s.journal = n

theorem RunOperation.Effected.shelved {s t : RunStore} {op : RunOperation}
    {r : Except RunRepositoryError op.Answer} (h : op.Effected s r t) {k : MediaAnalysisRunId}
    {row : MediaAnalysisRun} (hrow : s.find? k = some row) (hpending : row.state ≠ .pending)
    (hop : ∀ version code message now, op ≠ .requeueForRetry k version code message now) :
    ∃ row', t.find? k = some row' ∧ row'.state ≠ .pending := by
  have hkept : ∀ {old new : MediaAnalysisRun}, Rewritten s t old new →
      (old.id = k → new.state ≠ .pending) → ∃ row', t.find? k = some row' ∧ row'.state ≠ .pending := by
    intro old new hrewritten hnew
    rw [hrewritten.find]
    by_cases hk : old.id = k
    · rw [if_pos hk]
      exact ⟨new, rfl, hnew hk⟩
    · rw [if_neg hk]
      exact ⟨row, hrow, hpending⟩
  have hfresh : ∀ {run : MediaAnalysisRun}, Inserted s t run →
      ∃ row', t.find? k = some row' ∧ row'.state ≠ .pending := by
    intro run hinserted
    rw [hinserted.find]
    by_cases hk : run.id = k
    · have habsent := hinserted.absent
      rw [hk, hrow] at habsent
      cases habsent
    · rw [if_neg hk]
      exact ⟨row, hrow, hpending⟩
  cases h with
  | created _ _ _ _ run _ h => exact hfresh h
  | createdManual _ _ _ _ run _ h => exact hfresh h
  | claimed row _ _ _ hs _ h => exact hkept h fun _ hnew => by cases hnew
  | requeued row code message now _ hs h => exact hkept h fun hk => absurd (by rw [hk]) (hop row.version code message now)
  | analyzed row _ _ _ hs h => exact hkept h fun _ hnew => by cases hnew
  | failed row _ _ _ _ hs h => exact hkept h fun _ hnew => by cases hnew
  | interrupted row _ _ hs h => exact hkept h fun _ hnew => by cases hnew
  | _ => exact ⟨row, hrow, hpending⟩

/-- An interrupted run stays shelved while no call has it in hand, and none takes it. -/
theorem shelved_interference (lower : String → String) (run : MediaAnalysisRunId) (n : Nat) :
    Interference (analysisSystem lower) (fun s => s.Accounted ∧ Shelved run n s)
      (fun g s => g.Accounted s ∧ ∀ c, g.claim = some c → c.run ≠ run) Memory.ClaimsApart := by
  refine (paid_interference lower).and (fun c s _ _ => ?_) (fun g i e s hI hT hJ hU hm hp => ?_)
    (fun g i e s hI hT hJ hU hm hp => ?_) fun g g' i e s _ _ _ _ _ hU' _ _ _ => hU'
  · intro claim hclaim
    cases c <;> cases hclaim
  · obtain ⟨⟨row, hrow, hpending⟩, hcount⟩ := hJ
    cases e with
    | runs actor op =>
      refine ⟨(op.effected i s.store).shelved hrow hpending fun version code message now hop => ?_, ?_⟩
      · subst hop
        obtain ⟨-, -, -, c, hclaim, hrun, -⟩ := hm
        exact hU c hclaim hrun
      · exact ((journalOf_unpaid actor op s.store _).invocations_append).trans hcount
    | suggest id maxAttempts request =>
      obtain ⟨-, c, hclaim, rfl, rfl, -⟩ := hm
      refine ⟨⟨row, hrow, hpending⟩, ?_⟩
      show invocations run (.invoked c.run c.maxAttempts :: s.journal) = n
      rw [invocations_cons, if_neg (hU c hclaim)]
      exact hcount
    | _ => exact ⟨⟨row, hrow, hpending⟩, hcount⟩
  · intro c hclaim heq
    obtain ⟨c₀, hc₀, hrun⟩ | ⟨held, hheld, hs⟩ := Memory.claim_origin i e hclaim
    · exact hU c₀ hc₀ (hrun.trans heq)
    · obtain ⟨⟨row, hrow, hpending⟩, -⟩ := hJ
      rw [heq, hrow] at hheld
      cases hheld
      exact hpending hs

theorem empty_accounted (records : List BoundRecord) :
    AnalysisState.Accounted ⟨⟨Table.empty, records⟩, []⟩ where
  known _ _ := rfl
  within _ _ h := by cases h
  requeued _ _ h := by cases h
  single _ _ _ _ h := by cases h
  disciplined later run maxAttempts earlier h := by
    cases later <;> cases h
  retryable _ _ h := by cases h

/-- Paid analysis calls are disciplined: over every run of the system, each invocation of a
run stays below the limit in force and follows a recorded retryable failure for each earlier
one; at most one run of a medium and definition is active; whatever happens next, a terminal
run keeps its row, and a run whose invocation was interrupted is not invoked again. -/
theorem paid_calls_disciplined (lower : String → String) (records : List BoundRecord)
    (moves more : List (Move Caller Moment)) :
    let w := moves.foldl (World.move (analysisSystem lower)) ⟨⟨⟨Table.empty, records⟩, []⟩, []⟩
    let w' := more.foldl (World.move (analysisSystem lower)) w
    Disciplined w.state.journal ∧
      (∀ run code, JournalEntry.requeued run code ∈ w.state.journal → code ∈ retryableErrorCodes) ∧
      w.state.store.SingleActive ∧
      (∀ run row, w.state.store.find? run = some row → row.state.terminal = true →
        w'.state.store.find? run = some row) ∧
      ∀ run, Interrupted run w → invocations run w'.state.journal = invocations run w.state.journal := by
  intro w w'
  have hpermits : ∀ g i e s, (analysisSystem lower).permits g i e s := fun _ _ _ _ => trivial
  have hreach : Reachable (analysisSystem lower) ⟨⟨Table.empty, records⟩, []⟩ w :=
    World.moves_reach moves _ (World.allowed_of_forall hpermits _ _)
  have hsteps : Relation.ReflTransGen (Step (analysisSystem lower)) w w' :=
    World.moves_reach more _ (World.allowed_of_forall hpermits _ _)
  have hinterference := paid_interference lower
  have hw := hreach.sound hinterference (analysis_obedient lower) (empty_accounted records)
  refine ⟨hw.state.disciplined, hw.state.retryable, hw.state.single, fun run row hrow hterminal => ?_,
    fun run hrun => ?_⟩
  · exact hw.stable hinterference (analysis_obedient lower)
      (J := fun s => s.store.find? run = some row)
      (fun g i e s _ _ _ _ hs => exec_terminal i e hs hterminal) hsteps hrow
  · obtain ⟨row, hrow, hs⟩ := hrun.analyzing
    have hshelved : Shelved run (invocations run w.state.journal) w.state :=
      ⟨⟨row, hrow, by simp [hs]⟩, rfl⟩
    have hw' := (hw.and hshelved hrun.unheld).steps (shelved_interference lower run _)
      (analysis_obedient lower) hsteps
    exact hw'.state.2.2

end FrameNest.Analysis
