import FrameNest.Uploads.Operations

/-! The discipline of the session store: versions, transitions and evidence, over any
interleaving of repository operations. -/
namespace FrameNest.Uploads
open Relational UploadStore

/-- What stays true of a session however many statements later. -/
structure Settled (before after : UploadSessionRow) : Prop where
  version_le : before.version ≤ after.version
  terminal : before.state ∈ terminalUploadSessionStates → after.state = before.state
  algorithm : ∀ x ∈ before.checksumAlgorithm, after.checksumAlgorithm = some x
  checksum : ∀ x ∈ before.checksumHex, after.checksumHex = some x
  media_kind : ∀ x ∈ before.validatedMediaKind, after.validatedMediaKind = some x
  format : ∀ x ∈ before.validatedFormat, after.validatedFormat = some x
  byte_identity : ∀ x ∈ before.byteIdentityId, after.byteIdentityId = some x
  received_le : before.receivedSizeBytes ≤ after.receivedSizeBytes
  same_column : after.id = before.id ∧ after.storageKey = before.storageKey ∧
    after.displayFilename = before.displayFilename ∧
    after.declaredSizeBytes = before.declaredSizeBytes ∧
    after.createdAtMs = before.createdAtMs ∧ after.expiresAtMs = before.expiresAtMs ∧
    after.createdByLoginKey = before.createdByLoginKey ∧
    after.duplicateResolutionMode = before.duplicateResolutionMode

/-- What one committed statement makes of a session. -/
structure Disciplined (before after : UploadSessionRow) : Prop extends Settled before after where
  version_succ : after.version = before.version + 1
  transition : after.state = before.state ∨
    after.state ∈ extendedUploadSessionTransitions before.state
  /-- A session in a terminal state can still be given the checksum it lacks, nothing else. -/
  terminal_row : before.state ∈ terminalUploadSessionStates → before.checksumHex = none ∧
    after = { before with
      checksumAlgorithm := after.checksumAlgorithm, checksumHex := after.checksumHex,
      updatedAtMs := after.updatedAtMs, version := after.version }

theorem Settled.refl (row : UploadSessionRow) : Settled row row :=
  ⟨le_rfl, fun _ => rfl, fun _ h => h, fun _ h => h, fun _ h => h, fun _ h => h, fun _ h => h,
    le_rfl, rfl, rfl, rfl, rfl, rfl, rfl, rfl, rfl⟩

theorem Settled.trans {a b c : UploadSessionRow} (hab : Settled a b) (hbc : Settled b c) :
    Settled a c where
  version_le := hab.version_le.trans hbc.version_le
  terminal h := by
    have hb := hab.terminal h
    rw [hbc.terminal (by rw [hb]; exact h), hb]
  algorithm x h := hbc.algorithm x (hab.algorithm x h)
  checksum x h := hbc.checksum x (hab.checksum x h)
  media_kind x h := hbc.media_kind x (hab.media_kind x h)
  format x h := hbc.format x (hab.format x h)
  byte_identity x h := hbc.byte_identity x (hab.byte_identity x h)
  received_le := hab.received_le.trans hbc.received_le
  same_column := by
    obtain ⟨a₁, a₂, a₃, a₄, a₅, a₆, a₇, a₈⟩ := hab.same_column
    obtain ⟨b₁, b₂, b₃, b₄, b₅, b₆, b₇, b₈⟩ := hbc.same_column
    exact ⟨b₁.trans a₁, b₂.trans a₂, b₃.trans a₃, b₄.trans a₄, b₅.trans a₅, b₆.trans a₆,
      b₇.trans a₇, b₈.trans a₈⟩

theorem validationOutcome_allowed (mode : UploadDuplicateResolutionMode) (exists_ : Bool) :
    (validationOutcome mode exists_).1 ∈ allowedUploadSessionTransitions .validating := by
  unfold validationOutcome
  cases exists_ <;> cases mode <;> decide

theorem dispositionTarget_allowed (disposition : UploadDuplicateDisposition) :
    dispositionTarget disposition ∈ allowedUploadSessionTransitions .duplicatePending := by
  cases disposition <;> decide

/-- The state a mutation leaves, when it is not the one it found. -/
theorem Mutation.transition {before after : UploadSessionRow} (h : Mutation before after) :
    after.state = before.state ∨ after.state ∈ extendedUploadSessionTransitions before.state := by
  cases h with
  | advanced nextOffset time hs hlt => exact Or.inl rfl
  | checksum checksumHex time ha hh => exact Or.inl rfl
  | moved target time failureCode ht => exact Or.inr (allowed_subset_extended ht)
  | validated checksumHex kind format identity exists_ time hs hnone =>
    refine Or.inr (allowed_subset_extended ?_)
    rw [hs]
    exact validationOutcome_allowed _ _
  | disposed disposition time hs hn =>
    refine Or.inr (allowed_subset_extended ?_)
    rw [hs]
    exact dispositionTarget_allowed disposition
  | published time hs =>
    rw [hs]
    exact Or.inr (show .published ∈ extendedUploadSessionTransitions .publishPending by decide)
  | cataloged time hs =>
    rw [hs]
    exact Or.inr (show .cataloged ∈ extendedUploadSessionTransitions .published by decide)

/-- In a terminal state only the checksum statement still finds its row. -/
theorem Mutation.of_terminal {before after : UploadSessionRow} (h : Mutation before after)
    (hterminal : before.state ∈ terminalUploadSessionStates) : before.checksumHex = none ∧
      after = { before with
        checksumAlgorithm := after.checksumAlgorithm, checksumHex := after.checksumHex,
        updatedAtMs := after.updatedAtMs, version := after.version } := by
  cases h with
  | checksum checksumHex time ha hh => exact ⟨hh, rfl⟩
  | advanced nextOffset time hs hlt => exact absurd hterminal (by rw [hs]; decide)
  | moved target time failureCode ht =>
    exact absurd (allowed_subset_extended ht) (extended_of_terminal hterminal)
  | validated checksumHex kind format identity exists_ time hs hnone =>
    exact absurd hterminal (by rw [hs]; decide)
  | disposed disposition time hs hn => exact absurd hterminal (by rw [hs]; decide)
  | published time hs => exact absurd hterminal (by rw [hs]; decide)
  | cataloged time hs => exact absurd hterminal (by rw [hs]; decide)

theorem Mutation.disciplined {before after : UploadSessionRow} (h : Mutation before after) :
    Disciplined before after := by
  have hversion : after.version = before.version + 1 := by cases h <;> rfl
  have hreceived : before.receivedSizeBytes ≤ after.receivedSizeBytes := by
    cases h with
    | advanced nextOffset time hs hlt => exact le_of_lt hlt
    | checksum | moved | validated | disposed | published | cataloged => exact le_rfl
  refine
    { version_le := by omega
      version_succ := hversion
      transition := h.transition
      terminal_row := h.of_terminal
      terminal := ?_
      algorithm := ?_
      checksum := ?_
      media_kind := ?_
      format := ?_
      byte_identity := ?_
      received_le := hreceived
      same_column := by cases h <;> exact ⟨rfl, rfl, rfl, rfl, rfl, rfl, rfl, rfl⟩ }
  · intro hterminal
    rw [(h.of_terminal hterminal).2]
  all_goals
    intro x hx
    cases h with
    | advanced | moved | disposed | published | cataloged => exact hx
    | checksum checksumHex time ha hh =>
      first
        | exact hx
        | (rw [ha] at hx; cases hx)
        | (rw [hh] at hx; cases hx)
    | validated checksumHex kind format identity exists_ time hs hnone =>
      obtain ⟨h₁, h₂, h₃, h₄, h₅⟩ := hnone
      simp_all

def runOperations : List Operation → UploadStore → UploadStore
  | [], s => s
  | op :: ops, s => runOperations ops (op.exec s).2

/-- One operation, from a store whose rows all load. -/
theorem exec_change (op : Operation) {s : UploadStore} (hs : s.AllLoad) :
    SessionsChange op s (op.exec s).2 := by
  obtain hsame | ⟨a, hperform⟩ := transaction_cases s op.perform
  · exact .kept (by unfold Operation.exec; rw [hsame])
  · exact perform_change hs hperform

theorem UploadStore.SessionsChange.session? {op : Operation} {s t : UploadStore} (h : SessionsChange op s t)
    {id : UploadSessionId} {row : UploadSessionRow} (hrow : s.session? id = some row) :
    t.session? id = some row ∨ ∃ after, t.session? id = some after ∧ Disciplined row after ∧
      op.guardedBy = some (id, row.version) := by
  cases h with
  | kept heq =>
    unfold UploadStore.session? at *
    rw [heq]
    exact Or.inl hrow
  | created new unguarded hnew hvalid hfind =>
    left
    rw [hfind]
    by_cases hid : new.id = id
    · rw [hid, hrow] at hnew
      cases hnew
    · rw [if_neg hid]
      exact hrow
  | mutated before after found guarded hm hvalid same_id hfind =>
    by_cases hid : before.id = id
    · rw [hid, hrow] at found
      cases found
      exact Or.inr ⟨after, by rw [hfind, if_pos hid], hm.disciplined, by rw [guarded, hid]⟩
    · left
      rw [hfind, if_neg hid]
      exact hrow

theorem UploadStore.SessionsChange.allLoad {op : Operation} {s t : UploadStore} (h : SessionsChange op s t)
    (hs : s.AllLoad) : t.AllLoad := by
  intro id row hrow
  cases h with
  | kept heq =>
    unfold UploadStore.session? at hrow
    rw [heq] at hrow
    exact hs id row hrow
  | created new unguarded hnew hvalid hfind =>
    rw [hfind] at hrow
    split at hrow
    · cases hrow
      exact hvalid
    · exact hs id row hrow
  | mutated before after found guarded hm hvalid same_id hfind =>
    rw [hfind] at hrow
    split at hrow
    · cases hrow
      exact hvalid
    · exact hs id row hrow

theorem runOperations_allLoad (ops : List Operation) {s : UploadStore} (hs : s.AllLoad) :
    (runOperations ops s).AllLoad := by
  induction ops generalizing s with
  | nil => exact hs
  | cons op ops ih => exact ih ((exec_change op hs).allLoad hs)

/-- However many operations later, the row is there and has kept what it must. -/
theorem runOperations_settled (ops : List Operation) {s : UploadStore} (hs : s.AllLoad)
    {id : UploadSessionId} {row : UploadSessionRow} (hrow : s.session? id = some row) :
    ∃ after, (runOperations ops s).session? id = some after ∧ Settled row after := by
  induction ops generalizing s row with
  | nil => exact ⟨row, hrow, Settled.refl row⟩
  | cons op ops ih =>
    have hchange := exec_change op hs
    obtain hkept | ⟨mid, hmid, hdisciplined, -⟩ := hchange.session? hrow
    · exact ih (hchange.allLoad hs) hkept
    · obtain ⟨after, hafter, hsettled⟩ := ih (hchange.allLoad hs) hmid
      exact ⟨after, hafter, hdisciplined.toSettled.trans hsettled⟩

theorem empty_allLoad (libraries : List LibraryId) (canonicalTagKeys : List String) :
    (UploadStore.empty libraries canonicalTagKeys).AllLoad := by
  intro id row hrow
  cases hrow

/-- Two operations guarded by one version of one session do not both change it. -/
theorem one_commit_per_version {op op' : Operation} {s : UploadStore} (hs : s.AllLoad)
    {id : UploadSessionId} {version : Int} (hop : op.guardedBy = some (id, version))
    (hop' : op'.guardedBy = some (id, version))
    (hcommit : (op.exec s).2.session? id ≠ s.session? id) (later : List Operation) :
    (op'.exec (runOperations later (op.exec s).2)).2.session? id =
      (runOperations later (op.exec s).2).session? id := by
  have hchange := exec_change op hs
  have hload := hchange.allLoad hs
  cases hrow : s.session? id with
  | none =>
    cases hchange with
    | kept heq =>
      refine absurd ?_ hcommit
      unfold UploadStore.session?
      rw [heq]
    | created new unguarded hnew hvalid hfind =>
      rw [hop] at unguarded
      cases unguarded
    | mutated before after found guarded hm hvalid same_id hfind =>
      rw [hop] at guarded
      cases guarded
      rw [found] at hrow
      cases hrow
  | some row =>
    obtain hkept | ⟨mid, hmid, hdisciplined, hguard⟩ := hchange.session? hrow
    · exact absurd (hkept.trans hrow.symm) hcommit
    · obtain ⟨after, hafter, hsettled⟩ := runOperations_settled later hload hmid
      have hversion : version = row.version := by
        rw [hop] at hguard
        cases hguard
        rfl
      have hlater := exec_change op' (runOperations_allLoad later hload)
      obtain hkept | ⟨last, hlast, -, hguard'⟩ := hlater.session? hafter
      · rw [hkept, hafter]
      · rw [hop'] at hguard'
        have hsame : version = after.version := by
          cases hguard'
          rfl
        have hsucc := hdisciplined.version_succ
        have hle := hsettled.version_le
        omega

/-- Whatever operations any callers have committed before, in whatever order, the next one
changes no session but by one version and one allowed transition, leaves everything as it
was when it raises, and leaves rows that all load; a second operation guarded by the same
version never commits, and what a session must keep it keeps for good. -/
theorem session_store_discipline (libraries : List LibraryId) (canonicalTagKeys : List String)
    (ops : List Operation) (op : Operation) :
    let s := runOperations ops (UploadStore.empty libraries canonicalTagKeys)
    let t := (op.exec s).2
    (∀ id row, s.session? id = some row →
      ∃ after, t.session? id = some after ∧ (after = row ∨ Disciplined row after)) ∧
    (∀ id row later, s.session? id = some row →
      ∃ after, (runOperations later s).session? id = some after ∧ Settled row after) ∧
    (∀ error, (op.exec s).1 = .error error → t = s) ∧
    (∀ row ∈ t.sessions.rows, ∃ session, sessionFromRow row = some session ∧
      session.toUploadSessionRow = row) ∧
    (∀ id version (op' : Operation) later, op.guardedBy = some (id, version) →
      op'.guardedBy = some (id, version) → t.session? id ≠ s.session? id →
      (op'.exec (runOperations later t)).2.session? id = (runOperations later t).session? id) := by
  intro s t
  have hs : s.AllLoad := runOperations_allLoad ops (empty_allLoad libraries canonicalTagKeys)
  have hchange := exec_change op hs
  refine ⟨?_, ?_, ?_, ?_, ?_⟩
  · intro id row hrow
    obtain hkept | ⟨after, hafter, hdisciplined, -⟩ := hchange.session? hrow
    · exact ⟨row, hkept, Or.inl rfl⟩
    · exact ⟨after, hafter, Or.inr hdisciplined⟩
  · intro id row later hrow
    exact runOperations_settled later hs hrow
  · intro error herror
    exact transaction_error herror
  · intro row hrow
    have hvalid := hchange.allLoad hs row.id row (mem_session?.mp hrow)
    exact ⟨⟨row, hvalid⟩, sessionFromRow_valid hvalid, rfl⟩
  · intro id version op' later hop hop' hcommit
    exact one_commit_per_version hs hop hop' hcommit later

end FrameNest.Uploads
