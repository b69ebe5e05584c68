import FrameNest.Uploads.PublicationStore

/-! What a committed statement has done: the row it found, the row it left, and nothing
else. Every later fact about the repositories is read off these lemmas. -/
namespace FrameNest.Uploads
open Relational

/-- One session row replaced, every other table as it was. -/
structure Updated (s t : UploadStore) (before after : UploadSessionRow) : Prop where
  found : s.session? before.id = some before
  same_id : after.id = before.id
  valid : after.Valid
  session? : ∀ id, t.session? id = if before.id = id then some after else s.session? id
  frame : t = { s with sessions := t.sessions }

namespace UploadStore
variable {s t u : UploadStore} {id : UploadSessionId}

theorem session?_id {row : UploadSessionRow} (h : s.session? id = some row) : row.id = id :=
  Table.find?_key h

theorem mem_session? {row : UploadSessionRow} :
    row ∈ s.sessions.rows ↔ s.session? row.id = some row :=
  ⟨fun h => Table.mem_find? h, fun h => Table.find?_mem h⟩

theorem updateSession_some {guard : UploadSessionRow → Bool}
    {set : UploadSessionRow → UploadSessionRow} {hset : ∀ row, (set row).id = row.id}
    (h : s.updateSession id guard set hset = some t) : ∃ row, s.session? id = some row ∧
      guard row = true ∧ t = { s with sessions := s.sessions.update id set hset } := by
  unfold updateSession at h
  split at h
  · rename_i row hrow
    split at h
    · rename_i hguard
      cases h
      exact ⟨row, hrow, hguard, rfl⟩
    · cases h
  · cases h

theorem updateSession_none {guard : UploadSessionRow → Bool}
    {set : UploadSessionRow → UploadSessionRow} {hset : ∀ row, (set row).id = row.id}
    {row : UploadSessionRow} (hrow : s.session? id = some row)
    (h : s.updateSession id guard set hset = none) : guard row = false := by
  unfold updateSession at h
  simp only [hrow] at h
  split at h
  · cases h
  · rename_i hguard
    simpa using hguard

theorem updateSession_session? {guard : UploadSessionRow → Bool}
    {set : UploadSessionRow → UploadSessionRow} {hset : ∀ row, (set row).id = row.id}
    {row : UploadSessionRow} (hrow : s.session? id = some row)
    (h : s.updateSession id guard set hset = some t) (id' : UploadSessionId) :
    t.session? id' = if id = id' then some (set row) else s.session? id' := by
  obtain ⟨row', hrow', -, rfl⟩ := updateSession_some h
  rw [hrow] at hrow'
  cases hrow'
  unfold session?
  rw [Table.find?_update]
  by_cases hid : id = id'
  · subst hid
    unfold session? at hrow
    simp [hrow]
  · simp [hid]

theorem requireSession_ok {session : UploadSession} (h : s.requireSession id = .ok session) :
    s.session? id = some session.toUploadSessionRow := by
  unfold requireSession at h
  split at h
  · cases h
  · rename_i row hrow
    split at h
    · cases h
    · rename_i session' hsession
      cases h
      rw [hrow, sessionFromRow_some hsession]

/-- A guarded UPDATE that commits has found its row, kept its guard and left a row that
loads; otherwise nothing was written and the refusal itself answered. -/
theorem guardedUpdate_ok {guard : UploadSessionRow → Bool}
    {set : UploadSessionRow → UploadSessionRow} {hset : ∀ row, (set row).id = row.id}
    {refuse : UploadSessionRow → Except UploadSessionRepositoryError UploadSession}
    {session : UploadSession} (h : s.guardedUpdate id guard set hset refuse = .ok (session, t)) :
    (∃ row, s.session? id = some row ∧ guard row = true ∧ Updated s t row (set row) ∧
      session.toUploadSessionRow = set row) ∨
    (t = s ∧ ∃ row, s.session? id = some row ∧ guard row = false ∧ refuse row = .ok session) := by
  unfold guardedUpdate at h
  split at h
  · rename_i u hu
    obtain ⟨row, hrow, hguard, heq⟩ := updateSession_some hu
    obtain ⟨session', hsession, hpair⟩ := map_eq_ok.mp h
    cases hpair
    have hid := session?_id hrow
    have hget := requireSession_ok hsession
    rw [updateSession_session? hrow hu, if_pos rfl] at hget
    have hset' : set row = session.toUploadSessionRow := Option.some.inj hget
    refine Or.inl ⟨row, hrow, hguard, ⟨?_, hset row, ?_, ?_, ?_⟩, hset'.symm⟩
    · rw [hid]
      exact hrow
    · rw [hset']
      exact session.valid
    · intro id'
      rw [hid]
      exact updateSession_session? hrow hu id'
    · rw [heq]
  · rename_i hnone
    split at h
    · cases h
    · rename_i row hrow
      obtain ⟨session', hsession, hpair⟩ := map_eq_ok.mp h
      cases hpair
      exact Or.inr ⟨rfl, row, hrow, updateSession_none hrow hnone, hsession⟩

/-- The same when the refusal never answers. -/
theorem guardedUpdate_updated {guard : UploadSessionRow → Bool}
    {set : UploadSessionRow → UploadSessionRow} {hset : ∀ row, (set row).id = row.id}
    {refuse : UploadSessionRow → Except UploadSessionRepositoryError UploadSession}
    (hrefuse : ∀ row session, guard row = false → refuse row ≠ .ok session)
    {session : UploadSession} (h : s.guardedUpdate id guard set hset refuse = .ok (session, t)) :
    ∃ row, s.session? id = some row ∧ guard row = true ∧ Updated s t row (set row) ∧
      session.toUploadSessionRow = set row := by
  obtain hdone | ⟨-, row, -, hguard, hanswer⟩ := guardedUpdate_ok h
  · exact hdone
  · exact absurd hanswer (hrefuse row session hguard)

theorem advanceReceivedOffset_ok {expected accepted version updatedAtMs : Int}
    {session : UploadSession}
    (h : advanceReceivedOffset id expected accepted version updatedAtMs s = .ok (session, t)) :
    ∃ row, s.session? id = some row ∧
      (row.state = .receiving ∧ row.receivedSizeBytes = expected ∧ row.version = version ∧
        0 < accepted ∧ expected + accepted ≤ row.declaredSizeBytes) ∧
      Updated s t row { row with
        receivedSizeBytes := expected + accepted, updatedAtMs, version := row.version + 1 } ∧
      session.toUploadSessionRow = { row with
        receivedSizeBytes := expected + accepted, updatedAtMs, version := row.version + 1 } := by
  unfold advanceReceivedOffset at h
  obtain ⟨hargs, h⟩ := require_bind_eq_ok.mp h
  obtain ⟨row, hrow, hguard, hupdated, hsession⟩ := guardedUpdate_updated (by
    intro row session _ hr
    simp [bind_eq_ok] at hr) h
  simp only [Bool.and_eq_true, decide_eq_true_eq] at hargs hguard
  exact ⟨row, hrow, ⟨hguard.1.1.1, hguard.1.1.2, hguard.1.2, hargs.1.1.2, hguard.2⟩, hupdated,
    hsession⟩

/-- A recorded checksum, or the one already recorded. -/
theorem recordCompletedChecksum_ok {expectedState : UploadSessionState} {version : Int}
    {checksumHex : String} {updatedAtMs : Int} {session : UploadSession}
    (h : recordCompletedChecksum id expectedState version checksumHex updatedAtMs s =
      .ok (session, t)) :
    (∃ row, s.session? id = some row ∧
      (row.state = expectedState ∧ row.version = version ∧ row.checksumAlgorithm = none ∧
        row.checksumHex = none) ∧
      Updated s t row { row with
        checksumAlgorithm := some "sha256", checksumHex := some checksumHex, updatedAtMs,
        version := row.version + 1 }) ∨ t = s := by
  unfold recordCompletedChecksum at h
  obtain ⟨-, h⟩ := require_bind_eq_ok.mp h
  obtain ⟨-, h⟩ := require_bind_eq_ok.mp h
  obtain ⟨row, hrow, hguard, hupdated, -⟩ | ⟨rfl, -⟩ := guardedUpdate_ok h
  · simp only [Bool.and_eq_true, decide_eq_true_eq, Option.isNone_iff_eq_none] at hguard
    exact Or.inl ⟨row, hrow, ⟨hguard.1.1.1, hguard.1.1.2, hguard.1.2, hguard.2⟩, hupdated⟩
  · exact Or.inr rfl

theorem transitionState_ok {expectedState target : UploadSessionState} {version updatedAtMs : Int}
    {failureCode : Option String} {session : UploadSession}
    (h : transitionState id expectedState target version updatedAtMs failureCode s =
      .ok (session, t)) :
    ∃ row, s.session? id = some row ∧
      (row.state = expectedState ∧ row.version = version ∧
        target ∈ allowedUploadSessionTransitions expectedState) ∧
      Updated s t row { row with
        state := target, updatedAtMs, failureCode, version := row.version + 1 } ∧
      session.toUploadSessionRow = { row with
        state := target, updatedAtMs, failureCode, version := row.version + 1 } := by
  unfold transitionState at h
  obtain ⟨hallowed, h⟩ := require_bind_eq_ok.mp h
  obtain ⟨-, h⟩ := require_bind_eq_ok.mp h
  obtain ⟨-, h⟩ := require_bind_eq_ok.mp h
  obtain ⟨-, h⟩ := require_bind_eq_ok.mp h
  obtain ⟨row, hrow, hguard, hupdated, hsession⟩ := guardedUpdate_updated (by
    intro row session _ hr
    simp [bind_eq_ok] at hr) h
  simp only [Bool.and_eq_true, decide_eq_true_eq] at hallowed hguard
  exact ⟨row, hrow, ⟨hguard.1.1.1, hguard.1.1.2, hallowed⟩, hupdated, hsession⟩

theorem startValidation_ok {version updatedAtMs : Int} {session : UploadSession}
    (h : startValidation id version updatedAtMs s = .ok (session, t)) :
    ∃ row, s.session? id = some row ∧ (row.state = .received ∧ row.version = version) ∧
      Updated s t row { row with state := .validating, updatedAtMs, version := row.version + 1 } ∧
      session.toUploadSessionRow =
        { row with state := .validating, updatedAtMs, version := row.version + 1 } := by
  unfold startValidation at h
  obtain ⟨-, h⟩ := require_bind_eq_ok.mp h
  obtain ⟨row, hrow, hguard, hupdated, hsession⟩ := guardedUpdate_updated (by
    intro row session _ hr
    simp [bind_eq_ok] at hr) h
  simp only [Bool.and_eq_true, decide_eq_true_eq] at hguard
  exact ⟨row, hrow, ⟨hguard.1.1, hguard.1.2⟩, hupdated, hsession⟩

theorem recordDuplicateDisposition_ok {version updatedAtMs : Int}
    {disposition : UploadDuplicateDisposition} {session : UploadSession}
    (h : recordDuplicateDisposition id version disposition updatedAtMs s = .ok (session, t)) :
    ∃ row, s.session? id = some row ∧
      (row.state = .duplicatePending ∧ row.version = version ∧ row.duplicateDisposition = none) ∧
      Updated s t row { row with
        state := dispositionTarget disposition, duplicateDisposition := some disposition,
        updatedAtMs, version := row.version + 1 } ∧
      session.toUploadSessionRow = { row with
        state := dispositionTarget disposition, duplicateDisposition := some disposition,
        updatedAtMs, version := row.version + 1 } := by
  unfold recordDuplicateDisposition at h
  obtain ⟨-, h⟩ := require_bind_eq_ok.mp h
  obtain ⟨row, hrow, hguard, hupdated, hsession⟩ := guardedUpdate_updated (by
    intro row session _ hr
    simp [bind_eq_ok] at hr) h
  simp only [Bool.and_eq_true, decide_eq_true_eq, Option.isNone_iff_eq_none] at hguard
  exact ⟨row, hrow, ⟨hguard.1.1, hguard.1.2, hguard.2⟩, hupdated, hsession⟩

theorem rejectValidation_ok {version updatedAtMs : Int} {failureCode : String}
    {session : UploadSession}
    (h : rejectValidation id version failureCode updatedAtMs s = .ok (session, t)) :
    ∃ row, s.session? id = some row ∧ (row.state = .validating ∧ row.version = version) ∧
      Updated s t row { row with
        state := .rejected, failureCode := some failureCode, updatedAtMs,
        version := row.version + 1 } ∧
      session.toUploadSessionRow = { row with
        state := .rejected, failureCode := some failureCode, updatedAtMs,
        version := row.version + 1 } := by
  unfold rejectValidation at h
  obtain ⟨-, h⟩ := require_bind_eq_ok.mp h
  obtain ⟨row, hrow, hguard, hupdated, hsession⟩ := guardedUpdate_updated (by
    intro row session _ hr
    simp [bind_eq_ok] at hr) h
  simp only [Bool.and_eq_true, decide_eq_true_eq] at hguard
  exact ⟨row, hrow, ⟨hguard.1, hguard.2⟩, hupdated, hsession⟩

/-- The identity answered carries the evidence asked for, and no identity was lost. -/
theorem getOrCreateByteIdentity_ok {identity found : MediaByteIdentity}
    (h : s.getOrCreateByteIdentity identity = .ok (found, t)) :
    found.evidence = identity.evidence ∧ t.identities.find? found.id = some found ∧
      (∀ k row, s.identities.find? k = some row → t.identities.find? k = some row) ∧
      t = { s with identities := t.identities } ∧
      (t.identities = s.identities ∨
        found = identity ∧ s.identities.insert? identity = some t.identities) := by
  unfold getOrCreateByteIdentity at h
  split at h
  · split at h
    · rename_i existing hfind
      split at h
      · cases h
        have hmem := List.mem_of_find?_eq_some hfind
        have hev : found.evidence = identity.evidence := by simpa using List.find?_some hfind
        exact ⟨hev, Table.mem_find? hmem, fun _ _ hk => hk, rfl, Or.inl rfl⟩
      · cases h
    · split at h
      · rename_i identities hinsert
        cases h
        refine ⟨rfl, ?_, ?_, rfl, Or.inr ⟨rfl, hinsert⟩⟩
        · show identities.find? _ = _
          simp [Table.find?_insert hinsert]
        · intro k row hk
          show identities.find? k = _
          rw [Table.find?_insert hinsert]
          by_cases hid : identity.id = k
          · obtain ⟨hnone, -⟩ := Table.insert?_some hinsert
            rw [hid, hk] at hnone
            cases hnone
          · simp [hid, hk]
      · cases h
  · cases h

/-- The row a validation leaves behind. -/
def validatedRow (row : UploadSessionRow) (checksumHex : String) (kind : UploadValidatedMediaKind)
    (format : UploadValidatedFormat) (identity : MediaByteIdentityId) (canonicalExists : Bool)
    (updatedAtMs : Int) : UploadSessionRow :=
  { row with
    state := (validationOutcome row.duplicateResolutionMode canonicalExists).1
    checksumAlgorithm := some "sha256"
    checksumHex := some checksumHex
    validatedMediaKind := some kind
    validatedFormat := some format
    byteIdentityId := some identity
    duplicateDisposition := (validationOutcome row.duplicateResolutionMode canonicalExists).2
    updatedAtMs
    version := row.version + 1 }

/-- A completed validation, or the one already completed with the same evidence. -/
theorem completeValidationSuccess_ok {version : Int} {checksumHex : String}
    {kind : UploadValidatedMediaKind} {format : UploadValidatedFormat} {updatedAtMs : Int}
    {freshId : MediaByteIdentityId} {session : UploadSession}
    (h : completeValidationSuccess id version checksumHex kind format updatedAtMs freshId s =
      .ok (session, t)) :
    (∃ row identity u, s.session? id = some row ∧
      (row.state = .validating ∧ row.version = version ∧ row.checksumAlgorithm = none ∧
        row.checksumHex = none ∧ row.validatedMediaKind = none ∧ row.validatedFormat = none ∧
        row.byteIdentityId = none) ∧
      s.getOrCreateByteIdentity ⟨freshId, "sha256", row.declaredSizeBytes, checksumHex,
        updatedAtMs⟩ = .ok (identity, u) ∧
      Updated u t row (validatedRow row checksumHex kind format identity.id
        (u.canonicalExists id identity.id) updatedAtMs) ∧
      session.toUploadSessionRow = validatedRow row checksumHex kind format identity.id
        (u.canonicalExists id identity.id) updatedAtMs) ∨
    (t = s ∧ s.session? id = some session.toUploadSessionRow) := by
  unfold completeValidationSuccess at h
  obtain ⟨-, h⟩ := require_bind_eq_ok.mp h
  obtain ⟨-, h⟩ := require_bind_eq_ok.mp h
  obtain ⟨-, h⟩ := require_bind_eq_ok.mp h
  split at h
  · cases h
  · rename_i row hrow
    split at h
    · obtain ⟨-, h⟩ := require_bind_eq_ok.mp h
      split at h
      · rename_i session' hsession
        cases h
        exact Or.inr ⟨rfl, by rw [hrow, sessionFromRow_some hsession]⟩
      · cases h
    · have hrest : ¬ row.state ∈ validatedUploadSessionStates := by
        intro hmem
        simp [hmem, bind_eq_ok, require_eq_ok] at h
      simp only [hrest, if_false] at h
      obtain ⟨hstate, h⟩ := require_bind_eq_ok.mp h
      obtain ⟨hversion, h⟩ := require_bind_eq_ok.mp h
      obtain ⟨-, h⟩ := require_bind_eq_ok.mp h
      obtain ⟨-, h⟩ := require_bind_eq_ok.mp h
      obtain ⟨-, h⟩ := require_bind_eq_ok.mp h
      obtain ⟨⟨identity, u⟩, hidentity, h⟩ := bind_eq_ok.mp h
      obtain ⟨row', hrow', hguard, hupdated, hsession⟩ := guardedUpdate_updated (by
        intro row session _ hr
        cases hr) h
      obtain ⟨-, -, -, hframe, -⟩ := getOrCreateByteIdentity_ok hidentity
      have hsame : u.session? id = s.session? id := by rw [hframe]; rfl
      rw [hsame, hrow] at hrow'
      cases hrow'
      simp only [Bool.and_eq_true, decide_eq_true_eq, Option.isNone_iff_eq_none] at hguard
      obtain ⟨⟨⟨⟨⟨⟨⟨hs, hv⟩, -⟩, halg⟩, hhex⟩, hkind⟩, hformat⟩, hid⟩ := hguard
      exact Or.inl ⟨row, identity, u, hrow, ⟨hs, hv, halg, hhex, hkind, hformat, hid⟩, hidentity,
        hupdated, hsession⟩

/-- A created row is the session given, its byte identity resolved. -/
theorem create_ok {session : UploadSession} {u : Unit} (h : create session s = .ok (u, t)) :
    ∃ row, s.session? row.id = none ∧ row.Valid ∧ row.id = session.id ∧
      (∀ other ∈ s.sessions.rows, other.storageKey ≠ row.storageKey) ∧
      (∀ id, t.session? id = if row.id = id then some row else s.session? id) ∧
      (∃ identities, t = { s with identities, sessions := t.sessions } ∧
        (∀ k found, s.identities.find? k = some found → identities.find? k = some found) ∧
        (identities = s.identities ∨
          ∃ identity, s.identities.insert? identity = some identities) ∧
        ∀ k ∈ row.byteIdentityId, ∃ identity, identities.find? k = some identity ∧
          identity.evidence = (row.checksumAlgorithm.getD "", row.declaredSizeBytes,
            row.checksumHex.getD "")) ∧
      row = { session.toUploadSessionRow with byteIdentityId := row.byteIdentityId } ∧
      row.byteIdentityId.isSome = session.byteIdentityId.isSome := by
  unfold create at h
  obtain ⟨hfresh, h⟩ := require_bind_eq_ok.mp h
  obtain ⟨hkey, h⟩ := require_bind_eq_ok.mp h
  simp only [Option.isNone_iff_eq_none] at hfresh
  have hkey' : ∀ other ∈ s.sessions.rows, other.storageKey ≠ session.storageKey := by
    simpa using hkey
  obtain ⟨⟨row, v⟩, hrow, h⟩ := bind_eq_ok.mp h
  obtain ⟨-, h⟩ := require_bind_eq_ok.mp h
  split at h
  case h_2 => cases h
  rename_i sessions hinsert
  cases h
  unfold resolveByteIdentity at hrow
  cases hid : session.byteIdentityId with
  | none =>
    simp only [hid] at hrow
    cases hrow
    refine ⟨session.toUploadSessionRow, hfresh, session.valid, rfl, hkey',
      fun id => Table.find?_insert hinsert id, ⟨s.identities, rfl, fun _ _ hk => hk, Or.inl rfl, ?_⟩,
      rfl, by rw [hid]⟩
    intro k hk
    rw [hid] at hk
    cases hk
  | some id =>
    simp only [hid] at hrow
    obtain ⟨⟨identity, w⟩, hidentity, hrow⟩ := map_eq_ok.mp hrow
    cases hrow
    obtain ⟨hev, hfound, hold, hframe, hfreshId⟩ := getOrCreateByteIdentity_ok hidentity
    have hsessions : w.sessions = s.sessions := by rw [hframe]
    rw [hsessions] at hinsert
    refine ⟨{ session.toUploadSessionRow with byteIdentityId := some identity.id }, hfresh, ?_, rfl,
      hkey', fun k => Table.find?_insert hinsert k, ⟨w.identities, ?_, hold, ?_, ?_⟩, rfl, rfl⟩
    · have hv := session.valid
      have hevidence : ({ session.toUploadSessionRow with byteIdentityId := some identity.id } :
          UploadSessionRow).hasValidationEvidence = session.hasValidationEvidence := by
        simp [UploadSessionRow.hasValidationEvidence, hid]
      exact
        { hv with
          validated_evidence := fun hs => hevidence.trans (hv.validated_evidence hs)
          disposition_state := fun d hd =>
            ⟨(hv.disposition_state d hd).1, hevidence.trans (hv.disposition_state d hd).2⟩ }
    · show _ = { s with identities := w.identities, sessions := sessions }
      rw [hframe]
    · exact hfreshId.imp (fun h => h) fun hins => ⟨_, hins.2⟩
    · intro k hk
      cases hk
      exact ⟨identity, hfound, hev⟩

/-! The publication repository. -/

theorem updatePublication_some {guard : UploadPublicationRow → Bool}
    {set : UploadPublicationRow → UploadPublicationRow}
    {hset : ∀ row, (set row).uploadId = row.uploadId}
    (h : s.updatePublication id guard set hset = some t) : ∃ row, s.publication? id = some row ∧
      guard row = true ∧ t = { s with publications := t.publications } ∧
      ∀ k, t.publication? k = if id = k then some (set row) else s.publication? k := by
  unfold updatePublication at h
  split at h
  · rename_i row hrow
    split at h
    · rename_i hguard
      cases h
      refine ⟨row, hrow, hguard, rfl, fun k => ?_⟩
      show Table.find? _ _ = _
      rw [Table.find?_update]
      by_cases hk : id = k
      · subst hk
        unfold publication? at hrow
        simp [hrow]
      · simp only [hk, if_false]
        rfl
    · cases h
  · cases h

theorem orConflict_ok {x : Option UploadStore} (h : orConflict x = .ok t) : x = some t := by
  unfold orConflict at h
  split at h
  · cases h; rfl
  · cases h

theorem orFailed_ok {x : Option UploadStore} (h : orFailed x = .ok t) : x = some t := by
  unfold orFailed at h
  split at h
  · cases h; rfl
  · cases h

/-- Both rows of a candidate are the stored ones. -/
structure Loaded (s : UploadStore) (id : UploadSessionId) (row : UploadSessionRow)
    (candidate : UploadPublicationCandidate) : Prop where
  found : s.session? id = some row
  upload : candidate.upload.toUploadSessionRow =
    { row with createdByLoginKey := none, duplicateResolutionMode := .explicit }
  publication : candidate.publication.map UploadPublication.toUploadPublicationRow =
    s.publication? id

theorem candidateFromRows_some {row : UploadSessionRow} {publication : Option UploadPublicationRow}
    {candidate : UploadPublicationCandidate}
    (h : candidateFromRows row publication = some candidate) : candidate.upload.toUploadSessionRow =
      { row with createdByLoginKey := none, duplicateResolutionMode := .explicit } ∧
      candidate.publication.map UploadPublication.toUploadPublicationRow = publication := by
  unfold candidateFromRows at h
  cases hupload : uploadFromRow row with
  | none => simp [hupload] at h
  | some upload =>
    cases publication with
    | none =>
      simp only [hupload] at h
      cases h
      exact ⟨uploadFromRow_some hupload, rfl⟩
    | some stored =>
      simp only [hupload] at h
      obtain ⟨p, hp, rfl⟩ := Option.map_eq_some_iff.mp h
      exact ⟨uploadFromRow_some hupload, congrArg some (publicationFromRow_some hp)⟩

theorem requireCandidate_ok {candidate : UploadPublicationCandidate}
    (h : s.requireCandidate id = .ok candidate) : ∃ row, Loaded s id row candidate := by
  unfold requireCandidate at h
  split at h
  · cases h
  · rename_i row hrow
    split at h
    · rename_i candidate' hcandidate
      cases h
      obtain ⟨hupload, hpublication⟩ := candidateFromRows_some hcandidate
      exact ⟨row, hrow, hupload, hpublication⟩
    · cases h

theorem getCandidate_ok {candidate : UploadPublicationCandidate}
    (h : getCandidate id s = .ok (some candidate)) : ∃ row, Loaded s id row candidate := by
  unfold getCandidate at h
  split at h
  · cases h
  · rename_i row hrow
    split at h
    · rename_i candidate' hcandidate
      cases h
      obtain ⟨hupload, hpublication⟩ := candidateFromRows_some hcandidate
      exact ⟨row, hrow, hupload, hpublication⟩
    · cases h

/-- What this repository can load is valid, once its unread columns are. -/
theorem Loaded.valid {row : UploadSessionRow} {candidate : UploadPublicationCandidate}
    (h : Loaded s id row candidate) (hlogin : row.createdByLoginKey.all isCreatedByLoginKey = true) :
    row.Valid := by
  have hv := candidate.upload.valid
  rw [h.upload] at hv
  exact { hv with login_key := hlogin }

theorem Loaded.upload_id {row : UploadSessionRow} {candidate : UploadPublicationCandidate}
    (h : Loaded s id row candidate) : candidate.upload.id = id := by
  have hrow : row.id = id := session?_id h.found
  rw [h.upload]
  exact hrow

theorem requirePublication_ok {candidate : UploadPublicationCandidate}
    {publication : UploadPublication} (h : requirePublication candidate = .ok publication) :
    candidate.publication = some publication := by
  unfold requirePublication at h
  split at h
  · rename_i p hp
    cases h
    exact hp
  · split at h <;> cases h

theorem Loaded.publication? {row : UploadSessionRow} {candidate : UploadPublicationCandidate}
    {publication : UploadPublication} (h : Loaded s id row candidate)
    (hp : candidate.publication = some publication) :
    s.publication? id = some publication.toUploadPublicationRow := by
  rw [← h.publication, hp]
  rfl

/-- A reservation that was there, or the one now inserted for a candidate row. -/
theorem getOrCreateReservation_ok {reservation : UploadPublication} {version : Int}
    {candidate : UploadPublicationCandidate}
    (h : getOrCreateReservation reservation version s = .ok (candidate, t)) :
    (∃ row, Loaded t reservation.uploadId row candidate) ∧
    ((t = s ∧ candidate.publication.isSome = true ∧ (∀ p ∈ candidate.publication,
        p.matchesUpload candidate.upload.toUploadSessionRow = true)) ∨
      ∃ row, s.session? reservation.uploadId = some row ∧
        s.publication? reservation.uploadId = none ∧ row.state = .publishPending ∧
        row.version = version ∧ reservation.state = .reserved ∧
        reservation.matchesUpload row = true ∧
        s.reservationAccepted reservation.toUploadPublicationRow = true ∧
        t = { s with publications := t.publications } ∧
        s.publications.insert? reservation.toUploadPublicationRow = some t.publications ∧
        candidate.publication = some reservation) := by
  unfold getOrCreateReservation at h
  obtain ⟨-, h⟩ := require_bind_eq_ok.mp h
  obtain ⟨found, hfound, h⟩ := bind_eq_ok.mp h
  obtain ⟨row, hrow⟩ := requireCandidate_ok hfound
  split at h
  · rename_i existing hexisting
    obtain ⟨hmatches, h⟩ := require_bind_eq_ok.mp h
    cases h
    refine ⟨⟨row, hrow⟩, Or.inl ⟨rfl, by rw [hexisting]; rfl, ?_⟩⟩
    intro p hp
    rw [hexisting] at hp
    cases hp
    exact hmatches
  · rename_i hnone
    obtain ⟨hcandidate, h⟩ := require_bind_eq_ok.mp h
    obtain ⟨hversion, h⟩ := require_bind_eq_ok.mp h
    obtain ⟨hstate, h⟩ := require_bind_eq_ok.mp h
    obtain ⟨haccepted, h⟩ := require_bind_eq_ok.mp h
    split at h
    · cases h
    · rename_i publications hinsert
      obtain ⟨committed, hcommitted, h⟩ := bind_eq_ok.mp h
      cases h
      obtain ⟨row', hrow'⟩ := requireCandidate_ok hcommitted
      have habsent : s.publication? reservation.uploadId = none := by
        rw [← hrow.publication, hnone]
        rfl
      simp only [isPublicationCandidate, Bool.and_eq_true, decide_eq_true_eq] at hcandidate
      simp only [decide_eq_true_eq] at hversion hstate
      have hst : row.state = .publishPending := by
        have := hcandidate.1.1.1
        rw [hrow.upload] at this
        exact this
      have hve : row.version = version := by
        rw [hrow.upload] at hversion
        exact hversion
      have hma : reservation.matchesUpload row = true := by
        have := hcandidate.2
        rw [hrow.upload] at this
        simpa [UploadPublicationRow.matchesUpload] using this
      have hpub : candidate.publication = some reservation := by
        have hfind : Table.find? publications reservation.uploadId =
            some reservation.toUploadPublicationRow := by
          rw [Table.find?_insert hinsert, if_pos rfl]
        have hmap := hrow'.publication
        have hget : candidate.publication.map UploadPublication.toUploadPublicationRow =
            some reservation.toUploadPublicationRow := hmap.trans hfind
        obtain ⟨p, hp, heq⟩ := Option.map_eq_some_iff.mp hget
        rw [hp, UploadPublication.eq_of_row heq]
      exact ⟨⟨row', hrow'⟩, Or.inr ⟨row, hrow.found, habsent, hst, hve, hstate, hma, haccepted, rfl,
        hinsert, hpub⟩⟩

def publishedRow (row : UploadSessionRow) (updatedAtMs : Int) : UploadSessionRow :=
  { row with state := .published, updatedAtMs, failureCode := none, version := row.version + 1 }

def catalogedRow (row : UploadSessionRow) (updatedAtMs : Int) : UploadSessionRow :=
  { row with state := .cataloged, updatedAtMs, failureCode := none, version := row.version + 1 }

def verifiedPublication (row : UploadPublicationRow) (updatedAtMs : Int) : UploadPublicationRow :=
  { row with
    state := .verified, cleanupState := .pending, verifiedAtMs := some updatedAtMs, updatedAtMs
    version := row.version + 1 }

def cleanedPublication (row : UploadPublicationRow) (updatedAtMs : Int) : UploadPublicationRow :=
  { row with
    cleanupState := .complete, cleanupCompletedAtMs := some updatedAtMs, updatedAtMs
    version := row.version + 1 }

def linkedPublication (row : UploadPublicationRow) (mediaId : MediaId)
    (locationId : MediaLocationId) (updatedAtMs : Int) : UploadPublicationRow :=
  { row with
    mediaId := some mediaId, mediaLocationId := some locationId, updatedAtMs
    version := row.version + 1 }

/-- One publication row replaced, every other table as it was. -/
structure Republished (s t : UploadStore) (id : UploadSessionId)
    (before after : UploadPublicationRow) : Prop where
  found : s.publication? id = some before
  publication? : ∀ k, t.publication? k = if id = k then some after else s.publication? k
  frame : t = { s with publications := t.publications }

theorem updatePublication_republished {guard : UploadPublicationRow → Bool}
    {set : UploadPublicationRow → UploadPublicationRow}
    {hset : ∀ row, (set row).uploadId = row.uploadId}
    {row : UploadPublicationRow} (hrow : s.publication? id = some row)
    (h : s.updatePublication id guard set hset = some t) :
    guard row = true ∧ Republished s t id row (set row) := by
  obtain ⟨row', hrow', hguard, hframe, hfind⟩ := updatePublication_some h
  rw [hrow] at hrow'
  cases hrow'
  exact ⟨hguard, hrow, hfind, hframe⟩

/-- The session UPDATE of a publication statement, read back through the candidate. -/
theorem updateSession_updated {guard : UploadSessionRow → Bool}
    {set : UploadSessionRow → UploadSessionRow} {hset : ∀ row, (set row).id = row.id}
    {row : UploadSessionRow} {candidate : UploadPublicationCandidate}
    (hrow : s.session? id = some row) (h : s.updateSession id guard set hset = some t)
    (hcommitted : t.requireCandidate id = .ok candidate)
    (hlogin : (set row).createdByLoginKey.all isCreatedByLoginKey = true) :
    guard row = true ∧ Updated s t row (set row) ∧ Loaded t id (set row) candidate := by
  obtain ⟨row', hrow', hguard, hframe⟩ := updateSession_some h
  rw [hrow] at hrow'
  cases hrow'
  have hfind := updateSession_session? hrow h
  have hid := session?_id hrow
  obtain ⟨row₂, hloaded⟩ := requireCandidate_ok hcommitted
  have hsame := hloaded.found
  rw [hfind, if_pos rfl] at hsame
  cases hsame
  refine ⟨hguard, ⟨?_, hset row, hloaded.valid hlogin, ?_, by rw [hframe]⟩, hloaded⟩
  · rw [hid]
    exact hrow
  · intro k
    rw [hid]
    exact hfind k

/-- A publication committed as verified, or one that already was. -/
theorem commitVerifiedPublication_ok {publicationId : UploadPublicationId}
    {uploadVersion publicationVersion updatedAtMs : Int} {candidate : UploadPublicationCandidate}
    (hlogin : ∀ row, s.session? id = some row →
      row.createdByLoginKey.all isCreatedByLoginKey = true)
    (h : commitVerifiedPublication id publicationId uploadVersion publicationVersion updatedAtMs s =
      .ok (candidate, t)) :
    (∃ row publication, t = s ∧ Loaded s id row candidate ∧ row.state = .published ∧
      s.publication? id = some publication ∧ publication.state = .verified ∧
      publication.publicationId = publicationId) ∨
    ∃ row publication u, s.session? id = some row ∧
      (row.state = .publishPending ∧ row.version = uploadVersion) ∧
      (publication.state = .reserved ∧ publication.publicationId = publicationId ∧
        publication.version = publicationVersion ∧ publication.matchesUpload row = true) ∧
      Republished s u id publication (verifiedPublication publication updatedAtMs) ∧
      Updated u t row (publishedRow row updatedAtMs) ∧
      Loaded t id (publishedRow row updatedAtMs) candidate := by
  unfold commitVerifiedPublication at h
  obtain ⟨-, h⟩ := require_bind_eq_ok.mp h
  obtain ⟨found, hfound, h⟩ := bind_eq_ok.mp h
  obtain ⟨publication, hpublication, h⟩ := bind_eq_ok.mp h
  obtain ⟨hid, h⟩ := require_bind_eq_ok.mp h
  obtain ⟨hmatches, h⟩ := require_bind_eq_ok.mp h
  obtain ⟨row, hrow⟩ := requireCandidate_ok hfound
  have hstored := hrow.publication? (requirePublication_ok hpublication)
  have hstate : found.upload.state = row.state := by rw [hrow.upload]
  simp only [decide_eq_true_eq] at hid
  split at h
  · rename_i hdone
    cases h
    exact Or.inl ⟨row, _, rfl, hrow, by rw [← hstate]; exact hdone.1, hstored, hdone.2, hid⟩
  · obtain ⟨hpending, h⟩ := require_bind_eq_ok.mp h
    obtain ⟨hreserved, h⟩ := require_bind_eq_ok.mp h
    obtain ⟨hversions, h⟩ := require_bind_eq_ok.mp h
    obtain ⟨u, hu, h⟩ := bind_eq_ok.mp h
    obtain ⟨v, hv, h⟩ := bind_eq_ok.mp h
    obtain ⟨committed, hcommitted, h⟩ := bind_eq_ok.mp h
    cases h
    simp only [decide_eq_true_eq, Bool.and_eq_true] at hpending hreserved hversions
    obtain ⟨hguard, hrepublished⟩ := updatePublication_republished hstored (orConflict_ok hu)
    simp only [Bool.and_eq_true, decide_eq_true_eq] at hguard
    have hsame : u.session? id = some row := by
      rw [hrepublished.frame]
      exact hrow.found
    obtain ⟨hrowguard, hupdated, hloaded⟩ := updateSession_updated hsame (orConflict_ok hv)
      hcommitted (hlogin row hrow.found)
    simp only [Bool.and_eq_true, decide_eq_true_eq] at hrowguard
    exact Or.inr ⟨row, _, u, hrow.found, ⟨hrowguard.1.1.1, hrowguard.1.1.2⟩,
      ⟨hreserved, hid, hversions.2, hrowguard.2⟩, hrepublished, hupdated, hloaded⟩

/-- A publication whose cleanup is marked complete, or already was. -/
theorem markCleanupComplete_ok {publicationId : UploadPublicationId}
    {publicationVersion updatedAtMs : Int} {candidate : UploadPublicationCandidate}
    (h : markCleanupComplete id publicationId publicationVersion updatedAtMs s =
      .ok (candidate, t)) :
    ∃ row publication, Loaded t id row candidate ∧ s.session? id = some row ∧
      s.publication? id = some publication ∧ publication.publicationId = publicationId ∧
      (t = s ∧ publication.cleanupState = .complete ∨
        row.state = .published ∧ publication.state = .verified ∧
        publication.cleanupState = .pending ∧ publication.version = publicationVersion ∧
        Republished s t id publication (cleanedPublication publication updatedAtMs)) := by
  unfold markCleanupComplete at h
  obtain ⟨-, h⟩ := require_bind_eq_ok.mp h
  obtain ⟨found, hfound, h⟩ := bind_eq_ok.mp h
  obtain ⟨publication, hpublication, h⟩ := bind_eq_ok.mp h
  obtain ⟨hid, h⟩ := require_bind_eq_ok.mp h
  obtain ⟨-, h⟩ := require_bind_eq_ok.mp h
  obtain ⟨row, hrow⟩ := requireCandidate_ok hfound
  have hstored := hrow.publication? (requirePublication_ok hpublication)
  simp only [decide_eq_true_eq] at hid
  split at h
  · rename_i hdone
    cases h
    exact ⟨row, _, hrow, hrow.found, hstored, hid, Or.inl ⟨rfl, hdone⟩⟩
  · obtain ⟨hstate, h⟩ := require_bind_eq_ok.mp h
    obtain ⟨hversion, h⟩ := require_bind_eq_ok.mp h
    obtain ⟨u, hu, h⟩ := bind_eq_ok.mp h
    obtain ⟨committed, hcommitted, h⟩ := bind_eq_ok.mp h
    cases h
    obtain ⟨hguard, hrepublished⟩ := updatePublication_republished hstored (orConflict_ok hu)
    simp only [Bool.and_eq_true, decide_eq_true_eq] at hstate hversion hguard
    obtain ⟨row', hrow'⟩ := requireCandidate_ok hcommitted
    have hsame : row' = row := by
      have hget := hrow'.found
      rw [hrepublished.frame] at hget
      exact Option.some.inj (hget.symm.trans hrow.found)
    have hpublished : row.state = .published := by
      have hs := hstate.1
      rw [hrow.upload] at hs
      exact hs
    exact ⟨row, _, hsame ▸ hrow', hrow.found, hstored, hid, Or.inr ⟨hpublished, hstate.2,
      hguard.1.2, hversion, hrepublished⟩⟩

/-- The metadata row and the tags of a cataloging, when it has any. -/
def MetadataInserted (s t : UploadStore) : Option MediaMetadata → Prop
  | none => t.metadata = s.metadata ∧ t.tags = s.tags
  | some m => s.metadata.insert? (metadataRow m) = some t.metadata ∧
      t.tags = s.tags ++ canonicalTags m

/-- The rows a cataloging commits, all in one transaction. -/
structure Cataloged (s t : UploadStore) (id : UploadSessionId) (media : LogicalMedia)
    (location : MediaLocation) (metadata : Option MediaMetadata) (updatedAtMs : Int)
    (row : UploadSessionRow) (publication : UploadPublicationRow) : Prop where
  published : row.state = .published
  verified : publication.state = .verified ∧ publication.cleanupState = .complete ∧
    publication.mediaId = none ∧ publication.mediaLocationId = none
  found : s.session? id = some row
  stored : s.publication? id = some publication
  evidence : publication.matchesUpload row = true
  path : location.libraryId = publication.destinationId ∧
    location.relativePath = publication.relativePath ∧
    location.observedSizeBytes = some publication.expectedSizeBytes
  owner : location.mediaId = media.id ∧ ∀ m ∈ metadata, m.mediaId = media.id
  mediaInserted : s.media.insert? media = some t.media
  pathFree : ∀ other ∈ s.locations.rows,
    ¬ (other.libraryId = location.libraryId ∧ other.relativePath = location.relativePath)
  locationInserted : s.locations.insert? location = some t.locations
  metadataInserted : MetadataInserted s t metadata
  valid : (catalogedRow row updatedAtMs).Valid
  session? : ∀ k, t.session? k = if id = k then some (catalogedRow row updatedAtMs)
    else s.session? k
  publication? : ∀ k, t.publication? k = if id = k then
    some (linkedPublication publication media.id location.id updatedAtMs) else s.publication? k
  frame : t.identities = s.identities ∧ t.libraries = s.libraries ∧
    t.canonicalTagKeys = s.canonicalTagKeys

theorem insertMedia_some {media : LogicalMedia} (h : s.insertMedia media = some t) :
    s.media.insert? media = some t.media ∧ t = { s with media := t.media } := by
  obtain ⟨rows, hrows, rfl⟩ := Option.map_eq_some_iff.mp h
  exact ⟨hrows, rfl⟩

theorem insertLocation_some {location : MediaLocation} (h : s.insertLocation location = some t) :
    s.locations.insert? location = some t.locations ∧ t = { s with locations := t.locations } ∧
      ∀ other ∈ s.locations.rows,
        ¬ (other.libraryId = location.libraryId ∧ other.relativePath = location.relativePath) := by
  unfold insertLocation at h
  split at h
  · rename_i hguard
    obtain ⟨rows, hrows, rfl⟩ := Option.map_eq_some_iff.mp h
    refine ⟨hrows, rfl, fun other hother hsame => ?_⟩
    simp only [Bool.and_eq_true, Bool.not_eq_true', List.any_eq_false] at hguard
    exact hguard.2 other hother (by simpa using hsame)
  · cases h

theorem insertMetadata_some {metadata : Option MediaMetadata}
    (h : s.insertMetadata metadata = some t) : MetadataInserted s t metadata ∧
      t = { s with metadata := t.metadata, tags := t.tags } := by
  unfold insertMetadata at h
  cases metadata with
  | none =>
    cases h
    exact ⟨⟨rfl, rfl⟩, rfl⟩
  | some m =>
    simp only at h
    split at h
    · obtain ⟨rows, hrows, rfl⟩ := Option.map_eq_some_iff.mp h
      exact ⟨⟨hrows, rfl⟩, rfl⟩
    · cases h

/-- A cataloging committed whole, or one committed before. -/
theorem commitCatalogedPublication_ok {media : LogicalMedia} {location : MediaLocation}
    {uploadVersion publicationVersion updatedAtMs : Int} {metadata : Option MediaMetadata}
    {candidate : UploadPublicationCandidate}
    (hlogin : ∀ row, s.session? id = some row →
      row.createdByLoginKey.all isCreatedByLoginKey = true)
    (h : commitCatalogedPublication id media location uploadVersion publicationVersion updatedAtMs
      metadata s = .ok (candidate, t)) :
    (∃ row, t = s ∧ Loaded s id row candidate ∧ row.state = .cataloged ∧
      (∀ p, s.publication? id = some p → p.mediaId.isSome = true ∧
        s.catalogLinksResolve p = true)) ∨
    ∃ row publication, (row.version = uploadVersion ∧ publication.version = publicationVersion) ∧
      Cataloged s t id media location metadata updatedAtMs row publication ∧
      Loaded t id (catalogedRow row updatedAtMs) candidate := by
  unfold commitCatalogedPublication at h
  obtain ⟨-, h⟩ := require_bind_eq_ok.mp h
  obtain ⟨howner, h⟩ := require_bind_eq_ok.mp h
  obtain ⟨hmetadata, h⟩ := require_bind_eq_ok.mp h
  obtain ⟨found, hfound, h⟩ := bind_eq_ok.mp h
  obtain ⟨row, hrow⟩ := requireCandidate_ok hfound
  split at h
  · cases h
  rename_i publication hpublication
  have hstored := hrow.publication? hpublication
  have hstate : found.upload.state = row.state := by rw [hrow.upload]
  obtain ⟨hmatches, h⟩ := require_bind_eq_ok.mp h
  obtain ⟨-, h⟩ := require_bind_eq_ok.mp h
  split at h
  · rename_i hdone
    obtain ⟨hlinks, h⟩ := require_bind_eq_ok.mp h
    cases h
    refine Or.inl ⟨row, rfl, hrow, by rw [← hstate]; exact hdone.1, fun p hp => ?_⟩
    rw [hstored] at hp
    cases hp
    exact ⟨hdone.2.1, hlinks⟩
  · obtain ⟨hunlinked, h⟩ := require_bind_eq_ok.mp h
    obtain ⟨hready, h⟩ := require_bind_eq_ok.mp h
    obtain ⟨hpath, h⟩ := require_bind_eq_ok.mp h
    obtain ⟨hversions, h⟩ := require_bind_eq_ok.mp h
    obtain ⟨t₁, h₁, h⟩ := bind_eq_ok.mp h
    obtain ⟨t₂, h₂, h⟩ := bind_eq_ok.mp h
    obtain ⟨t₃, h₃, h⟩ := bind_eq_ok.mp h
    obtain ⟨t₄, h₄, h⟩ := bind_eq_ok.mp h
    obtain ⟨t₅, h₅, h⟩ := bind_eq_ok.mp h
    obtain ⟨committed, hcommitted, h⟩ := bind_eq_ok.mp h
    cases h
    simp only [Bool.and_eq_true, decide_eq_true_eq, Option.isNone_iff_eq_none] at hunlinked hready
    simp only [Bool.and_eq_true, decide_eq_true_eq] at howner hpath hversions
    obtain ⟨hmedia, hframe₁⟩ := insertMedia_some (orFailed_ok h₁)
    obtain ⟨hlocation, hframe₂, hfree⟩ := insertLocation_some (orFailed_ok h₂)
    obtain ⟨hmeta, hframe₃⟩ := insertMetadata_some (orFailed_ok h₃)
    have hstored₃ : t₃.publication? id = some publication.toUploadPublicationRow := by
      rw [hframe₃, hframe₂, hframe₁]
      exact hstored
    obtain ⟨-, hlinked⟩ := updatePublication_republished hstored₃ (orConflict_ok h₄)
    have hfound₄ : t₄.session? id = some row := by
      rw [hlinked.frame, hframe₃, hframe₂, hframe₁]
      exact hrow.found
    obtain ⟨hguard, hupdated, hloaded⟩ := updateSession_updated hfound₄ (orConflict_ok h₅)
      hcommitted (hlogin row hrow.found)
    simp only [Bool.and_eq_true, decide_eq_true_eq] at hguard
    have hid := session?_id hrow.found
    have hlocations : t₁.locations = s.locations := by rw [hframe₁]
    have hmetadatas : t₂.metadata = s.metadata := by rw [hframe₂, hframe₁]
    have htags : t₂.tags = s.tags := by rw [hframe₂, hframe₁]
    have hmedia₅ : t.media = t₁.media := by
      rw [hupdated.frame, hlinked.frame, hframe₃, hframe₂]
    have hlocations₅ : t.locations = t₂.locations := by
      rw [hupdated.frame, hlinked.frame, hframe₃]
    have hmetadata₅ : t.metadata = t₃.metadata ∧ t.tags = t₃.tags := by
      constructor
      · rw [hupdated.frame, hlinked.frame]
      · rw [hupdated.frame, hlinked.frame]
    refine Or.inr ⟨row, publication.toUploadPublicationRow, ⟨hguard.2, hversions.2⟩, ?_, hloaded⟩
    exact
      { published := hguard.1
        verified := ⟨hready.1.2, hready.2, hunlinked.1.2, hunlinked.2⟩
        found := hrow.found
        stored := hstored
        evidence := by
          rw [hrow.upload] at hmatches
          simpa [UploadPublicationRow.matchesUpload] using hmatches
        path := ⟨hpath.1.1, hpath.1.2, hpath.2⟩
        owner := by
          refine ⟨howner, fun m hm => ?_⟩
          cases hm
          simp only [Option.all_some, Bool.and_eq_true, decide_eq_true_eq] at hmetadata
          exact hmetadata.1
        mediaInserted := by rw [hmedia₅]; exact hmedia
        pathFree := by rw [← hlocations]; exact hfree
        locationInserted := by rw [hlocations₅, ← hlocations]; exact hlocation
        metadataInserted := by
          cases metadata with
          | none => exact ⟨by rw [hmetadata₅.1, hmeta.1, hmetadatas], by rw [hmetadata₅.2, hmeta.2, htags]⟩
          | some m => exact ⟨by rw [hmetadata₅.1, ← hmetadatas, hmeta.1],
              by rw [hmetadata₅.2, hmeta.2, htags]⟩
        valid := hupdated.valid
        session? := by
          intro k
          have hk := hupdated.session? k
          have hrest : t₄.session? k = s.session? k := by
            unfold session?
            rw [hlinked.frame, hframe₃, hframe₂, hframe₁]
          rw [hrest] at hk
          subst hid
          exact hk
        publication? := by
          intro k
          rw [hupdated.frame]
          have hk := hlinked.publication? k
          rw [hframe₃, hframe₂, hframe₁] at hk
          exact hk
        frame := by
          refine ⟨?_, ?_, ?_⟩ <;> rw [hupdated.frame, hlinked.frame, hframe₃, hframe₂, hframe₁] }

end UploadStore
end FrameNest.Uploads
