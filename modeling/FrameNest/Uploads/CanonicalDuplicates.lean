import FrameNest.Uploads.ServiceRuns

/-! One canonical upload for each byte identity: what every committed operation of the
services keeps. -/
namespace FrameNest.Uploads
open UploadStore

/-- The session holds the place of the identity without a recorded disposition. -/
def HoldsPlace (s : UploadStore) (id : UploadSessionId) (identity : MediaByteIdentityId) : Prop :=
  ∃ row, s.session? id = some row ∧ s.isCanonical row = true ∧ row.duplicateDisposition = none ∧
    row.byteIdentityId = some identity

/-- At most one session holds the place of an identity. -/
def OneCanonical (s : UploadStore) : Prop :=
  ∀ identity a b, HoldsPlace s a identity → HoldsPlace s b identity → a = b

/-- What an operation does to the holders: it makes none, or one where there was none. -/
inductive HoldersChange (s t : UploadStore) : Prop where
  | fewer (h : ∀ a identity, HoldsPlace t a identity → HoldsPlace s a identity)
  | entered (id : UploadSessionId) (identity : MediaByteIdentityId)
      (free : ∀ b, b ≠ id → ¬ HoldsPlace s b identity)
      (h : ∀ a i, HoldsPlace t a i → HoldsPlace s a i ∨ (a = id ∧ i = identity))

theorem HoldersChange.oneCanonical {s t : UploadStore} (h : HoldersChange s t)
    (hs : OneCanonical s) : OneCanonical t := by
  intro i a b ha hb
  cases h with
  | fewer h => exact hs i a b (h a i ha) (h b i hb)
  | entered id identity free h =>
    obtain ha | ⟨rfl, rfl⟩ := h a i ha
    · obtain hb | ⟨rfl, rfl⟩ := h b i hb
      · exact hs i a b ha hb
      · by_contra hne
        exact free a hne ha
    · obtain hb | ⟨rfl, -⟩ := h b i hb
      · by_contra hne
        exact free b (Ne.symm hne) hb
      · rfl

section Holders
variable {F : UploadSessionState → Prop} {op : Operation} {s t : UploadStore}
  {id : UploadSessionId} {identity : MediaByteIdentityId} {before after row : UploadSessionRow}

/-- A row that was there holds its place only as before. -/
theorem canonical_of_links (links : KeepsLinks s t) (hrow : s.session? row.id = some row)
    (h : t.isCanonical row = true) : s.isCanonical row = true := by
  rw [isCanonical_iff] at h ⊢
  obtain hpending | hpublished | ⟨hcataloged, hlinked⟩ := h
  · exact Or.inl hpending
  · exact Or.inr (Or.inl hpublished)
  · exact Or.inr (Or.inr ⟨hcataloged, links row.id row hrow hcataloged hlinked⟩)

theorem holdsPlace_kept (links : KeepsLinks s t) (hsame : t.session? id = s.session? id)
    (h : HoldsPlace t id identity) : HoldsPlace s id identity := by
  obtain ⟨row, hrow, hcanonical, hrest⟩ := h
  rw [hsame] at hrow
  have hid := session?_id hrow
  exact ⟨row, hrow, canonical_of_links links (by rw [hid]; exact hrow) hcanonical, hrest⟩

theorem not_canonical (h : row.state ∉ placeStates) : s.isCanonical row = false := by
  rw [Bool.eq_false_iff]
  intro hcanonical
  rw [isCanonical_iff] at hcanonical
  apply h
  obtain hs | hs | ⟨hs, -⟩ := hcanonical <;> rw [hs] <;> decide

theorem not_canonical_pending (h : row.state = .duplicatePending) : s.isCanonical row = false := by
  rw [Bool.eq_false_iff]
  intro hcanonical
  rw [isCanonical_iff, h] at hcanonical
  simp at hcanonical

/-- A validation that finds the place taken leaves a disposition or a pending duplicate. -/
theorem validated_taken {checksumHex : String} {kind : UploadValidatedMediaKind}
    {format : UploadValidatedFormat} {time : Int} :
    let after := validatedRow before checksumHex kind format identity true time
    s.isCanonical after = true → after.duplicateDisposition ≠ none := by
  intro after hcanonical hnone
  cases hmode : before.duplicateResolutionMode with
  | explicit =>
    have hstate : after.state = .duplicatePending := by
      simp [after, validatedRow, validationOutcome, hmode, usesExplicitDuplicateResolution]
    rw [not_canonical_pending hstate] at hcanonical
    cases hcanonical
  | silentKeepSeparate =>
    have hdisposition : after.duplicateDisposition = some .keepSeparate := by
      simp [after, validatedRow, validationOutcome, hmode, usesExplicitDuplicateResolution]
    rw [hdisposition] at hnone
    cases hnone

/-- What the changed row holds it held before, or it was validated onto a free place. -/
theorem ServiceMutation.place (h : ServiceMutation F s before after) (hid : after.id = before.id)
    (hfound : s.session? before.id = some before) (links : KeepsLinks s t)
    (hcanonical : t.isCanonical after = true) (hnone : after.duplicateDisposition = none)
    (hidentity : after.byteIdentityId = some identity) :
    HoldsPlace s before.id identity ∨ s.PlaceFree before.id identity := by
  cases h with
  | edited after hstate hdisposition hsame =>
    refine Or.inl ⟨before, hfound, canonical_of_links links hfound ?_, by rw [← hdisposition, hnone],
      by rw [← hsame, hidentity]⟩
    rw [isCanonical_iff] at hcanonical ⊢
    rw [← hstate, ← hid]
    exact hcanonical
  | moved target time failureCode allowed plain failed received =>
    rw [not_canonical plain] at hcanonical
    cases hcanonical
  | validated checksumHex kind format fresh exists_ time hs free =>
    cases exists_ with
    | true => exact absurd hnone (validated_taken hcanonical)
    | false =>
      cases hidentity
      exact Or.inr (free rfl)
  | disposed disposition time hs hn => cases hnone
  | published time hs =>
    exact Or.inl ⟨before, hfound, isCanonical_iff.mpr (Or.inl hs), hnone, hidentity⟩
  | cataloged time hs =>
    exact Or.inl ⟨before, hfound, isCanonical_iff.mpr (Or.inr (Or.inl hs)), hnone, hidentity⟩

theorem ServiceChange.holders (h : ServiceChange F op s t) : HoldersChange s t := by
  cases h with
  | kept hsame links =>
    refine .fewer fun a identity ha => holdsPlace_kept links ?_ ha
    unfold session?
    rw [hsame]
  | created row hnew hvalid hempty hsession links =>
    refine .fewer fun a identity ha => ?_
    by_cases hid : row.id = a
    · obtain ⟨found, hfound, hcanonical, -⟩ := ha
      rw [hsession, if_pos hid] at hfound
      cases hfound
      rw [not_canonical (by rw [hempty]; decide)] at hcanonical
      cases hcanonical
    · exact holdsPlace_kept links (by rw [hsession, if_neg hid]) ha
  | mutated before after found guarded hm hs hvalid hsession links =>
    have hid : after.id = before.id := hm.disciplined.same_column.1
    have hafter : ∀ identity, HoldsPlace t before.id identity →
        HoldsPlace s before.id identity ∨
          (s.PlaceFree before.id identity ∧ after.byteIdentityId = some identity) := by
      rintro identity ⟨row, hrow, hcanonical, hnone, hidentity⟩
      rw [hsession, if_pos rfl] at hrow
      cases hrow
      exact (hs.place hid found links hcanonical hnone hidentity).imp_right fun hf => ⟨hf, hidentity⟩
    have hothers : ∀ a identity, before.id ≠ a → HoldsPlace t a identity →
        HoldsPlace s a identity := fun a identity hne ha =>
      holdsPlace_kept links (by rw [hsession, if_neg hne]) ha
    by_cases hentered : ∃ identity, after.byteIdentityId = some identity ∧
        s.PlaceFree before.id identity
    · obtain ⟨identity, hidentity, hfree⟩ := hentered
      refine .entered before.id identity (fun b hb ⟨row, hrow, hcanonical, _, hplace⟩ => ?_)
        fun a i ha => ?_
      · have hrowid := session?_id hrow
        rw [hfree row (by rw [hrowid]; exact hrow) (by rw [hrowid]; exact hb) hplace] at hcanonical
        cases hcanonical
      · by_cases hne : before.id = a
        · subst hne
          obtain hheld | ⟨-, hi⟩ := hafter i ha
          · exact Or.inl hheld
          · rw [hidentity] at hi
            exact Or.inr ⟨rfl, (Option.some.inj hi).symm⟩
        · exact Or.inl (hothers a i hne ha)
    · refine .fewer fun a i ha => ?_
      by_cases hne : before.id = a
      · subst hne
        obtain hheld | ⟨hfree, hi⟩ := hafter i ha
        · exact hheld
        · exact absurd ⟨i, hi, hfree⟩ hentered
      · exact hothers a i hne ha

end Holders

/-! Dispositions: who may be asked, who has answered, and for good. -/

/-- Every reachable store keeps its places apart and asks only explicit sessions. -/
structure DuplicateDiscipline (s : UploadStore) : Prop where
  load : s.AllLoad
  one : OneCanonical s
  asked : ∀ id row, s.session? id = some row → row.state = .duplicatePending →
    row.duplicateResolutionMode = .explicit

/-- A session leaves its question with the answer recorded, and no answer is changed. -/
structure DuplicateStep (before after : UploadSessionRow) : Prop where
  kept : before.state = .duplicatePending → after.state = .publishPending →
    after.duplicateDisposition = some .keepSeparate
  recorded : ∀ disposition ∈ before.duplicateDisposition,
    after.duplicateDisposition = some disposition

/-- Nobody fails a session whose disposition stands. -/
def DispositionsStand (s : UploadStore) : Prop :=
  ∀ id row, s.session? id = some row → row.duplicateDisposition.isSome = true → row.state ≠ .failed

section Dispositions
variable {F : UploadSessionState → Prop} {op : Operation} {s t : UploadStore}
  {id : UploadSessionId} {before after row : UploadSessionRow}

theorem no_disposition_of_state {row : UploadSessionRow} (h : row.Valid)
    (hs : row.state = .validating ∨ row.state = .duplicatePending) :
    row.duplicateDisposition = none := by
  cases hd : row.duplicateDisposition with
  | none => rfl
  | some disposition =>
    have hallowed := (h.disposition_state disposition hd).1
    obtain hs | hs := hs <;> rw [hs] at hallowed <;> cases disposition <;>
      simp [UploadDuplicateDisposition.allowedStates] at hallowed

theorem ServiceMutation.duplicateStep (h : ServiceMutation F s before after)
    (hv : before.Valid) : DuplicateStep before after := by
  cases h with
  | edited after hstate hdisposition hsame =>
    refine ⟨fun hpending hpublish => ?_, fun d hd => by rw [hdisposition]; exact hd⟩
    rw [hstate, hpending] at hpublish
    cases hpublish
  | moved target time failureCode allowed plain failed received =>
    refine ⟨fun _ hpublish => ?_, fun d hd => hd⟩
    rw [show target = .publishPending from hpublish] at plain
    exact absurd (by decide) plain
  | validated checksumHex kind format identity exists_ time hs free =>
    refine ⟨fun hpending => ?_, fun d hd => ?_⟩
    · rw [hs] at hpending
      cases hpending
    · rw [no_disposition_of_state hv (Or.inl hs)] at hd
      cases hd
  | disposed disposition time hs hn =>
    refine ⟨fun _ hpublish => ?_, fun d hd => ?_⟩
    · cases disposition with
      | keepSeparate => rfl
      | discard => cases hpublish
    · rw [hn] at hd
      cases hd
  | published time hs =>
    refine ⟨fun hpending => ?_, fun d hd => hd⟩
    rw [hs] at hpending
    cases hpending
  | cataloged time hs =>
    refine ⟨fun hpending => ?_, fun d hd => hd⟩
    rw [hs] at hpending
    cases hpending

/-- Only validation asks, and only explicit sessions. -/
theorem ServiceMutation.asked (h : ServiceMutation F s before after)
    (hbefore : before.state = .duplicatePending → before.duplicateResolutionMode = .explicit)
    (hmode : after.duplicateResolutionMode = before.duplicateResolutionMode)
    (hpending : after.state = .duplicatePending) : after.duplicateResolutionMode = .explicit := by
  cases h with
  | edited after hstate hdisposition hsame =>
    rw [hmode]
    exact hbefore (by rw [← hstate, hpending])
  | moved target time failureCode allowed plain failed received =>
    rw [show target = .duplicatePending from hpending] at plain
    exact absurd (by decide) plain
  | validated checksumHex kind format identity exists_ time hs free =>
    rw [hmode]
    cases hbm : before.duplicateResolutionMode with
    | explicit => rfl
    | silentKeepSeparate =>
      cases exists_ <;>
        simp [validatedRow, validationOutcome, hbm, usesExplicitDuplicateResolution] at hpending
  | disposed disposition time hs hn => cases disposition <;> cases hpending
  | published time hs => cases hpending
  | cataloged time hs => cases hpending

/-- With publish-pending sessions left alone, a disposed session is never failed. -/
theorem ServiceMutation.stands (h : ServiceMutation F s before after) (hF : ¬ F .publishPending)
    (hv : before.Valid)
    (hbefore : before.duplicateDisposition.isSome = true → before.state ≠ .failed)
    (hafter : after.duplicateDisposition.isSome = true) : after.state ≠ .failed := by
  cases h with
  | edited after hstate hdisposition hsame =>
    rw [hstate]
    exact hbefore (by rw [← hdisposition]; exact hafter)
  | moved target time failureCode allowed plain failed received =>
    intro hfailed
    obtain ⟨d, hd⟩ := Option.isSome_iff_exists.mp hafter
    have hstates := (hv.disposition_state d hd).1
    have hF' : F before.state := failed hfailed
    rw [show target = .failed from hfailed] at allowed
    cases hs : before.state with
    | publishPending =>
      rw [hs] at hF'
      exact hF hF'
    | failed => exact hbefore hafter hs
    | _ =>
      rw [hs] at allowed hstates
      revert allowed hstates
      cases d <;> decide
  | validated checksumHex kind format identity exists_ time hs free =>
    cases exists_ <;> cases hmode : before.duplicateResolutionMode <;>
      simp [validatedRow, validationOutcome, hmode, usesExplicitDuplicateResolution]
  | disposed disposition time hs hn => cases disposition <;> simp [dispositionTarget]
  | published time hs => simp [publishedRow]
  | cataloged time hs => simp [catalogedRow]

/-- What each row of the later store was before. -/
theorem ServiceChange.row_cases (h : ServiceChange F op s t) (hrow : t.session? id = some row) :
    s.session? id = some row ∨ (s.session? id = none ∧ row.state = .created ∧ row.Valid) ∨
      ∃ before, s.session? id = some before ∧ Mutation before row ∧
        ServiceMutation F s before row ∧ row.Valid ∧ ∃ version, op.guardedBy = some (id, version) := by
  cases h with
  | kept hsame links =>
    unfold session? at hrow ⊢
    rw [← hsame]
    exact Or.inl hrow
  | created new hnew hvalid hempty hsession links =>
    rw [hsession] at hrow
    split at hrow
    · rename_i hid
      cases hrow
      rw [← hid]
      exact Or.inr (Or.inl ⟨hnew, hempty, hvalid⟩)
    · exact Or.inl hrow
  | mutated before after found guarded hm hs hvalid hsession links =>
    rw [hsession] at hrow
    split at hrow
    · rename_i hid
      cases hrow
      rw [← hid]
      exact Or.inr (Or.inr ⟨before, found, hm, hs, hvalid, _, guarded⟩)
    · exact Or.inl hrow

theorem ServiceChange.discipline (h : ServiceChange F op s t) (hs : DuplicateDiscipline s) :
    DuplicateDiscipline t where
  one := h.holders.oneCanonical hs.one
  load id row hrow := by
    obtain hkept | ⟨-, -, hvalid⟩ | ⟨before, -, -, -, hvalid, -⟩ := h.row_cases hrow
    · exact hs.load id row hkept
    · exact hvalid
    · exact hvalid
  asked id row hrow hpending := by
    obtain hkept | ⟨-, hempty, -⟩ | ⟨before, hbefore, hm, hmutation, -⟩ := h.row_cases hrow
    · exact hs.asked id row hkept hpending
    · rw [hempty] at hpending
      cases hpending
    · obtain ⟨-, -, -, -, -, -, -, hmode⟩ := hm.disciplined.same_column
      exact hmutation.asked (hs.asked id before hbefore) hmode hpending

theorem ServiceChange.stands (h : ServiceChange F op s t) (hF : ¬ F .publishPending)
    (hload : s.AllLoad) (hs : DispositionsStand s) : DispositionsStand t := by
  intro id row hrow hdisposed
  obtain hkept | ⟨-, hempty, -⟩ | ⟨before, hbefore, -, hmutation, -⟩ := h.row_cases hrow
  · exact hs id row hkept hdisposed
  · rw [hempty]
    decide
  · exact hmutation.stands hF (hload id before hbefore) (hs id before hbefore) hdisposed

/-- Each session is still there, one step further at most. -/
theorem ServiceChange.duplicateStep (h : ServiceChange F op s t) (hload : s.AllLoad)
    (hrow : s.session? id = some row) :
    ∃ after, t.session? id = some after ∧ DuplicateStep row after := by
  have hrefl : DuplicateStep row row := by
    refine ⟨fun hpending hpublish => ?_, fun d hd => hd⟩
    rw [hpending] at hpublish
    cases hpublish
  cases h with
  | kept hsame links =>
    refine ⟨row, ?_, hrefl⟩
    unfold session? at *
    rw [hsame]
    exact hrow
  | created new hnew hvalid hempty hsession links =>
    refine ⟨row, ?_, hrefl⟩
    rw [hsession, if_neg]
    · exact hrow
    · intro hid
      rw [hid, hrow] at hnew
      cases hnew
  | mutated before after found guarded hm hs hvalid hsession links =>
    by_cases hid : before.id = id
    · rw [hid, hrow] at found
      cases found
      exact ⟨after, by rw [hsession, if_pos hid], hs.duplicateStep (hload id row hrow)⟩
    · exact ⟨row, by rw [hsession, if_neg hid, hrow], hrefl⟩

theorem empty_discipline (libraries : List LibraryId) (canonicalTagKeys : List String) :
    DuplicateDiscipline (UploadStore.empty libraries canonicalTagKeys) where
  load := empty_allLoad libraries canonicalTagKeys
  one _ _ _ := fun ⟨_, hrow, _⟩ => by cases hrow
  asked _ _ hrow := by cases hrow

end Dispositions
end FrameNest.Uploads
