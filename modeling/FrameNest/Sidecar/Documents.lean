import FrameNest.Identities
import FrameNest.Metadata.Spellings
import FrameNest.Text.JsonFields

/-! The portable sidecar of one medium: the texts it may hold, as Python strings, and the closed
document built of them. -/
namespace FrameNest.Sidecar
open Metadata PyStr

section Characters

def isSpace : CodePoint → Bool := lift Plain.isSpace
def isControl : CodePoint → Bool := lift Plain.isControl

/- `s.strip()`. -/
def strip (s : PyStr) : PyStr := ((s.dropWhile isSpace).reverse.dropWhile isSpace).reverse

/-- No white space stands at either end. -/
def Snug (s : PyStr) : Prop :=
  (∀ c, s.head? = some c → isSpace c = false) ∧ ∀ c, s.getLast? = some c → isSpace c = false

theorem head_dropWhile {p : CodePoint → Bool} {s : PyStr} {c : CodePoint}
    (h : (s.dropWhile p).head? = some c) : p c = false := by
  have hnot := List.head?_dropWhile_not p s
  rw [h] at hnot
  simpa using hnot

theorem dropWhile_of_head {p : CodePoint → Bool} {s : PyStr}
    (h : ∀ c, s.head? = some c → p c = false) : s.dropWhile p = s := by
  cases s with
  | nil => rfl
  | cons c rest => exact List.dropWhile_cons_of_neg (by simp [h c rfl])

theorem strip_start (s : PyStr) : strip s <+: s.dropWhile isSpace := by
  have hsuffix : (s.dropWhile isSpace).reverse.dropWhile isSpace <:+ (s.dropWhile isSpace).reverse :=
    List.dropWhile_suffix isSpace
  simpa [strip] using List.reverse_prefix.mpr hsuffix

theorem snug_strip (s : PyStr) : Snug (strip s) := by
  constructor
  · intro c hc
    obtain ⟨rest, hrest⟩ := strip_start s
    have hhead : (s.dropWhile isSpace).head? = some c := by
      rw [← hrest, List.head?_append, hc]
      rfl
    exact head_dropWhile hhead
  · intro c hc
    rw [strip, List.getLast?_reverse] at hc
    exact head_dropWhile hc

theorem Snug.strip {s : PyStr} (h : Snug s) : strip s = s := by
  have hback : ∀ c, s.reverse.head? = some c → isSpace c = false := by
    intro c hc
    exact h.2 c (by simpa using hc)
  rw [Sidecar.strip, dropWhile_of_head h.1, dropWhile_of_head hback, List.reverse_reverse]

theorem strip_strip (s : PyStr) : strip (strip s) = strip s := (snug_strip s).strip

theorem strip_sublist (s : PyStr) : List.Sublist (strip s) s :=
  (strip_start s).sublist.trans (List.dropWhile_suffix isSpace).sublist

theorem any_sublist {p : CodePoint → Bool} {s t : PyStr} (h : List.Sublist s t)
    (ht : t.any p = false) : s.any p = false := by
  rw [List.any_eq_false] at ht ⊢
  exact fun c hc => ht c (h.subset hc)

/-- Code points that are no surrogates may be dropped from the front. -/
theorem surrogate_dropWhile {p : CodePoint → Bool} (hp : ∀ offset, p (.surrogate offset) = false)
    (s : PyStr) : hasSurrogate (s.dropWhile p) = hasSurrogate s := by
  induction s with
  | nil => rfl
  | cons c rest ih =>
    by_cases hc : p c = true
    · have hnot : isSurrogate c = false := by
        cases c with
        | char c => rfl
        | surrogate offset =>
          rw [hp] at hc
          cases hc
      rw [List.dropWhile_cons_of_pos hc, ih]
      simp [hasSurrogate, hnot]
    · rw [List.dropWhile_cons_of_neg hc]

theorem surrogate_reverse (s : PyStr) : hasSurrogate s.reverse = hasSurrogate s := by
  simp [hasSurrogate]

@[simp] theorem surrogate_strip (s : PyStr) : hasSurrogate (strip s) = hasSurrogate s := by
  have hspace : ∀ offset, isSpace (.surrogate offset) = false := fun _ => rfl
  rw [strip, surrogate_reverse, surrogate_dropWhile hspace, surrogate_reverse,
    surrogate_dropWhile hspace]

end Characters

/-- `unicodedata.normalize("NFC", ..)` and `str.lower`, by what their documentation promises of
white space, control characters, at signs and lone surrogates. -/
structure Unicode where
  nfc : PyStr → PyStr
  lower : PyStr → PyStr
  nfc_nfc : ∀ s, nfc (nfc s) = nfc s
  nfc_snug : ∀ s, Snug s → Snug (nfc s)
  nfc_calm : ∀ s, s.any isControl = false → (nfc s).any isControl = false
  nfc_surrogate : ∀ s, hasSurrogate (nfc s) = hasSurrogate s
  lower_lower : ∀ s, lower (lower s) = lower s
  lower_snug : ∀ s, Snug s → Snug (lower s)
  lower_at : ∀ s, s.head? ≠ some (.char '@') → (lower s).head? ≠ some (.char '@')
  lower_calm : ∀ s, s.any isControl = false → (lower s).any isControl = false
  lower_surrogate : ∀ s, hasSurrogate (lower s) = hasSurrogate s

section Texts

/-- A constructor of checked texts: which strings it takes, and the form it keeps them in. -/
structure TextForm where
  accepts : PyStr → Bool
  form : PyStr → PyStr
  limit : Nat
  accepts_form : ∀ {s}, accepts s = true → accepts (form s) = true
  form_form : ∀ {s}, accepts s = true → form (form s) = form s
  within : ∀ {s}, accepts s = true → (form s).length ≤ limit
  surrogate_form : ∀ {s}, accepts s = true → hasSurrogate (form s) = hasSurrogate s

structure TextForm.Value (t : TextForm) where
  value : PyStr
  accepted : t.accepts value = true
  normal : t.form value = value

instance (t : TextForm) : DecidableEq t.Value
  | ⟨a, _, _⟩, ⟨b, _, _⟩ => decidable_of_iff (a = b) (by simp)

/- The constructor, `none` where it raises. -/
def TextForm.make (t : TextForm) (s : PyStr) : Option t.Value :=
  if h : t.accepts s = true then some ⟨t.form s, t.accepts_form h, t.form_form h⟩ else none

@[simp] theorem TextForm.make_value (t : TextForm) (v : t.Value) : t.make v.value = some v := by
  unfold make
  rw [dif_pos v.accepted]
  simp only [v.normal]

theorem TextForm.make_some {t : TextForm} {s : PyStr} {v : t.Value} (h : t.make s = some v) :
    t.accepts s = true ∧ v.value = t.form s := by
  unfold make at h
  split at h
  · rename_i haccepts
    cases h
    exact ⟨haccepts, rfl⟩
  · cases h

/- A constructor that keeps the string as it is. -/
def plainForm (accepts : PyStr → Bool) (limit : Nat)
    (within : ∀ {s}, accepts s = true → s.length ≤ limit) : TextForm where
  accepts := accepts
  form s := s
  limit := limit
  accepts_form h := h
  form_form _ := rfl
  within := within
  surrogate_form _ := rfl

def maxDisplayTitleCodePoints : Nat := 240
def maxDescriptionCodePoints : Nat := 10000
def maxTagDisplayNameCodePoints : Nat := 80
def maxRelativePathCodePoints : Nat := 4096

/- `MediaDisplayTitle`. -/
def mediaDisplayTitle : TextForm :=
  plainForm (fun s => s ≠ [] && strip s = s && s.length ≤ maxDisplayTitleCodePoints &&
    !s.any isControl) maxDisplayTitleCodePoints (by
      intro s h
      simp only [Bool.and_eq_true, decide_eq_true_eq] at h
      exact h.1.2)

/- `MediaDescription`; line feeds are the only control characters it may hold. -/
def mediaDescription : TextForm :=
  plainForm (fun s => s ≠ [] && strip s = s && s.length ≤ maxDescriptionCodePoints &&
    !s.any fun c => isControl c && c ≠ .char '\n') maxDescriptionCodePoints (by
      intro s h
      simp only [Bool.and_eq_true, decide_eq_true_eq] at h
      exact h.1.2)

/- `CanonicalTagDisplayName`, which keeps the text stripped. -/
def canonicalTagDisplayName : TextForm where
  accepts s := !s.any isControl && strip s ≠ [] && (strip s).length ≤ maxTagDisplayNameCodePoints
  form := strip
  limit := maxTagDisplayNameCodePoints
  accepts_form := by
    intro s h
    simp only [Bool.and_eq_true, Bool.not_eq_true', decide_eq_true_eq] at h ⊢
    rw [strip_strip]
    exact ⟨⟨any_sublist (strip_sublist s) h.1.1, h.1.2⟩, h.2⟩
  form_form _ := strip_strip _
  within := by
    intro s h
    simp only [Bool.and_eq_true, decide_eq_true_eq] at h
    exact h.2
  surrogate_form _ := surrogate_strip _

section Paths

def slashed (c : CodePoint) : CodePoint := if c = .char '\\' then .char '/' else c

def isSlash (c : CodePoint) : Bool := c = .char '/' || c = .char '\\'

/- `PureWindowsPath(value).is_absolute()`, of a path that POSIX does not call absolute. -/
def hasDrive (s : PyStr) : Bool := s[1]? = some (.char ':') && s[2]?.any isSlash

def properPart (part : PyStr) : Bool := part ≠ [] && part ≠ [.char '.'] && part ≠ [.char '.', .char '.']

/- `_normalize_relative_path`. No part being empty or a dot is what the comparison with
   `str(PurePosixPath(..))` comes to. -/
def isRelativePath (s : PyStr) : Bool :=
  s ≠ [] && !s.contains (.char (Char.ofNat 0)) && s.length ≤ maxRelativePathCodePoints &&
    !hasDrive s && ((s.map slashed).splitOn (.char '/')).all properPart

theorem slashed_slashed (c : CodePoint) : slashed (slashed c) = slashed c := by
  unfold slashed
  split <;> simp_all

theorem slashed_nul (c : CodePoint) :
    slashed c = .char (Char.ofNat 0) ↔ c = .char (Char.ofNat 0) := by
  unfold slashed
  split
  · rename_i h
    rw [h]
    decide
  · rfl

theorem slashed_colon (c : CodePoint) : slashed c = .char ':' ↔ c = .char ':' := by
  unfold slashed
  split
  · rename_i h
    rw [h]
    decide
  · rfl

theorem isSlash_slashed (c : CodePoint) : isSlash (slashed c) = isSlash c := by
  unfold slashed
  split
  · rename_i h
    rw [h]
    decide
  · rfl

theorem surrogate_slashed (s : PyStr) : hasSurrogate (s.map slashed) = hasSurrogate s := by
  induction s with
  | nil => rfl
  | cons c rest ih =>
    have hc : isSurrogate (slashed c) = isSurrogate c := by
      unfold slashed
      split
      · rename_i h
        rw [h]
        rfl
      · rfl
    simp only [hasSurrogate, List.map_cons, List.any_cons, hc] at ih ⊢
    rw [ih]

theorem hasDrive_slashed (s : PyStr) : hasDrive (s.map slashed) = hasDrive s := by
  have hcolon : (((s.map slashed)[1]? : Option CodePoint) = some (.char ':')) ↔
      s[1]? = some (.char ':') := by
    rw [List.getElem?_map]
    cases s[1]? with
    | none => simp
    | some c => simpa using slashed_colon c
  have hslash : ((s.map slashed)[2]?).any isSlash = (s[2]?).any isSlash := by
    rw [List.getElem?_map]
    cases s[2]? with
    | none => rfl
    | some c => exact isSlash_slashed c
  unfold hasDrive
  rw [hslash]
  simp only [hcolon]

/- `MediaRelativePath`, which keeps forward slashes. -/
def mediaRelativePath : TextForm where
  accepts := isRelativePath
  form s := s.map slashed
  limit := maxRelativePathCodePoints
  accepts_form := by
    intro s h
    have hmap : (s.map slashed).map slashed = s.map slashed := by
      rw [List.map_map]
      exact List.map_congr_left fun c _ => slashed_slashed c
    have hnul : (s.map slashed).contains (.char (Char.ofNat 0)) =
        s.contains (.char (Char.ofNat 0)) := by
      rw [Bool.eq_iff_iff]
      simp only [List.contains_iff_mem, List.mem_map]
      constructor
      · rintro ⟨c, hc, heq⟩
        exact (slashed_nul c).mp heq ▸ hc
      · intro hmem
        exact ⟨_, hmem, (slashed_nul _).mpr rfl⟩
    unfold isRelativePath at h ⊢
    rw [hmap, hnul, hasDrive_slashed, List.length_map]
    simpa using h
  form_form := by
    intro s _
    rw [List.map_map]
    exact List.map_congr_left fun c _ => slashed_slashed c
  within := by
    intro s h
    simp only [isRelativePath, Bool.and_eq_true, decide_eq_true_eq] at h
    simpa using h.1.1.2
  surrogate_form _ := surrogate_slashed _

end Paths
end Texts

section Creator

structure SidecarCreator where
  creatorAttributionKind : Option CreatorAttributionKind
  creatorStableId : Option PyStr
  creatorHandle : Option PyStr
  creatorDisplayName : Option PyStr
deriving DecidableEq

/- A creator text in its normal form, `none` where the source raises: a blank text is null, and
   what is left is bounded. -/
def normalizeCreator (form : PyStr → PyStr) (limit : Nat) : Option PyStr → Option (Option PyStr)
  | none => some none
  | some s =>
    if s.any isControl then none
    else if form s = [] then some none
    else if (form s).length ≤ limit then some (some (form s))
    else none

def isAtOrSpace (c : CodePoint) : Bool := c = .char '@' || isSpace c

/- `while trimmed.startswith("@"): trimmed = trimmed[1:].lstrip()` drops the run of at signs
   and white space that a stripped text begins with. -/
def withoutAts (s : PyStr) : PyStr := (strip s).dropWhile isAtOrSpace

def maxCreatorStableIdCodePoints : Nat := 128
def maxCreatorHandleCodePoints : Nat := 64
def maxCreatorDisplayNameCodePoints : Nat := 200

variable (u : Unicode)

def normalizeCreatorStableId : Option PyStr → Option (Option PyStr) :=
  normalizeCreator strip maxCreatorStableIdCodePoints

def normalizeCreatorHandle : Option PyStr → Option (Option PyStr) :=
  normalizeCreator (fun s => u.lower (withoutAts s)) maxCreatorHandleCodePoints

def normalizeCreatorDisplayName : Option PyStr → Option (Option PyStr) :=
  normalizeCreator (fun s => u.nfc (strip s)) maxCreatorDisplayNameCodePoints

/- `validate_creator_attribution_fields`. -/
def validateCreatorAttributionFields (c : SidecarCreator) : Option SidecarCreator := do
  let stableId ← normalizeCreatorStableId c.creatorStableId
  let handle ← normalizeCreatorHandle u c.creatorHandle
  let displayName ← normalizeCreatorDisplayName u c.creatorDisplayName
  if c.creatorAttributionKind.isNone =
      (stableId.isNone && handle.isNone && displayName.isNone) then
    some ⟨c.creatorAttributionKind, stableId, handle, displayName⟩
  else none

/-- What normalizing a creator text needs of its form to be done only once. -/
structure Settling (form : PyStr → PyStr) : Prop where
  again : ∀ s, form (form s) = form s
  calm : ∀ s, s.any isControl = false → (form s).any isControl = false
  surrogate : ∀ s, hasSurrogate (form s) = hasSurrogate s

theorem settling_stableId : Settling strip where
  again := strip_strip
  calm s := any_sublist (strip_sublist s)
  surrogate := surrogate_strip

theorem settling_displayName : Settling fun s => u.nfc (strip s) where
  again s := by rw [(u.nfc_snug _ (snug_strip s)).strip, u.nfc_nfc]
  calm s h := u.nfc_calm _ (any_sublist (strip_sublist s) h)
  surrogate s := by rw [u.nfc_surrogate, surrogate_strip]

theorem withoutAts_head {s : PyStr} {c : CodePoint} (h : (withoutAts s).head? = some c) :
    isAtOrSpace c = false := head_dropWhile h

theorem snug_withoutAts (s : PyStr) : Snug (withoutAts s) := by
  constructor
  · intro c hc
    have hnot := withoutAts_head hc
    simp only [isAtOrSpace, Bool.or_eq_false_iff] at hnot
    exact hnot.2
  · intro c hc
    obtain ⟨dropped, hdropped⟩ := List.dropWhile_suffix (l := strip s) isAtOrSpace
    apply (snug_strip s).2 c
    rw [← hdropped, List.getLast?_append]
    change ((withoutAts s).getLast?).or _ = _
    rw [hc]
    rfl

theorem settling_handle : Settling fun s => u.lower (withoutAts s) where
  again s := by
    have hsnug := u.lower_snug _ (snug_withoutAts s)
    have hat : (withoutAts s).head? ≠ some (.char '@') := by
      intro hhead
      have hnot := withoutAts_head hhead
      simp [isAtOrSpace] at hnot
    have hfront : ∀ c, (u.lower (withoutAts s)).head? = some c → isAtOrSpace c = false := by
      intro c hc
      have hne : c ≠ .char '@' := fun heq => u.lower_at _ hat (heq ▸ hc)
      simp [isAtOrSpace, hne, hsnug.1 c hc]
    have hdone : withoutAts (u.lower (withoutAts s)) = u.lower (withoutAts s) := by
      rw [withoutAts, hsnug.strip, dropWhile_of_head hfront]
    rw [hdone, u.lower_lower]
  calm s h := by
    apply u.lower_calm
    exact any_sublist ((List.dropWhile_suffix isAtOrSpace).sublist.trans (strip_sublist s)) h
  surrogate s := by
    rw [u.lower_surrogate, withoutAts, surrogate_dropWhile (fun _ => rfl), surrogate_strip]

section Normalizing
variable {form : PyStr → PyStr} {limit : Nat} {x y : Option PyStr}

theorem normalizeCreator_again (hform : Settling form) (h : normalizeCreator form limit x = some y) :
    normalizeCreator form limit y = some y := by
  cases x with
  | none =>
    cases h
    rfl
  | some s =>
    unfold normalizeCreator at h
    simp only at h
    split at h
    · cases h
    rename_i hcontrol
    split at h
    · cases h
      rfl
    rename_i hne
    split at h
    · rename_i hshort
      cases h
      have hcalm := hform.calm s (by simpa using hcontrol)
      unfold normalizeCreator
      simp only [hcalm, hform.again, hne, hshort, if_true, if_false, Bool.false_eq_true]
    · cases h

theorem normalizeCreator_short (h : normalizeCreator form limit x = some y) :
    ∀ s ∈ y, s.length ≤ limit := by
  cases x with
  | none =>
    cases h
    simp
  | some s =>
    unfold normalizeCreator at h
    simp only at h
    split at h
    · cases h
    split at h
    · cases h
      simp
    split at h
    · rename_i hshort
      cases h
      simpa using hshort
    · cases h

theorem normalizeCreator_surrogate (hform : Settling form)
    (h : normalizeCreator form limit x = some y) : y.any hasSurrogate = x.any hasSurrogate := by
  cases x with
  | none =>
    cases h
    rfl
  | some s =>
    unfold normalizeCreator at h
    simp only at h
    split at h
    · cases h
    split at h
    · rename_i hempty
      cases h
      have hnone := hform.surrogate s
      rw [hempty] at hnone
      exact hnone
    split at h
    · cases h
      exact hform.surrogate s
    · cases h

end Normalizing

/-- A creator as its own validation returns it. -/
def SidecarCreator.Normal (c : SidecarCreator) : Prop :=
  validateCreatorAttributionFields u c = some c

theorem validateCreator_some {c d : SidecarCreator}
    (h : validateCreatorAttributionFields u c = some d) :
    normalizeCreatorStableId c.creatorStableId = some d.creatorStableId ∧
      normalizeCreatorHandle u c.creatorHandle = some d.creatorHandle ∧
      normalizeCreatorDisplayName u c.creatorDisplayName = some d.creatorDisplayName ∧
      c.creatorAttributionKind = d.creatorAttributionKind ∧
      d.creatorAttributionKind.isNone =
        (d.creatorStableId.isNone && d.creatorHandle.isNone && d.creatorDisplayName.isNone) := by
  unfold validateCreatorAttributionFields at h
  obtain ⟨stableId, hstable, h⟩ := Option.bind_eq_some_iff.mp h
  obtain ⟨handle, hhandle, h⟩ := Option.bind_eq_some_iff.mp h
  obtain ⟨displayName, hdisplay, h⟩ := Option.bind_eq_some_iff.mp h
  split at h
  · rename_i hkind
    cases h
    exact ⟨hstable, hhandle, hdisplay, rfl, hkind⟩
  · cases h

/-- A validated creator is in its normal form. -/
theorem validateCreator_normal {c d : SidecarCreator}
    (h : validateCreatorAttributionFields u c = some d) : d.Normal u := by
  obtain ⟨hstable, hhandle, hdisplay, -, hkind⟩ := validateCreator_some u h
  unfold SidecarCreator.Normal validateCreatorAttributionFields
  have hstable' : normalizeCreatorStableId d.creatorStableId = some d.creatorStableId :=
    normalizeCreator_again settling_stableId hstable
  have hhandle' : normalizeCreatorHandle u d.creatorHandle = some d.creatorHandle :=
    normalizeCreator_again (settling_handle u) hhandle
  have hdisplay' : normalizeCreatorDisplayName u d.creatorDisplayName = some d.creatorDisplayName :=
    normalizeCreator_again (settling_displayName u) hdisplay
  rw [hstable', hhandle', hdisplay']
  exact if_pos hkind

end Creator

section Document

structure SidecarTagDefinition where
  key : CanonicalTagKey
  displayName : canonicalTagDisplayName.Value
deriving DecidableEq

structure SidecarProcessedState where
  collectionKey : MediaCollectionKey
  processedAtMs : Nat
deriving DecidableEq

structure SidecarLocation where
  locationId : MediaLocationId
  libraryId : LibraryId
  relativePath : mediaRelativePath.Value
deriving DecidableEq

inductive SidecarFormat where
  | framenest | kronika
deriving DecidableEq

/-- The arguments of a document's constructor, beyond their own types. -/
structure SidecarFields where
  format : SidecarFormat
  mediaId : MediaId
  mediaKind : MediaKind
  displayTitle : Option mediaDisplayTitle.Value
  description : Option mediaDescription.Value
  tagKeys : List CanonicalTagKey
  tagDefinitions : List SidecarTagDefinition
  contentCategory : ContentCategory
  acquisitionSource : AcquisitionSource
  genreKeys : List MovieGenre
  creator : SidecarCreator
  processed : Option SidecarProcessedState
  createdAtMs : Option Nat
  updatedAtMs : Option Nat
  location : SidecarLocation
deriving DecidableEq

def fewTags (tagKeys : List CanonicalTagKey) : Bool :=
  tagKeys.length ≤ maxMediaTags && tagKeys.Nodup

def fewGenres (genreKeys : List MovieGenre) (contentCategory : ContentCategory) : Bool :=
  genreKeys.length ≤ maxMediaGenres && genreKeys.Nodup &&
    (genreKeys = [] || contentCategory = .movie)

/- The times come together, the later one last. -/
def orderedTimes : Option Nat → Option Nat → Bool
  | none, none => true
  | some created, some updated => created ≤ updated
  | _, _ => false

/- `SidecarDocument.__post_init__` of fields whose creator is validated. -/
def SidecarFields.valid (f : SidecarFields) : Bool :=
  fewTags f.tagKeys && f.tagDefinitions.map SidecarTagDefinition.key = f.tagKeys &&
    fewGenres f.genreKeys f.contentCategory && orderedTimes f.createdAtMs f.updatedAtMs

/-- Closed portable media sidecar v1 document. -/
structure SidecarDocument (u : Unicode) extends SidecarFields where
  isValid : toSidecarFields.valid = true
  normal : creator.Normal u

theorem SidecarDocument.ext {u : Unicode} {d e : SidecarDocument u}
    (h : d.toSidecarFields = e.toSidecarFields) : d = e := by
  cases d
  cases e
  cases h
  rfl

/- The constructor, `none` where it raises; it keeps the creator in its normal form. -/
def SidecarDocument.make (u : Unicode) (f : SidecarFields) : Option (SidecarDocument u) :=
  if hvalid : f.valid = true then
    match hcreator : validateCreatorAttributionFields u f.creator with
    | none => none
    | some creator => some ⟨{ f with creator }, hvalid, validateCreator_normal u hcreator⟩
  else none

theorem SidecarDocument.make_some {u : Unicode} {f : SidecarFields} {d : SidecarDocument u}
    (h : make u f = some d) : ∃ creator, validateCreatorAttributionFields u f.creator = some creator ∧
      d.toSidecarFields = { f with creator } := by
  unfold make at h
  split at h
  · split at h
    · cases h
    · rename_i creator hcreator
      cases h
      exact ⟨creator, hcreator, rfl⟩
  · cases h

theorem SidecarDocument.make_fields {u : Unicode} (d : SidecarDocument u) :
    make u d.toSidecarFields = some d := by
  unfold make
  rw [dif_pos d.isValid]
  split
  · rename_i hnone
    rw [d.normal] at hnone
    cases hnone
  · rename_i creator hcreator
    rw [d.normal] at hcreator
    cases hcreator
    rfl

end Document
end FrameNest.Sidecar
