import FrameNest.X.Claims

/-! The texts an inspected post brings: author, post text and the title made of them. -/
namespace FrameNest.X
open Plain Url

/- `normalize_x_author_text`; the outer `none` is `FrameNestXClaimError`. -/
def normalizeXAuthorText (X : XDomain) (value : Option (List Char)) (maximum : Nat) :
    Option (Option (List Char)) :=
  match value with
  | none => some none
  | some value =>
    let normalized := trim (X.text.nfc value)
    if normalized = [] then some none
    else if maximum < normalized.length ∨ normalized.any isControl = true then none
    else some (some normalized)

/- `handle.lower().lstrip("@")`, where something is left. -/
def foldHandle (X : XDomain) (handle : List Char) : Option (List Char) :=
  let folded := (X.tables.lower handle).dropWhile (· = '@')
  if folded = [] then none else some folded

/- `normalize_x_creator`. -/
def normalizeXCreator (X : XDomain) (stableId handle displayName : Option (List Char)) :
    Option (Option (List Char) × Option (List Char) × Option (List Char)) := do
  let stable ← normalizeXAuthorText X stableId maxAuthorStableIdCodePoints
  let normalized ← normalizeXAuthorText X handle maxHandleCodePoints
  let display ← normalizeXAuthorText X displayName maxAuthorDisplayNameCodePoints
  some (stable, normalized.bind (foldHandle X), display)

/- `_bound_post_text`. -/
def boundPostText (value : Option (List Char)) : Option (List Char) :=
  value.map fun text => (trim text).take maxDisplayTitleCodePoints

/-! `_first_useful_sentence`. With `(?i)` a class of ASCII letters also matches the four letters
whose case folds into it. -/

def foldsToAscii (c : Char) : Bool :=
  c = '\u0130' || c = '\u0131' || c = '\u017f' || c = '\u212a'

def tagChar (c : Char) : Bool := c.isAlphanum || c = '_' || foldsToAscii c

/- `(?i)https?://\S+`: the length of the match at the front, zero if there is none. -/
def linkLength (s : List Char) : Nat :=
  let letter := fun (c : Char) (x : Option Char) => x.any fun d => d.toLower = c
  let sLetter := fun x : Option Char => x.any fun d => d.toLower = 's' || d = '\u017f'
  let rest := fun n => ((s.drop n).takeWhile fun c => !isSpace c).length
  let colon := fun n => s[n]? = some ':' && s[n + 1]? = some '/' && s[n + 2]? = some '/'
  if letter 'h' s[0]? && letter 't' s[1]? && letter 't' s[2]? && letter 'p' s[3]? then
    if sLetter s[4]? && colon 5 && 0 < rest 8 then 8 + rest 8
    else if colon 4 && 0 < rest 7 then 7 + rest 7
    else 0
  else 0

/- `(^|\s)#[A-Za-z0-9_]+` and the same with `@`; `start` is the beginning of the text. -/
def markLength (start : Bool) (s : List Char) : Nat :=
  let mark := fun (n : Nat) =>
    let tail := ((s.drop (n + 1)).takeWhile tagChar).length
    if s[n]?.any (fun c => c = '#' || c = '@') && 0 < tail then n + 1 + tail else 0
  if start && 0 < mark 0 then mark 0
  else if s.head?.any isSpace then mark 1
  else 0

def matchLength (start : Bool) (s : List Char) : Nat :=
  if 0 < linkLength s then linkLength s else markLength start s

/- The text with every match replaced by a space; `skip` counts the rest of a match. -/
def withoutMarks : Bool → Nat → List Char → List Char
  | _, _, [] => []
  | _, skip + 1, _ :: rest => withoutMarks false skip rest
  | start, 0, c :: rest =>
    match matchLength start (c :: rest) with
    | 0 => c :: withoutMarks false 0 rest
    | n + 1 => ' ' :: withoutMarks false n rest

/- `re.split(r"[.!?](?:\s|$)", s, maxsplit=1)[0]`. -/
def firstSentence : List Char → List Char
  | [] => []
  | c :: rest =>
    if (c = '.' || c = '!' || c = '?') && rest.head?.all isSpace then []
    else c :: firstSentence rest

def firstUsefulSentence (X : XDomain) (value : List Char) : Option (List Char) :=
  let normalized := trim (collapse (X.text.nfc value))
  if normalized = [] then none
  else if trim (withoutMarks true 0 normalized) = [] then none
  else
    let sentence := trim (firstSentence normalized)
    if sentence = [] ∨ (3 < sentence.length ∧ sentence.any Char.isAlphanum = false) then none
    else some (sentence.take maxDisplayTitleCodePoints)

/- `_bounded_creator_label`. -/
def boundedCreatorLabel (X : XDomain) (handle : List Char) : Option (List Char) :=
  (normalizeXAuthorText X (some handle) maxHandleCodePoints).map fun cleaned =>
    cleaned.getD "creator".toList

/- `x_title_from_post_post` for the first item of a post. -/
def xTitleFromPostPost (X : XDomain) (postText creatorHandle : Option (List Char))
    (mediaTypeLabel postId : List Char) : Option (List Char) := do
  let sentence := postText.bind fun text =>
    if trim text = [] then none else firstUsefulSentence X text
  let label ← match sentence, creatorHandle with
    | some sentence, _ => some sentence
    | none, some handle =>
      if handle = [] then some (defaultXTitle postId)
      else (boundedCreatorLabel X handle).map fun name => name ++ ' ' :: mediaTypeLabel
    | none, none => some (defaultXTitle postId)
  some ((X.text.nfc label).take maxDisplayTitleCodePoints)

def mediaTypeLabel : XMediaType → List Char
  | .video | .animatedGif => "video".toList
  | .image => "image".toList

end FrameNest.X

/-! What the coordinator makes of an inspection, and for which texts the claim goes on. -/
namespace FrameNest.X
open Plain

/-- A source asset as the extractor reports it. -/
structure XNormalizedAssetDescriptor where
  ordinal : Int
  mediaType : XMediaType
  expectedMime : List Char
  sourceMediaKey : Option (List Char) := none
  width : Option Int := none
  height : Option Int := none
  durationSeconds : Option Int := none
  selectedVariant : Option (List Char) := none
deriving DecidableEq

/-- An inspection as the extractor reports it. -/
structure XNormalizedInspection where
  canonicalUrl : Option (List Char)
  postText : Option (List Char)
  postedAtMs : Option Int
  authorStableId : Option (List Char)
  authorHandle : Option (List Char)
  authorDisplayName : Option (List Char)
  assets : List XNormalizedAssetDescriptor
  extractorVersion : Option (List Char)
  failureCode : Option String := none
deriving DecidableEq

/-- The advisory columns that `_extract` derives. -/
structure DerivedTexts where
  stableId : Option (List Char)
  handle : Option (List Char)
  displayName : Option (List Char)
  postText : Option (List Char)
  title : List Char
deriving DecidableEq

variable {X : XDomain}

/- The texts of an inspection; `none` is the `FrameNestXClaimError` of a normalizer. -/
def deriveTexts (current : XPostClaim X) (inspection : XNormalizedInspection)
    (first : XNormalizedAssetDescriptor) : Option DerivedTexts := do
  let (stableId, handle, displayName) ← normalizeXCreator X inspection.authorStableId
    inspection.authorHandle inspection.authorDisplayName
  let postText := boundPostText inspection.postText
  let title ← xTitleFromPostPost X postText (handle <|> current.sourceAuthorHandle)
    (mediaTypeLabel first.mediaType) current.xPostId
  some { stableId, handle, displayName, postText, title }

/- The canonical URL the inspection brings, where it is one. -/
def inspectedUrl (current : XPostClaim X) (inspection : XNormalizedInspection) : List Char :=
  match inspection.canonicalUrl with
  | none => current.canonicalUrl
  | some url =>
    match acceptXPostUrl X.tables url with
    | .ok validated => validated.canonicalUrl
    | .error _ => current.canonicalUrl

/-- The claim that `_extract` saves once an inspection has assets. -/
def extracted (current : XPostClaim X) (nowMs : Nat) (inspection : XNormalizedInspection)
    (first : XNormalizedAssetDescriptor) : Option (XPostClaim X) := do
  let texts ← deriveTexts current inspection first
  current.advance .acquiring nowMs fun row => { row with
    canonicalUrl := inspectedUrl current inspection
    sourceAuthorStableId := texts.stableId
    sourceAuthorHandle := texts.handle
    sourceAuthorDisplayName := texts.displayName
    sourcePostText := texts.postText
    sourcePostedAtMs := inspection.postedAtMs
    extractorVersion := inspection.extractorVersion
    discoveredAssetCount := inspection.assets.length
    title := some texts.title }

/-! Author texts. -/

section Authors
variable {maximum : Nat} {value : List Char}

theorem isAdvisory_iff {allowNewline : Bool} {s : List Char} :
    isAdvisory X maximum allowNewline s = true ↔ s ≠ [] ∧ trim s = s ∧ s.length ≤ maximum ∧
      X.text.nfc s = s ∧ ∀ c ∈ s, isControl c = false ∨ (allowNewline = true ∧ c = '\n') := by
  simp [isAdvisory, and_assoc]

/- An author text that is not refused: blank, or short enough and free of control characters. -/
def isAuthorText (X : XDomain) (maximum : Nat) (value : List Char) : Bool :=
  (trim (X.text.nfc value)).length ≤ maximum && !(trim (X.text.nfc value)).any isControl

theorem normalizeXAuthorText_some :
    normalizeXAuthorText X (some value) maximum = if isAuthorText X maximum value then
      some (if trim (X.text.nfc value) = [] then none else some (trim (X.text.nfc value)))
    else none := by
  unfold normalizeXAuthorText isAuthorText
  by_cases hnil : trim (X.text.nfc value) = []
  · simp [hnil]
  · by_cases hlong : maximum < (trim (X.text.nfc value)).length
    · simp [hnil, hlong]
    · by_cases hcontrol : (trim (X.text.nfc value)).any isControl = true
      · simp [hnil, hcontrol]
      · have hshort : (trim (X.text.nfc value)).length ≤ maximum := by omega
        simp [hnil, hcontrol, hlong, hshort]

/-- What is left of an author text is a valid column. -/
theorem authorText_advisory (h : isAuthorText X maximum value = true)
    (hne : trim (X.text.nfc value) ≠ []) :
    isAdvisory X maximum false (trim (X.text.nfc value)) = true := by
  simp only [isAuthorText, Bool.and_eq_true, decide_eq_true_eq, Bool.not_eq_true'] at h
  rw [isAdvisory_iff]
  refine ⟨hne, trim_trim _, h.1, ?_, fun c hc => .inl ?_⟩
  · exact X.text.nfc_infix _ _ (trim_inside _) (X.text.nfc_nfc value)
  · have hall := List.any_eq_false.mp h.2 c hc
    simpa using hall

end Authors

/-! The title. -/

section Titles
variable {postId label : List Char}

/-- What the title is made of is a title. -/
theorem titled_of_label (h : isAdvisory X maxDisplayTitleCodePoints false label = true) :
    isAdvisory X maxDisplayTitleCodePoints false
      ((X.text.nfc label).take maxDisplayTitleCodePoints) = true := by
  obtain ⟨-, -, hlength, hnfc, -⟩ := isAdvisory_iff.mp h
  rw [hnfc, List.take_of_length_le hlength]
  exact h

theorem firstSentence_start (s : List Char) : firstSentence s <+: s := by
  induction s with
  | nil => exact List.prefix_refl _
  | cons c rest ih =>
    unfold firstSentence
    split
    · exact List.nil_prefix
    · exact List.cons_prefix_cons.mpr ⟨rfl, ih⟩

/-- The sentence taken from a valid post text is a valid title. -/
theorem sentence_advisory {text sentence : List Char}
    (htext : isAdvisory X maxDisplayTitleCodePoints true text = true)
    (h : firstUsefulSentence X text = some sentence) :
    isAdvisory X maxDisplayTitleCodePoints false sentence = true := by
  obtain ⟨-, -, hlength, hnfc, hcontrol⟩ := isAdvisory_iff.mp htext
  unfold firstUsefulSentence at h
  rw [hnfc] at h
  dsimp only at h
  have hinside : trim (firstSentence (trim (collapse text))) <:+: collapse text :=
    (trim_inside _).trans ((firstSentence_start _).isInfix.trans (trim_inside _))
  have hshort : (trim (firstSentence (trim (collapse text)))).length ≤ maxDisplayTitleCodePoints :=
    hinside.length_le.trans ((collapse_length text).trans hlength)
  split at h
  · cases h
  · split at h
    · cases h
    · split at h
      · cases h
      · rename_i hne
        rw [List.take_of_length_le hshort] at h
        have heq : trim (firstSentence (trim (collapse text))) = sentence := Option.some.inj h
        rw [← heq]
        rw [isAdvisory_iff]
        refine ⟨fun hnil => hne (.inl hnil), trim_trim _, hshort,
          X.text.nfc_infix _ _ hinside (nfc_collapse hnfc), fun c hc => .inl ?_⟩
        -- The only control character that the text may hold is white space, and collapsed.
        rcases mem_collapse (hinside.subset hc) with rfl | ⟨hmem, hspace⟩
        · decide
        · rcases hcontrol c hmem with hplain | ⟨-, rfl⟩
          · exact hplain
          · revert hspace
            decide

theorem ascii_advisory {s : List Char} (hne : s ≠ []) (hsnug : Snug s)
    (hlength : s.length ≤ maxDisplayTitleCodePoints)
    (hascii : ∀ c ∈ s, c.toNat < 128 ∧ isControl c = false) :
    isAdvisory X maxDisplayTitleCodePoints false s = true := by
  rw [isAdvisory_iff]
  exact ⟨hne, hsnug.trim, hlength, X.text.nfc_ascii s fun c hc => (hascii c hc).1,
    fun c hc => .inl (hascii c hc).2⟩

theorem digits_plain (hid : isPostId postId = true) :
    ∀ c ∈ postId, c.toNat < 128 ∧ isControl c = false ∧ isSpace c = false := by
  intro c hc
  have hvisible := (isPostId_chars hid).2.2.1
  obtain ⟨hspace, hcontrol, -, hascii⟩ := Url.visible_not_space (List.all_eq_true.mp hvisible c hc)
  refine ⟨?_, hcontrol, hspace⟩
  simpa [Url.isAscii] using hascii

theorem defaultTitle_advisory (hid : isPostId postId = true) :
    isAdvisory X maxDisplayTitleCodePoints false (defaultXTitle postId) = true := by
  obtain ⟨hne, hlength, -⟩ := isPostId_chars hid
  have hstart : "X post ".toList = ['X', ' ', 'p', 'o', 's', 't', ' '] := by decide
  have hdigits := digits_plain hid
  unfold defaultXTitle
  rw [hstart]
  apply ascii_advisory
  · simp
  · refine ⟨fun c hc => ?_, fun c hc => ?_⟩
    · cases hc
      decide
    · rw [List.getLast?_append_of_ne_nil _ hne] at hc
      exact (hdigits c (List.mem_of_getLast? hc)).2.2
  · rw [List.length_append]
    have hbound : maxDisplayTitleCodePoints = 240 := rfl
    simp only [List.length_cons, List.length_nil]
    omega
  · intro c hc
    rcases List.mem_append.mp hc with hc | hc
    · have hall : ['X', ' ', 'p', 'o', 's', 't', ' '].all
          (fun c => decide (c.toNat < 128) && !isControl c) = true := by decide
      simpa using List.all_eq_true.mp hall c hc
    · exact ⟨(hdigits c hc).1, (hdigits c hc).2.1⟩

theorem mediaTypeLabel_plain (mediaType : XMediaType) : (mediaTypeLabel mediaType).all
    (fun c => decide (c.toNat < 128) && !isControl c && !isSpace c) = true ∧
      (mediaTypeLabel mediaType).length = 5 := by
  cases mediaType <;> decide

/-- A valid handle and the kind of the medium make a valid title. -/
theorem creatorTitle_advisory {handle : List Char} (mediaType : XMediaType)
    (h : isAuthorHandle X handle = true) :
    isAdvisory X maxDisplayTitleCodePoints false (handle ++ ' ' :: mediaTypeLabel mediaType) =
      true := by
  simp only [isAuthorHandle, Bool.and_eq_true] at h
  obtain ⟨hne, htrim, hlength, hnfc, hcontrol⟩ := isAdvisory_iff.mp h.1.1
  obtain ⟨hlabel, hfive⟩ := mediaTypeLabel_plain mediaType
  have hplain : ∀ c ∈ mediaTypeLabel mediaType,
      c.toNat < 128 ∧ isControl c = false ∧ isSpace c = false := by
    intro c hc
    simpa [and_assoc] using List.all_eq_true.mp hlabel c hc
  have hlabel' : mediaTypeLabel mediaType ≠ [] := by
    intro hnil
    rw [hnil] at hfive
    cases hfive
  rw [isAdvisory_iff]
  refine ⟨by simp, Snug.trim ⟨fun c hc => ?_, fun c hc => ?_⟩, ?_, ?_, fun c hc => .inl ?_⟩
  · rw [List.head?_append_of_ne_nil _ hne] at hc
    exact (trim_iff.mp htrim).1 c hc
  · rw [List.getLast?_append_of_ne_nil _ (by simp), List.getLast?_cons] at hc
    cases hlast : (mediaTypeLabel mediaType).getLast? with
    | none => exact absurd (List.getLast?_eq_none_iff.mp hlast) hlabel'
    | some d =>
      rw [hlast] at hc
      have hcd : d = c := by simpa using hc
      rw [← hcd]
      exact (hplain d (List.mem_of_getLast? hlast)).2.2
  · rw [List.length_append, List.length_cons, hfive]
    have hhandle : maxHandleCodePoints = 64 := rfl
    have htitle : maxDisplayTitleCodePoints = 240 := rfl
    omega
  · exact Normalizer.nfc_join hnfc (X.text.nfc_ascii _ fun c hc => (hplain c hc).1)
  · rcases List.mem_append.mp hc with hc | hc
    · rcases hcontrol c hc with hgood | ⟨hfalse, -⟩
      · exact hgood
      · cases hfalse
    · rcases List.mem_cons.mp hc with rfl | hc
      · decide
      · exact (hplain c hc).2.1

/-- Valid texts give a valid title. -/
theorem xTitle_advisory {postText handle : Option (List Char)} (mediaType : XMediaType)
    (hid : isPostId postId = true)
    (htext : ∀ t ∈ postText, isAdvisory X maxDisplayTitleCodePoints true t = true)
    (hhandle : ∀ h ∈ handle, isAuthorHandle X h = true) :
    ∃ title, xTitleFromPostPost X postText handle (mediaTypeLabel mediaType) postId = some title ∧
      isAdvisory X maxDisplayTitleCodePoints false title = true := by
  unfold xTitleFromPostPost
  have hsentence : ∀ s, (postText.bind fun text =>
      if trim text = [] then none else firstUsefulSentence X text) = some s →
        isAdvisory X maxDisplayTitleCodePoints false s = true := by
    intro s hs
    obtain ⟨text, htext', hs⟩ := Option.bind_eq_some_iff.mp hs
    split at hs
    · cases hs
    · exact sentence_advisory (htext text htext') hs
  cases hcase : postText.bind fun text =>
      if trim text = [] then none else firstUsefulSentence X text with
  | some sentence => exact ⟨_, rfl, titled_of_label (hsentence sentence hcase)⟩
  | none =>
    cases handle with
    | none => exact ⟨_, rfl, titled_of_label (defaultTitle_advisory hid)⟩
    | some handle =>
      have hvalid : isAuthorHandle X handle = true := hhandle handle rfl
      have hadvisory : isAdvisory X maxHandleCodePoints false handle = true := by
        simp only [isAuthorHandle, Bool.and_eq_true] at hvalid
        exact hvalid.1.1
      obtain ⟨hne, htrim, hlength, hnfc, hcontrol⟩ := isAdvisory_iff.mp hadvisory
      have hlabel : boundedCreatorLabel X handle = some handle := by
        have hauthor : isAuthorText X maxHandleCodePoints handle = true := by
          have hnone : handle.any isControl = false := by
            rw [List.any_eq_false]
            intro c hc
            simpa using hcontrol c hc
          simp [isAuthorText, hnfc, htrim, hlength, hnone]
        rw [boundedCreatorLabel, normalizeXAuthorText_some, if_pos hauthor, hnfc, htrim,
          if_neg hne]
        rfl
      refine ⟨_, ?_, titled_of_label (creatorTitle_advisory mediaType hvalid)⟩
      simp [hne, hlabel]

end Titles

/-! For which texts an acquisition goes on. -/

/-- The columns that the derived texts fill pass the checks of the claim. -/
structure DerivedTexts.Accepted (X : XDomain) (texts : DerivedTexts) : Prop where
  stableId : ∀ s ∈ texts.stableId, isAdvisory X maxAuthorStableIdCodePoints false s = true
  handle : ∀ s ∈ texts.handle, isAuthorHandle X s = true
  displayName : ∀ s ∈ texts.displayName, isAdvisory X maxAuthorDisplayNameCodePoints false s = true
  postText : ∀ s ∈ texts.postText, isAdvisory X maxPostTextCodePoints true s = true
  title : isAdvisory X maxDisplayTitleCodePoints false texts.title = true

/-- What a title is to be. -/
structure IsTitle (X : XDomain) (title : List Char) : Prop where
  nonempty : title ≠ []
  short : title.length ≤ 240
  normal : X.text.nfc title = title
  snug : Snug title
  plain : ∀ c ∈ title, isControl c = false

/-- Whatever else of the inspection a claim records is in order. -/
structure OthersFit (current : XPostClaim X) (nowMs : Nat) (inspection : XNormalizedInspection) :
    Prop where
  clock : current.createdAtMs ≤ nowMs
  canonicalUrl : ∀ url ∈ inspection.canonicalUrl, ∀ s, acceptXPostUrl X.tables url = .ok s →
    s.postId = current.xPostId
  postedAt : ∀ t ∈ inspection.postedAtMs, 0 ≤ t
  version : ∀ v ∈ inspection.extractorVersion, isVersionToken v = true
  assets : inspection.assets.length ≤ maxAssetsPerPost
  counts : current.successCount + current.failureCount ≤ inspection.assets.length

/-- The promise for one inspection: its texts become valid columns and a proper title, and the
claim advances. -/
structure NeverSinks (current : XPostClaim X) (inspection : XNormalizedInspection)
    (first : XNormalizedAssetDescriptor) : Prop where
  derived : ∃ texts, deriveTexts current inspection first = some texts ∧ texts.Accepted X ∧
    IsTitle X texts.title
  advances : ∀ nowMs, OthersFit current nowMs inspection →
    ∃ next, extracted current nowMs inspection first = some next ∧ next.state = .acquiring

/- The post text that is kept: not blank, no white space at the cut, in NFC, and no control
   character but the newline. -/
def isKeptText (X : XDomain) (text : List Char) : Bool :=
  let kept := (trim text).take maxDisplayTitleCodePoints
  trim text ≠ [] && (trim text)[239]?.all (fun c => !isSpace c) && X.text.nfc kept = kept &&
    kept.all fun c => !isControl c || c = '\n'

/-- The texts for which the promise is kept. -/
structure TextsFit (X : XDomain) (inspection : XNormalizedInspection) : Prop where
  stableId : ∀ s ∈ inspection.authorStableId, isAuthorText X maxAuthorStableIdCodePoints s = true
  displayName : ∀ s ∈ inspection.authorDisplayName,
    isAuthorText X maxAuthorDisplayNameCodePoints s = true
  handle : ∀ s ∈ inspection.authorHandle, isAuthorText X maxHandleCodePoints s = true ∧
    ∀ handle ∈ foldHandle X (trim (X.text.nfc s)), isAuthorHandle X handle = true
  postText : ∀ s ∈ inspection.postText, isKeptText X s = true

section Promise
variable {current : XPostClaim X} {inspection : XNormalizedInspection}
  {first : XNormalizedAssetDescriptor}

theorem isTitle_of_advisory {title : List Char}
    (h : isAdvisory X maxDisplayTitleCodePoints false title = true) : IsTitle X title := by
  obtain ⟨hne, htrim, hlength, hnfc, hcontrol⟩ := isAdvisory_iff.mp h
  refine ⟨hne, hlength, hnfc, trim_iff.mp htrim, fun c hc => ?_⟩
  rcases hcontrol c hc with hplain | ⟨hfalse, -⟩
  · exact hplain
  · cases hfalse

theorem snug_take {l : List Char} (h : Snug l) :
    Snug (l.take maxDisplayTitleCodePoints) ↔ l[239]?.all (fun c => !isSpace c) = true := by
  have hlast : (l.take maxDisplayTitleCodePoints).getLast? = l[239]?.or l.getLast? := by
    rw [List.getLast?_take]
    rfl
  have hhead : (l.take maxDisplayTitleCodePoints).head? = l.head? := by
    cases l <;> rfl
  constructor
  · intro hsnug
    cases hget : l[239]? with
    | none => rfl
    | some c =>
      have hspace := hsnug.2 c (by rw [hlast, hget]; rfl)
      simp [hspace]
  · intro hall
    refine ⟨fun c hc => h.1 c (by rwa [hhead] at hc), fun c hc => ?_⟩
    rw [hlast] at hc
    cases hget : l[239]? with
    | none =>
      rw [hget] at hc
      exact h.2 c hc
    | some d =>
      rw [hget] at hc hall
      cases hc
      simpa using hall

/-- The bounded post text is a valid column for exactly the texts that are kept. -/
theorem boundPostText_advisory {text : List Char} (maximum : Nat)
    (hmaximum : maxDisplayTitleCodePoints ≤ maximum) :
    isAdvisory X maximum true ((trim text).take maxDisplayTitleCodePoints) = true ↔
      isKeptText X text = true := by
  have hne : (trim text).take maxDisplayTitleCodePoints ≠ [] ↔ trim text ≠ [] := by
    cases htrim : trim text with
    | nil => simp
    | cons c rest => simp [maxDisplayTitleCodePoints]
  have hlength : ((trim text).take maxDisplayTitleCodePoints).length ≤ maximum := by
    rw [List.length_take]
    omega
  rw [isAdvisory_iff, trim_iff, hne, snug_take (snug_trim text), and_iff_right hlength]
  simp [isKeptText, and_assoc]

theorem foldHandle_nil : foldHandle X [] = none := by
  have hlower : X.tables.lower [] = [] := X.tables.lower_ascii [] rfl
  simp [foldHandle, hlower]

/-- An author text where there is one. -/
theorem normalizeXAuthorText_iff {value : Option (List Char)} {maximum : Nat}
    {r : Option (List Char)} : normalizeXAuthorText X value maximum = some r ↔
      (∀ s ∈ value, isAuthorText X maximum s = true) ∧ r = value.bind fun s =>
        if trim (X.text.nfc s) = [] then none else some (trim (X.text.nfc s)) := by
  cases value with
  | none =>
    constructor
    · intro h
      cases h
      exact ⟨nofun, rfl⟩
    · rintro ⟨-, rfl⟩
      rfl
  | some s =>
    rw [normalizeXAuthorText_some]
    by_cases h : isAuthorText X maximum s = true
    · rw [if_pos h, Option.some.injEq]
      exact ⟨fun hr => ⟨by simpa using h, hr.symm⟩, fun hr => hr.2.symm⟩
    · rw [if_neg h]
      exact ⟨nofun, fun hr => absurd (hr.1 s rfl) h⟩

theorem authorColumn {value : Option (List Char)} {maximum : Nat}
    (h : ∀ s ∈ value, isAuthorText X maximum s = true) : ∀ s ∈ value.bind fun s =>
      if trim (X.text.nfc s) = [] then none else some (trim (X.text.nfc s)),
        isAdvisory X maximum false s = true := by
  intro s hs
  obtain ⟨t, ht, hs⟩ := Option.bind_eq_some_iff.mp hs
  split at hs
  · cases hs
  · rename_i hne
    cases hs
    exact authorText_advisory (h t ht) hne

/- The handle column of an inspection. -/
def handleColumn (X : XDomain) (inspection : XNormalizedInspection) : Option (List Char) :=
  inspection.authorHandle.bind fun s => foldHandle X (trim (X.text.nfc s))

theorem normalizeXCreator_iff {r : Option (List Char) × Option (List Char) × Option (List Char)} :
    normalizeXCreator X inspection.authorStableId inspection.authorHandle
      inspection.authorDisplayName = some r ↔
      ((∀ s ∈ inspection.authorStableId, isAuthorText X maxAuthorStableIdCodePoints s = true) ∧
        (∀ s ∈ inspection.authorHandle, isAuthorText X maxHandleCodePoints s = true) ∧
        (∀ s ∈ inspection.authorDisplayName,
          isAuthorText X maxAuthorDisplayNameCodePoints s = true)) ∧
      r = (inspection.authorStableId.bind fun s =>
          if trim (X.text.nfc s) = [] then none else some (trim (X.text.nfc s)),
        handleColumn X inspection,
        inspection.authorDisplayName.bind fun s =>
          if trim (X.text.nfc s) = [] then none else some (trim (X.text.nfc s))) := by
  have hfold : (inspection.authorHandle.bind fun s =>
      if trim (X.text.nfc s) = [] then none else some (trim (X.text.nfc s))).bind (foldHandle X) =
        handleColumn X inspection := by
    unfold handleColumn
    cases inspection.authorHandle with
    | none => rfl
    | some s =>
      by_cases hnil : trim (X.text.nfc s) = []
      · simp [hnil, foldHandle_nil]
      · simp [hnil]
  unfold normalizeXCreator
  simp only [Option.bind_eq_bind, Option.bind_eq_some_iff, normalizeXAuthorText_iff]
  constructor
  · rintro ⟨stable, ⟨hstable, rfl⟩, handle, ⟨hhandle, rfl⟩, display, ⟨hdisplay, rfl⟩, hr⟩
    rw [hfold] at hr
    exact ⟨⟨hstable, hhandle, hdisplay⟩, (Option.some.inj hr).symm⟩
  · rintro ⟨⟨hstable, hhandle, hdisplay⟩, rfl⟩
    refine ⟨_, ⟨hstable, rfl⟩, _, ⟨hhandle, rfl⟩, _, ⟨hdisplay, rfl⟩, ?_⟩
    rw [hfold]

/-- What is derived, for the author texts that are not refused. -/
theorem deriveTexts_iff {texts : DerivedTexts} : deriveTexts current inspection first = some texts ↔
    ∃ stable handle display, normalizeXCreator X inspection.authorStableId inspection.authorHandle
        inspection.authorDisplayName = some (stable, handle, display) ∧
      ∃ title, xTitleFromPostPost X (boundPostText inspection.postText)
          (handle <|> current.sourceAuthorHandle) (mediaTypeLabel first.mediaType)
          current.xPostId = some title ∧
        texts = ⟨stable, handle, display, boundPostText inspection.postText, title⟩ := by
  unfold deriveTexts
  simp only [Option.bind_eq_bind, Option.bind_eq_some_iff, Prod.exists]
  constructor
  · rintro ⟨stable, handle, display, hcreator, title, htitle, htexts⟩
    exact ⟨stable, handle, display, hcreator, title, htitle, (Option.some.inj htexts).symm⟩
  · rintro ⟨stable, handle, display, hcreator, title, htitle, rfl⟩
    exact ⟨stable, handle, display, hcreator, title, htitle, rfl⟩

theorem currentHandle (current : XPostClaim X) :
    ∀ h ∈ current.sourceAuthorHandle, isAuthorHandle X h = true := by
  have hvalid := current.valid
  simp only [XPostClaimRow.isValid, XPostClaimRow.advisoryValid, Bool.and_eq_true] at hvalid
  intro h hh
  have hall := hvalid.1.1.2.1.1.2
  rw [Option.mem_def.mp hh] at hall
  exact hall

theorem currentPostId (current : XPostClaim X) : isPostId current.xPostId = true := by
  have hvalid := current.valid
  simp only [XPostClaimRow.isValid, XPostClaimRow.sourceValid, Bool.and_eq_true] at hvalid
  have hsource := hvalid.1.1.1.1.1
  split at hsource
  · rename_i identity _
    have hcanonical := identity.valid
    simp only [canonicalFor, Bool.and_eq_true] at hcanonical
    have heq : identity.postId = current.xPostId := by simpa using hsource
    rw [← heq]
    exact hcanonical.1
  · cases hsource

/-- Texts that fit are derived into valid columns. -/
theorem TextsFit.derived (h : TextsFit X inspection) :
    ∃ texts, deriveTexts current inspection first = some texts ∧ texts.Accepted X := by
  have hcreator := normalizeXCreator_iff.mpr
    ⟨⟨h.stableId, fun s hs => (h.handle s hs).1, h.displayName⟩, rfl⟩
  have hhandle : ∀ k ∈ handleColumn X inspection, isAuthorHandle X k = true := by
    intro k hk
    obtain ⟨s, hs, hk⟩ := Option.bind_eq_some_iff.mp hk
    exact (h.handle s hs).2 k hk
  have hcreator' : ∀ k ∈ (handleColumn X inspection <|> current.sourceAuthorHandle),
      isAuthorHandle X k = true := by
    intro k hk
    cases hcolumn : handleColumn X inspection with
    | none =>
      rw [hcolumn] at hk
      exact currentHandle current k hk
    | some j =>
      rw [hcolumn] at hk
      exact hhandle k (by rw [hcolumn]; exact hk)
  have htext : ∀ (maximum : Nat), maxDisplayTitleCodePoints ≤ maximum →
      ∀ t ∈ boundPostText inspection.postText, isAdvisory X maximum true t = true := by
    intro maximum hmaximum t ht
    obtain ⟨s, hs, rfl⟩ := Option.map_eq_some_iff.mp ht
    exact (boundPostText_advisory maximum hmaximum).mpr (h.postText s hs)
  obtain ⟨title, htitle, hadvisory⟩ := xTitle_advisory first.mediaType (currentPostId current)
    (htext _ (Nat.le_refl _)) hcreator'
  refine ⟨_, deriveTexts_iff.mpr ⟨_, _, _, hcreator, title, htitle, rfl⟩, ?_⟩
  exact ⟨authorColumn h.stableId, hhandle, authorColumn h.displayName,
    htext _ (by decide), hadvisory⟩

/-- Only texts that fit are derived into valid columns. -/
theorem textsFit_of_derived {texts : DerivedTexts}
    (h : deriveTexts current inspection first = some texts) (haccepted : texts.Accepted X) :
    TextsFit X inspection := by
  obtain ⟨stable, handle, display, hcreator, title, -, rfl⟩ := deriveTexts_iff.mp h
  obtain ⟨⟨hstable, hhandle, hdisplay⟩, heq⟩ := normalizeXCreator_iff.mp hcreator
  simp only [Prod.mk.injEq] at heq
  refine ⟨hstable, hdisplay, fun s hs => ⟨hhandle s hs, fun k hk => ?_⟩, fun s hs => ?_⟩
  · apply haccepted.handle
    dsimp only
    rw [heq.2.1, handleColumn, Option.mem_def.mp hs]
    exact hk
  · have hcolumn := haccepted.postText ((trim s).take maxDisplayTitleCodePoints)
      (by rw [boundPostText, Option.mem_def.mp hs]; rfl)
    exact (boundPostText_advisory _ (by decide)).mp hcolumn

theorem XSourceIdentity.displayUrl (s : XSourceIdentity X.tables) :
    isDisplayUrl X s.canonicalUrl s.postId = true := by
  have hvalid := s.valid
  simp only [canonicalFor, Bool.and_eq_true] at hvalid
  obtain ⟨-, hparts⟩ := hvalid
  rw [isDisplayUrl]
  cases hsplit : splitUrl X.tables s.canonicalUrl with
  | none =>
    rw [hsplit] at hparts
    cases hparts
  | some parts =>
    simp only [hsplit, Bool.and_eq_true] at hparts ⊢
    exact hparts.1

theorem inspectedUrl_valid {nowMs : Nat} (h : OthersFit current nowMs inspection) :
    isDisplayUrl X (inspectedUrl current inspection) current.xPostId = true := by
  have hcurrent : isDisplayUrl X current.canonicalUrl current.xPostId = true := by
    have hvalid := current.valid
    simp only [XPostClaimRow.isValid, XPostClaimRow.sourceValid, Bool.and_eq_true] at hvalid
    exact hvalid.1.1.1.1.2
  unfold inspectedUrl
  split
  · exact hcurrent
  · rename_i url hurl
    split
    · rename_i validated haccept
      rw [← h.canonicalUrl url hurl validated haccept]
      exact validated.displayUrl
    · exact hcurrent

/-- With valid texts and everything else in order the claim advances. -/
theorem extracted_some {texts : DerivedTexts} {nowMs : Nat} (hstate : current.state = .extracting)
    (htexts : deriveTexts current inspection first = some texts) (haccepted : texts.Accepted X)
    (h : OthersFit current nowMs inspection) :
    ∃ next, extracted current nowMs inspection first = some next ∧ next.state = .acquiring := by
  have hvalid := current.valid
  simp only [XPostClaimRow.isValid, Bool.and_eq_true] at hvalid
  obtain ⟨⟨⟨⟨hsource, hownership⟩, -⟩, hextraction⟩, houtcome⟩ := hvalid
  have hallowed : XAcquisitionState.acquiring ∈ allowedPostTransitions current.state := by
    rw [hstate]
    decide
  unfold extracted
  rw [htexts, Option.bind_eq_bind, Option.bind_some, XPostClaim.advance, if_pos hallowed]
  unfold constructPost
  rw [dif_pos]
  · exact ⟨_, rfl, rfl⟩
  · have hoptions : ∀ {α : Type} {p : α → Bool} {o : Option α}, (∀ a ∈ o, p a = true) →
        o.all p = true := by
      intro α p o hall
      cases o with
      | none => rfl
      | some a => exact hall a rfl
    simp only [XPostClaimRow.isValid, Bool.and_eq_true]
    refine ⟨⟨⟨⟨?_, ?_⟩, ?_⟩, ?_⟩, ?_⟩
    · simp only [XPostClaimRow.sourceValid, Bool.and_eq_true] at hsource ⊢
      exact ⟨hsource.1, inspectedUrl_valid h⟩
    · simp only [XPostClaimRow.ownershipValid, Bool.and_eq_true, decide_eq_true_eq] at hownership ⊢
      exact ⟨⟨⟨h.clock, hownership.1.1.2⟩, hownership.1.2⟩, hownership.2⟩
    · simp only [XPostClaimRow.advisoryValid, Bool.and_eq_true]
      exact ⟨⟨⟨⟨hoptions haccepted.stableId, hoptions haccepted.displayName⟩,
        hoptions haccepted.handle⟩, hoptions haccepted.postText⟩, haccepted.title⟩
    · simp only [XPostClaimRow.extractionValid, Bool.and_eq_true, decide_eq_true_eq] at hextraction ⊢
      obtain ⟨⟨⟨-, hsuccess⟩, hfailure⟩, -⟩ := hextraction
      exact ⟨⟨⟨⟨⟨hoptions fun t ht => by simpa using h.postedAt t ht, hoptions h.version⟩,
        h.assets⟩, hsuccess⟩, hfailure⟩, h.counts⟩
    · simp only [XPostClaimRow.outcomeValid, hstate] at houtcome ⊢
      exact houtcome

/-- The promise is kept for exactly the texts that fit: author texts neither too long nor with
control characters, a handle that folds into a proper one, a post text that is not blank, has no
white space at the cut, is normal there, and has no control character but the newline. -/
theorem neverSinks_iff_textsFit (hstate : current.state = .extracting) :
    NeverSinks current inspection first ↔ TextsFit X inspection := by
  constructor
  · intro h
    obtain ⟨texts, htexts, haccepted, -⟩ := h.derived
    exact textsFit_of_derived htexts haccepted
  · intro h
    have hderived : ∃ texts, deriveTexts current inspection first = some texts ∧ texts.Accepted X :=
      h.derived
    obtain ⟨texts, htexts, haccepted⟩ := hderived
    exact ⟨⟨texts, htexts, haccepted, isTitle_of_advisory haccepted.title⟩,
      fun nowMs hothers => extracted_some hstate htexts haccepted hothers⟩

end Promise

/-! An acquisition in a world of ASCII texts. -/

def asciiDomain : XDomain := ⟨Url.asciiTables, .identity, fun login => some login⟩

def exampleClaimId : XPostClaimId := ⟨"11111111-1111-4111-8111-111111111111", ones_canonical⟩

/- A claim of `https://x.com/alice/status/1` while it is extracted. -/
def exampleExtracting : XPostClaim asciiDomain where
  id := exampleClaimId
  state := .extracting
  submittedUrl := "https://x.com/alice/status/1".toList
  canonicalUrl := "https://x.com/alice/status/1".toList
  xPostId := "1".toList
  createdAtMs := 1
  updatedAtMs := 2
  valid := by decide +kernel

def exampleImage : XNormalizedAssetDescriptor := ⟨0, .image, "image/jpeg".toList, none, none, none, none, none⟩

/- An inspection of one image with this post text. -/
def exampleInspection (postText : String) : XNormalizedInspection :=
  { canonicalUrl := none
    postText := some postText.toList
    postedAtMs := none
    authorStableId := none
    authorHandle := some "Alice".toList
    authorDisplayName := none
    assets := [exampleImage]
    extractorVersion := none }

theorem neverSinks_example :
    NeverSinks exampleExtracting (exampleInspection "A sunny day. More soon.") exampleImage := by
  apply (neverSinks_iff_textsFit rfl).mpr
  refine ⟨nofun, nofun, fun s hs => ?_, fun s hs => ?_⟩
  · cases hs
    have hhandle : (isAuthorText asciiDomain maxHandleCodePoints "Alice".toList &&
        (foldHandle asciiDomain (trim (asciiDomain.text.nfc "Alice".toList))).all
          (isAuthorHandle asciiDomain)) = true := by
      decide +kernel
    simpa [Option.all_eq_true] using hhandle
  · cases hs
    decide +kernel

/-- A post text of white space only sinks the acquisition. -/
theorem neverSinks_fails :
    ¬ NeverSinks exampleExtracting (exampleInspection "  ") exampleImage := by
  intro h
  obtain ⟨texts, htexts, haccepted, -⟩ := h.derived
  have hfit : TextsFit asciiDomain (exampleInspection "  ") := textsFit_of_derived htexts haccepted
  have hkept : isKeptText asciiDomain "  ".toList = true := hfit.postText _ rfl
  revert hkept
  decide +kernel

end FrameNest.X
