import FrameNest.Text.Plain

/-! Release identities and the remote paths made of them. -/
namespace FrameNest.Deploy

def releaseRoot : String := "/opt/framenest/releases"

def current : String := "/opt/framenest/current"

/- `SHA_PATTERN.match`: the pattern ends in `$`, which also matches before a last newline. -/
def matchesShaPattern (sha : String) : Bool :=
  let l := sha.toList
  (l.take 40).length = 40 && (l.take 40).all Plain.isLowerHex && (l.drop 40 = [] || l.drop 40 = ['\n'])

/-- A full commit id. -/
def IsSha (sha : String) : Prop := sha.toList.length = 40 ∧ sha.toList.all Plain.isLowerHex = true

instance (sha : String) : Decidable (IsSha sha) := inferInstanceAs (Decidable (_ ∧ _))

def releaseDir (sha : String) : String := releaseRoot ++ "/" ++ sha

def stagingDir (sha : String) : String := releaseRoot ++ "/" ++ sha ++ ".staging"

def startsWith (value start : String) : Bool := start.toList.isPrefixOf value.toList

def parts (value : String) : List (List Char) :=
  (value.toList.splitOn '/').filter fun part => part ≠ []

/- `validate_remote_path(value, RELEASE_ROOT)`. -/
def isRemotePath (value : String) : Bool :=
  startsWith value "/" &&
    (parts value).all (fun part => part ≠ ['.'] && part ≠ ['.', '.']) &&
    (value = releaseRoot || startsWith value (releaseRoot ++ "/"))

/-- What `ln -s` calls the link it makes in a directory. -/
def basename (path : String) : String :=
  String.ofList (path.toList.reverse.takeWhile fun c => c ≠ '/').reverse

/- `text.split()`. -/
def words (text : String) : List String :=
  ((text.toList.splitOnP Plain.isSpace).filter fun word => word ≠ []).map String.ofList

section Strip

theorem dropWhile_head {p : Char → Bool} {l : List Char} {c : Char}
    (h : (l.dropWhile p).head? = some c) : p c = false := by
  induction l with
  | nil => simp at h
  | cons d l ih =>
    by_cases hd : p d
    · rw [List.dropWhile_cons_of_pos hd] at h
      exact ih h
    · rw [List.dropWhile_cons_of_neg hd] at h
      have hsame : d = c := by simpa using h
      rw [← hsame]
      simpa using hd

/-- Stripped text does not end in a space. -/
theorem strip_last {text : String} {c : Char} (h : (Plain.strip text).toList.getLast? = some c) :
    Plain.isSpace c = false := by
  have hlast : ((text.toList.dropWhile Plain.isSpace).reverse.dropWhile Plain.isSpace).head? =
      some c := by simpa [Plain.strip] using h
  exact dropWhile_head hlast

theorem dropWhile_id {p : Char → Bool} {l : List Char} (h : ∀ c, l.head? = some c → p c = false) :
    l.dropWhile p = l := by
  cases l with
  | nil => rfl
  | cons c l =>
    have hc : ¬ p c = true := by simp [h c rfl]
    exact List.dropWhile_cons_of_neg hc

/-- Text without a space at either end is left as it is. -/
theorem strip_id {text : String}
    (hfirst : ∀ c, text.toList.head? = some c → Plain.isSpace c = false)
    (hlast : ∀ c, text.toList.getLast? = some c → Plain.isSpace c = false) :
    Plain.strip text = text := by
  have hstart : text.toList.dropWhile Plain.isSpace = text.toList := dropWhile_id hfirst
  have hend : text.toList.reverse.dropWhile Plain.isSpace = text.toList.reverse := by
    apply dropWhile_id
    intro c hc
    exact hlast c (by simpa using hc)
  unfold Plain.strip
  rw [hstart, hend, List.reverse_reverse, String.ofList_toList]

end Strip

section Sha
variable {sha : String}

theorem IsSha.matches (h : IsSha sha) : matchesShaPattern sha = true := by
  have htake : sha.toList.take 40 = sha.toList := List.take_of_length_le (Nat.le_of_eq h.1)
  have hdrop : sha.toList.drop 40 = [] := List.drop_eq_nil_of_le (Nat.le_of_eq h.1)
  simp [matchesShaPattern, htake, hdrop, h.1, h.2]

/-- What the pattern accepts of a stripped text is a full commit id. -/
theorem isSha_of_strip {text : String} (hstrip : Plain.strip text = sha)
    (h : matchesShaPattern sha = true) : IsSha sha := by
  simp only [matchesShaPattern, Bool.and_eq_true, Bool.or_eq_true, decide_eq_true_eq] at h
  obtain ⟨⟨hlength, hhex⟩, hend⟩ := h
  have hsplit : sha.toList.take 40 ++ sha.toList.drop 40 = sha.toList :=
    List.take_append_drop 40 sha.toList
  rcases hend with hend | hend
  · rw [hend, List.append_nil] at hsplit
    rw [hsplit] at hlength hhex
    exact ⟨hlength, hhex⟩
  · have hlast : (Plain.strip text).toList.getLast? = some '\n' := by
      rw [hstrip, ← hsplit, hend]
      simp
    have hspace := strip_last hlast
    exact absurd hspace (by decide)

theorem isSpace_of_hex {c : Char} (h : Plain.isLowerHex c = true) : Plain.isSpace c = false := by
  have hbounds : (48 ≤ c.toNat ∧ c.toNat ≤ 57) ∨ (97 ≤ c.toNat ∧ c.toNat ≤ 102) := by
    simp only [Plain.isLowerHex, Bool.or_eq_true, Bool.and_eq_true, decide_eq_true_eq] at h
    exact h
  unfold Plain.isSpace
  simp only [Bool.or_eq_false_iff, Bool.and_eq_false_iff, decide_eq_false_iff_not]
  omega

theorem hex_ne_slash {c : Char} (h : Plain.isLowerHex c = true) : c ≠ '/' := by
  rintro rfl
  revert h
  decide

theorem toList_releaseDir (sha : String) :
    (releaseDir sha).toList = "/opt/framenest/releases/".toList ++ sha.toList := by
  simp [releaseDir, releaseRoot, String.toList_append]

theorem releaseDir_inj {other : String} (h : releaseDir sha = releaseDir other) : sha = other := by
  have hlist := congrArg String.toList h
  rw [toList_releaseDir, toList_releaseDir] at hlist
  exact String.toList_injective (List.append_cancel_left hlist)

theorem stagingDir_eq (sha : String) : stagingDir sha = releaseDir (sha ++ ".staging") := by
  simp [stagingDir, releaseDir, String.append_assoc]

/-- No accepted id makes a staging directory out of a release directory. -/
theorem releaseDir_ne_stagingDir {other : String} (h : matchesShaPattern sha = true)
    (ho : IsSha other) : releaseDir sha ≠ stagingDir other := by
  intro heq
  rw [stagingDir_eq] at heq
  have hsame : sha = other ++ ".staging" := releaseDir_inj heq
  have hlength : sha.toList.length = 48 := by
    rw [hsame]
    simp [String.toList_append, ho.1]
  simp only [matchesShaPattern, Bool.and_eq_true, Bool.or_eq_true, decide_eq_true_eq] at h
  have hdrop : (sha.toList.drop 40).length = 8 := by
    rw [List.length_drop, hlength]
  rcases h.2 with hend | hend
  · rw [hend] at hdrop
    simp at hdrop
  · rw [hend] at hdrop
    simp at hdrop

theorem IsSha.last (h : IsSha sha) {c : Char} (hc : sha.toList.getLast? = some c) :
    Plain.isLowerHex c = true :=
  List.all_eq_true.mp h.2 c (List.mem_of_getLast? hc)

theorem IsSha.ne_nil (h : IsSha sha) : sha.toList ≠ [] := by
  intro hnil
  have hlength := h.1
  rw [hnil] at hlength
  simp at hlength

theorem strip_releaseDir (h : IsSha sha) : Plain.strip (releaseDir sha) = releaseDir sha := by
  apply strip_id
  · intro c hc
    rw [toList_releaseDir] at hc
    have hslash : '/' = c := by simpa using hc
    rw [← hslash]
    decide
  · intro c hc
    rw [toList_releaseDir, List.getLast?_append_of_ne_nil _ h.ne_nil] at hc
    exact isSpace_of_hex (h.last hc)

theorem not_mem_slash (h : IsSha sha) : '/' ∉ sha.toList := by
  intro hmem
  exact hex_ne_slash (List.all_eq_true.mp h.2 '/' hmem) rfl

theorem parts_releaseDir (h : IsSha sha) : parts (releaseDir sha) =
    ["opt".toList, "framenest".toList, "releases".toList, sha.toList] := by
  have hlist : (releaseDir sha).toList = releaseRoot.toList ++ '/' :: sha.toList := by
    simp [releaseDir, String.toList_append]
  have hroot : releaseRoot.toList.splitOn '/' =
      [[], "opt".toList, "framenest".toList, "releases".toList] := by decide +kernel
  unfold parts
  rw [hlist, List.splitOn_append_cons_self, hroot, List.splitOn_eq_singleton (not_mem_slash h)]
  simp [h.ne_nil]

theorem isRemotePath_releaseDir (h : IsSha sha) : isRemotePath (releaseDir sha) = true := by
  have hfirst : startsWith (releaseDir sha) "/" = true := by
    simp [startsWith, toList_releaseDir]
  have hroot : startsWith (releaseDir sha) (releaseRoot ++ "/") = true := by
    simp [startsWith, releaseDir, String.toList_append]
  have hlong : sha.toList ≠ ['.'] ∧ sha.toList ≠ ['.', '.'] := by
    constructor <;>
    · intro heq
      have hlength := h.1
      rw [heq] at hlength
      simp at hlength
  unfold isRemotePath
  rw [hfirst, hroot, parts_releaseDir h]
  simp [hlong]

end Sha

end FrameNest.Deploy
