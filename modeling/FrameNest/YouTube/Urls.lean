import FrameNest.Text.QueryString
import Mathlib.Data.Option.Basic

/-! `canonicalize_youtube_url`: the URLs of public videos that are accepted, and the identity each
is given. -/
namespace FrameNest.YouTubeUrls
open Plain Url

def invalidYoutubeUrlMessage : String := "Invalid public YouTube video URL."
def maxSubmittedUrlCodePoints : Nat := 2048
def youtubeExtractorKey : String := "Youtube"

def https : List Char := "https".toList
def shortHost : List Char := "youtu.be".toList

def youtubeHosts : List (List Char) :=
  ["youtube.com".toList, "www.youtube.com".toList, "m.youtube.com".toList]

def watchQueryKeys : List (List Char) := ["v".toList, "t".toList, "si".toList, "feature".toList]
def pathQueryKeys : List (List Char) := ["t".toList, "si".toList, "feature".toList]

def videoKey : List Char := "v".toList
def watchPath : List Char := "/watch".toList
def shortsSegment : List Char := "shorts".toList

def videoIdChar (c : Char) : Bool := c.isAlphanum || c = '_' || c = '-'

/- `_VIDEO_ID_PATTERN`, matched in full. -/
def isVideoId (s : List Char) : Bool := s.length = 11 && s.all videoIdChar

def canonicalStart : List Char := "https://www.youtube.com/watch?v=".toList

/- `f"https://www.youtube.com/watch?v={video_id}"`. -/
def canonicalUrl (videoId : List Char) : List Char := canonicalStart ++ videoId

@[ext] structure YouTubeSourceIdentity where
  videoId : List Char
  canonicalUrl : List Char
  extractorKey : String
  valid : isVideoId videoId = true ∧ canonicalUrl = YouTubeUrls.canonicalUrl videoId ∧
    extractorKey = youtubeExtractorKey

def identityOf (videoId : List Char) (h : isVideoId videoId = true) : YouTubeSourceIdentity :=
  ⟨videoId, canonicalUrl videoId, youtubeExtractorKey, h, rfl, rfl⟩

/- What the path parts of `youtu.be` and of the Shorts say the video is. -/
def shortId : List (List Char) → Option (List Char)
  | [_, second] => some second
  | [_, second, third] => if third = [] then some second else none
  | _ => none

def shortsId : List (List Char) → Option (List Char)
  | [_, second, third] => if second = shortsSegment then some third else none
  | [_, second, third, fourth] =>
    if second = shortsSegment ∧ fourth = [] then some third else none
  | _ => none

/- The branches over the host and the path; `none` in the outer option is a raised error. -/
def videoIdOf (host path : List Char) (query : List Field) : Option (Option (List Char)) :=
  if host = shortHost then
    if query.any fun f => f.1 ∉ pathQueryKeys then none else some (shortId (path.splitOn '/'))
  else if host ∈ youtubeHosts ∧ path = watchPath then
    if (query.any fun f => f.1 ∉ watchQueryKeys) ∨ query.lookup videoKey = none then none
    else some (query.lookup videoKey)
  else if host ∈ youtubeHosts then
    if query.any fun f => f.1 ∉ pathQueryKeys then none else some (shortsId (path.splitOn '/'))
  else some none

/- `canonicalize_youtube_url`. -/
def canonicalizeYoutubeUrl (t : Tables) (value : List Char) :
    Except String YouTubeSourceIdentity :=
  if value = [] ∨ trim value ≠ value ∨ maxSubmittedUrlCodePoints < value.length ∨
      value.any isControl = true then .error invalidYoutubeUrlMessage
  else
    match Url.split t value with
    | none => .error invalidYoutubeUrlMessage
    | some parsed =>
      match parsed.port with
      | none => .error invalidYoutubeUrlMessage
      | some port =>
        match parsed.hostname t with
        | none => .error invalidYoutubeUrlMessage
        | some hostname =>
          if parsed.scheme ≠ https ∨ parsed.username ≠ none ∨ parsed.password ≠ none ∨
              (port ≠ none ∧ port ≠ some 443) ∨ parsed.fragment ≠ [] then
            .error invalidYoutubeUrlMessage
          else
            let host := t.lower hostname
            if t.lower parsed.netloc ≠ host ∧ t.lower parsed.netloc ≠ host ++ httpsPort then
              .error invalidYoutubeUrlMessage
            else
              match parseQsl parsed.query 8 with
              | none => .error invalidYoutubeUrlMessage
              | some query =>
                if ¬(query.map Prod.fst).Nodup then .error invalidYoutubeUrlMessage
                else
                  match videoIdOf host parsed.path query with
                  | none => .error invalidYoutubeUrlMessage
                  | some none => .error invalidYoutubeUrlMessage
                  | some (some videoId) =>
                    if h : isVideoId videoId = true then .ok (identityOf videoId h)
                    else .error invalidYoutubeUrlMessage

/-! Which URLs name a video. -/

/-- The host, the path and the decoded query name the video `id`. -/
def NamesVideo (host path : List Char) (query : List Field) (id : List Char) : Prop :=
  (host = shortHost ∧ (path = '/' :: id ∨ path = '/' :: id ++ ['/']) ∧
    ∀ f ∈ query, f.1 ∈ pathQueryKeys) ∨
  (host ∈ youtubeHosts ∧ (path = '/' :: shortsSegment ++ '/' :: id ∨
      path = '/' :: shortsSegment ++ '/' :: id ++ ['/']) ∧ ∀ f ∈ query, f.1 ∈ pathQueryKeys) ∨
  (host ∈ youtubeHosts ∧ path = watchPath ∧ (videoKey, id) ∈ query ∧
    ∀ f ∈ query, f.1 ∈ watchQueryKeys)

/-- The string is an https URL of the video `id`: without userinfo and with an empty fragment, the
port left out or 443, and a query of at most eight fields no two of which have one key. -/
structure IsVideoUrl (v id : List Char) : Prop where
  short : v.length ≤ maxSubmittedUrlCodePoints
  printable : v.any isControl = false
  snug : trim v = v
  isVideoId : isVideoId id = true
  written : ∃ netloc host path fields, WrittenWith https v netloc path (queryText fields) ∧
    AtHost netloc host ∧ (∀ f ∈ fields, Writable f) ∧ fields.length ≤ 8 ∧
      ((fields.map decoded).map Prod.fst).Nodup ∧ NamesVideo host path (fields.map decoded) id

section Hosts

theorem hosts_plain : (shortHost :: youtubeHosts).all (fun host => host ≠ [] && host.length ≤ 15 &&
    host.all hostChar && host.all (fun c => isAscii c && c ≠ 'k') && host.map Char.toLower = host) =
      true := by
  decide +kernel

theorem host_plain {host : List Char} (h : host = shortHost ∨ host ∈ youtubeHosts) :
    PlainHost host := by
  have hmem : host ∈ shortHost :: youtubeHosts := List.mem_cons.mpr h
  have hall := List.all_eq_true.mp hosts_plain host hmem
  obtain ⟨hne, hshort, hchars, hascii, hlower⟩ : host ≠ [] ∧ host.length ≤ 15 ∧
      host.all hostChar = true ∧ (∀ c ∈ host, isAscii c = true ∧ c ≠ 'k') ∧
        host.map Char.toLower = host := by simpa [and_assoc] using hall
  exact ⟨hne, hshort, hchars, hascii, hlower⟩

theorem shortHost_other : shortHost ∉ youtubeHosts := by decide

end Hosts

section Paths
variable {path id : List Char} {query : List Field} {host : List Char}

theorem videoIdChar_visible {c : Char} (h : videoIdChar c = true) :
    visible c = true ∧ c ∉ ['/', '%', '+', '&', '=', '#', '?'] := by
  have hout : ∀ d, videoIdChar d = false → c ≠ d := by
    rintro d hd rfl
    rw [h] at hd
    cases hd
  constructor
  · simp only [videoIdChar, Char.isAlphanum, isAlpha_iff, Char.isDigit, Bool.or_eq_true,
      Bool.and_eq_true, decide_eq_true_eq, UInt32.le_iff_toNat_le, ge_iff_le] at h
    simp only [visible, Bool.and_eq_true, decide_eq_true_eq]
    change ((((65 ≤ c.toNat ∧ c.toNat ≤ 90) ∨ (97 ≤ c.toNat ∧ c.toNat ≤ 122)) ∨
      (48 ≤ c.toNat ∧ c.toNat ≤ 57)) ∨ c = '_') ∨ c = '-' at h
    rcases h with (((h | h) | h) | rfl) | rfl
    · omega
    · omega
    · omega
    · decide
    · decide
  · simp [hout '/' (by decide), hout '%' (by decide), hout '+' (by decide), hout '&' (by decide),
      hout '=' (by decide), hout '#' (by decide), hout '?' (by decide)]

theorem isVideoId_chars (h : isVideoId id = true) : id.length = 11 ∧
    ∀ c ∈ id, visible c = true ∧ c ∉ ['/', '%', '+', '&', '=', '#', '?'] := by
  simp only [isVideoId, Bool.and_eq_true, decide_eq_true_eq, List.all_eq_true] at h
  exact ⟨h.1, fun c hc => videoIdChar_visible (h.2 c hc)⟩

theorem isVideoId_free (h : isVideoId id = true) {d : Char}
    (hd : d ∈ ['/', '%', '+', '&', '=', '#', '?']) : d ∉ id := fun hmem =>
  ((isVideoId_chars h).2 d hmem).2 hd

/-- A path that begins with a slash is split into these parts if it is made of them. -/
theorem splitOn_rooted (hrooted : path.head? = some '/') (parts : List (List Char))
    (hparts : ∀ p ∈ parts, '/' ∉ p) (hne : parts ≠ []) (first : List Char) :
    path.splitOn '/' = first :: parts ↔ first = [] ∧ path = '/' :: List.intercalate ['/'] parts := by
  obtain ⟨p, rest, rfl⟩ := List.exists_cons_of_ne_nil hne
  constructor
  · intro hsplit
    have hfirst : '/' ∉ first := Plain.not_mem_splitOn (by rw [hsplit]; exact List.mem_cons_self)
    have hjoin : path = first ++ ['/'] ++ List.intercalate ['/'] (p :: rest) := by
      rw [← List.intercalate_cons_cons, ← hsplit, List.intercalate_splitOn]
    cases first with
    | nil => exact ⟨rfl, hjoin⟩
    | cons c first =>
      rw [hjoin] at hrooted
      obtain rfl : c = '/' := by simpa using hrooted
      exact absurd List.mem_cons_self hfirst
  · rintro ⟨rfl, hpath⟩
    have hjoin : path = List.intercalate ['/'] ([] :: p :: rest) := by
      rw [List.intercalate_cons_cons, hpath]
      rfl
    rw [hjoin, List.splitOn_intercalate '/' (by simpa using hparts) (by simp)]

theorem shortId_iff {parts : List (List Char)} : shortId parts = some id ↔
    ∃ first, parts = [first, id] ∨ parts = [first, id, []] := by
  constructor
  · intro h
    unfold shortId at h
    split at h
    · cases h
      exact ⟨_, .inl rfl⟩
    · split at h
      · rename_i hthird
        cases h
        exact ⟨_, .inr (by rw [hthird])⟩
      · cases h
    · cases h
  · rintro ⟨first, rfl | rfl⟩ <;> rfl

theorem shortsId_iff {parts : List (List Char)} : shortsId parts = some id ↔
    ∃ first, parts = [first, shortsSegment, id] ∨ parts = [first, shortsSegment, id, []] := by
  constructor
  · intro h
    unfold shortsId at h
    split at h
    · split at h
      · rename_i hsecond
        cases h
        exact ⟨_, .inl (by rw [hsecond])⟩
      · cases h
    · split at h
      · rename_i hboth
        cases h
        exact ⟨_, .inr (by rw [hboth.1, hboth.2])⟩
      · cases h
    · cases h
  · rintro ⟨first, rfl | rfl⟩ <;> simp [shortsId]

/-- The id is taken from a path of one segment, with or without a slash at its end. -/
theorem shortId_path (hrooted : path.head? = some '/') (hid : '/' ∉ id) :
    shortId (path.splitOn '/') = some id ↔ path = '/' :: id ∨ path = '/' :: id ++ ['/'] := by
  have hone := splitOn_rooted hrooted [id] (by simpa using hid) (by simp)
  have htwo := splitOn_rooted hrooted [id, []] (by simpa using hid) (by simp)
  rw [shortId_iff]
  simp only [hone, htwo, exists_or, exists_and_right, exists_eq, true_and]
  simp [List.intercalate]

/-- The id is taken from a path of `shorts` and one more segment, in the same way. -/
theorem shortsId_path (hrooted : path.head? = some '/') (hid : '/' ∉ id) :
    shortsId (path.splitOn '/') = some id ↔ path = '/' :: shortsSegment ++ '/' :: id ∨
      path = '/' :: shortsSegment ++ '/' :: id ++ ['/'] := by
  have hshorts : '/' ∉ shortsSegment := by decide
  have hone := splitOn_rooted hrooted [shortsSegment, id] (by simp [hid, hshorts]) (by simp)
  have htwo := splitOn_rooted hrooted [shortsSegment, id, []] (by simp [hid, hshorts]) (by simp)
  rw [shortsId_iff]
  simp only [hone, htwo, exists_or, exists_and_right, exists_eq, true_and]
  simp [List.intercalate]

theorem lookup_mem (key value : List Char) (h : (query.map Prod.fst).Nodup) :
    query.lookup key = some value ↔ (key, value) ∈ query := by
  induction query with
  | nil => simp
  | cons f rest ih =>
    obtain ⟨k, w⟩ := f
    rw [List.map_cons, List.nodup_cons] at h
    rw [List.lookup_cons, List.mem_cons]
    by_cases hk : key = k
    · subst hk
      have hnot : (key, value) ∉ rest := fun hmem =>
        h.1 (List.mem_map.mpr ⟨_, hmem, rfl⟩)
      simp [hnot, eq_comm]
    · have hbeq : (key == k) = false := by simpa using hk
      rw [hbeq, ih h.2]
      simp [hk]

theorem keys_among {keys : List (List Char)} :
    ((query.any fun f => f.1 ∉ keys) = true) ↔ ¬∀ f ∈ query, f.1 ∈ keys := by
  simp

theorem watchPath_other (p : List Char) : watchPath ≠ '/' :: shortsSegment ++ p := by
  simp [watchPath, shortsSegment]

/-- The branches of the function are the shapes of a URL that names a video. -/
theorem videoIdOf_iff (hrooted : path.head? = some '/') (hid : '/' ∉ id)
    (hkeys : (query.map Prod.fst).Nodup) :
    videoIdOf host path query = some (some id) ↔ NamesVideo host path query id := by
  have hwatch (p : List Char) : path = watchPath → path ≠ '/' :: shortsSegment ++ p := by
    rintro rfl
    exact watchPath_other p
  unfold videoIdOf NamesVideo
  by_cases hshort : host = shortHost
  · have hother : host ∉ youtubeHosts := hshort ▸ shortHost_other
    rw [if_pos hshort]
    by_cases hbad : (query.any fun f => f.1 ∉ pathQueryKeys) = true
    · rw [if_pos hbad]
      refine iff_of_false (by simp) ?_
      rintro (⟨-, -, h⟩ | ⟨h, -⟩ | ⟨h, -⟩)
      · exact keys_among.mp hbad h
      · exact hother h
      · exact hother h
    · rw [if_neg hbad, Option.some_inj, shortId_path hrooted hid]
      have hamong := not_not.mp (mt keys_among.mpr hbad)
      exact ⟨fun h => .inl ⟨hshort, h, hamong⟩, fun h => h.elim (fun h => h.2.1)
        fun h => h.elim (fun h => absurd h.1 hother) fun h => absurd h.1 hother⟩
  · rw [if_neg hshort]
    by_cases hhost : host ∈ youtubeHosts
    · by_cases hpath : path = watchPath
      · rw [if_pos ⟨hhost, hpath⟩]
        by_cases hbad : (query.any fun f => f.1 ∉ watchQueryKeys) = true
        · rw [if_pos (.inl hbad)]
          refine iff_of_false (by simp) ?_
          rintro (⟨h, -⟩ | ⟨-, h | h, -⟩ | ⟨-, -, -, h⟩)
          · exact hshort h
          · exact hwatch _ hpath h
          · exact hwatch _ hpath (by rw [h, List.append_assoc])
          · exact keys_among.mp hbad h
        · have hamong := not_not.mp (mt keys_among.mpr hbad)
          have hlookup := lookup_mem videoKey id hkeys
          by_cases hnone : query.lookup videoKey = none
          · rw [if_pos (.inr hnone)]
            refine iff_of_false (by simp) ?_
            rintro (⟨h, -⟩ | ⟨-, h | h, -⟩ | ⟨-, -, h, -⟩)
            · exact hshort h
            · exact hwatch _ hpath h
            · exact hwatch _ hpath (by rw [h, List.append_assoc])
            · rw [hlookup.mpr h] at hnone
              cases hnone
          · rw [if_neg (not_or.mpr ⟨hbad, hnone⟩), Option.some_inj, hlookup]
            refine ⟨fun h => .inr (.inr ⟨hhost, hpath, h, hamong⟩), ?_⟩
            rintro (⟨h, -⟩ | ⟨-, h | h, -⟩ | ⟨-, -, h, -⟩)
            · exact absurd h hshort
            · exact absurd h (hwatch _ hpath)
            · exact absurd (by rw [h, List.append_assoc]) (hwatch _ hpath)
            · exact h
      · rw [if_neg fun h => hpath h.2, if_pos hhost]
        by_cases hbad : (query.any fun f => f.1 ∉ pathQueryKeys) = true
        · rw [if_pos hbad]
          refine iff_of_false (by simp) ?_
          rintro (⟨h, -⟩ | ⟨-, -, h⟩ | ⟨-, h, -⟩)
          · exact hshort h
          · exact keys_among.mp hbad h
          · exact hpath h
        · have hamong := not_not.mp (mt keys_among.mpr hbad)
          rw [if_neg hbad, Option.some_inj, shortsId_path hrooted hid]
          exact ⟨fun h => .inr (.inl ⟨hhost, h, hamong⟩), fun h => h.elim
            (fun h => absurd h.1 hshort) fun h => h.elim (fun h => h.2.1) fun h => absurd h.2.1 hpath⟩
    · rw [if_neg fun h => hhost h.1, if_neg hhost]
      refine iff_of_false (by simp) ?_
      rintro (⟨h, -⟩ | ⟨h, -⟩ | ⟨h, -⟩)
      · exact hshort h
      · exact hhost h
      · exact hhost h

end Paths

section Accepting
variable {t : Tables} {v id : List Char} {s : YouTubeSourceIdentity}

theorem identity_eq (s : YouTubeSourceIdentity) : s = identityOf s.videoId s.valid.1 :=
  YouTubeSourceIdentity.ext rfl s.valid.2.1 s.valid.2.2

/-- The checks a string has to pass, one after another. -/
structure Passes (t : Tables) (v id : List Char) : Prop where
  nonempty : v ≠ []
  snug : trim v = v
  short : v.length ≤ maxSubmittedUrlCodePoints
  printable : v.any isControl = false
  parts : ∃ parsed port hostname query, Url.split t v = some parsed ∧ parsed.port = some port ∧
    parsed.hostname t = some hostname ∧ (parsed.scheme = https ∧ parsed.username = none ∧
      parsed.password = none ∧ (port = none ∨ port = some 443) ∧ parsed.fragment = []) ∧
    (t.lower parsed.netloc = t.lower hostname ∨
      t.lower parsed.netloc = t.lower hostname ++ httpsPort) ∧
    parseQsl parsed.query 8 = some query ∧ (query.map Prod.fst).Nodup ∧
    videoIdOf (t.lower hostname) parsed.path query = some (some id)

theorem canonicalize_passes : canonicalizeYoutubeUrl t v = .ok s ↔ Passes t v s.videoId := by
  constructor
  · intro h
    unfold canonicalizeYoutubeUrl at h
    by_cases hfirst : v = [] ∨ trim v ≠ v ∨ maxSubmittedUrlCodePoints < v.length ∨
        v.any isControl = true
    · rw [if_pos hfirst] at h
      cases h
    rw [if_neg hfirst] at h
    cases hparsed : Url.split t v with
    | none => simp [hparsed] at h
    | some parsed =>
      cases hport : parsed.port with
      | none => simp [hparsed, hport] at h
      | some port =>
        cases hhostname : parsed.hostname t with
        | none => simp [hparsed, hport, hhostname] at h
        | some hostname =>
          simp only [hparsed, hport, hhostname] at h
          split at h
          · cases h
          split at h
          · cases h
          rename_i hparts hnetloc
          cases hquery : parseQsl parsed.query 8 with
          | none => simp [hquery] at h
          | some query =>
            simp only [hquery] at h
            split at h
            · cases h
            rename_i hkeys
            cases hid : videoIdOf (t.lower hostname) parsed.path query with
            | none => simp [hid] at h
            | some found =>
              cases found with
              | none => simp [hid] at h
              | some videoId =>
                simp only [hid] at h
                split at h
                · cases h
                  simp only [not_or, not_not, not_lt, Bool.not_eq_true] at hfirst
                  refine ⟨hfirst.1, hfirst.2.1, hfirst.2.2.1, hfirst.2.2.2, parsed, port, hostname,
                    query, hparsed, hport, hhostname, ?_, ?_, hquery, not_not.mp hkeys, hid⟩
                  · simp only [not_or, not_not] at hparts
                    grind
                  · grind
                · cases h
  · rintro ⟨hne, hsnug, hshort, hprintable, parsed, port, hostname, query, hparsed, hport, hhostname,
      hparts, hnetloc, hquery, hkeys, hid⟩
    have hfirst : ¬(v = [] ∨ trim v ≠ v ∨ maxSubmittedUrlCodePoints < v.length ∨
        v.any isControl = true) := by
      simp only [not_or, not_not, not_lt, Bool.not_eq_true]
      exact ⟨hne, hsnug, hshort, hprintable⟩
    have hthird : ¬(parsed.scheme ≠ https ∨ parsed.username ≠ none ∨ parsed.password ≠ none ∨
        (port ≠ none ∧ port ≠ some 443) ∨ parsed.fragment ≠ []) := by
      grind
    have hfourth : ¬(t.lower parsed.netloc ≠ t.lower hostname ∧
        t.lower parsed.netloc ≠ t.lower hostname ++ httpsPort) := by
      grind
    unfold canonicalizeYoutubeUrl
    rw [if_neg hfirst]
    simp only [hparsed, hport, hhostname, if_neg hthird, if_neg hfourth, hquery, hkeys, hid,
      not_true_eq_false, if_false, dif_pos s.valid.1]
    rw [← identity_eq s]

theorem NamesVideo.host {host path : List Char} {query : List Field}
    (h : NamesVideo host path query id) : host = shortHost ∨ host ∈ youtubeHosts := by
  rcases h with ⟨h, -⟩ | ⟨h, -⟩ | ⟨h, -⟩
  · exact .inl h
  · exact .inr h
  · exact .inr h

/-- A video is found only on one of the hosts, and by a path. -/
theorem videoIdOf_some {host path : List Char} {query : List Field}
    (h : videoIdOf host path query = some (some id)) :
    (host = shortHost ∨ host ∈ youtubeHosts) ∧ path ≠ [] := by
  constructor
  · by_contra hno
    rw [not_or] at hno
    rw [videoIdOf, if_neg hno.1, if_neg fun hboth => hno.2 hboth.1, if_neg hno.2] at h
    cases h
  · rintro rfl
    have hwatch : ([] : List Char) ≠ watchPath := by decide
    simp only [videoIdOf, hwatch, and_false, if_false, List.splitOn_nil, shortId, shortsId] at h
    split at h
    · split at h <;> cases h
    · split at h
      · split at h <;> cases h
      · cases h

theorem passes_iff (hid : isVideoId id = true) : Passes t v id ↔ IsVideoUrl v id := by
  have hslash : '/' ∉ id := isVideoId_free hid (by decide)
  constructor
  · rintro ⟨hne, hsnug, hshort, hprintable, parsed, port, hostname, query, hparsed, hport, hhostname,
      ⟨hscheme, -, -, -, hfragment⟩, hnetloc, hquery, hkeys, hvideo⟩
    obtain ⟨hhost, hpath⟩ := videoIdOf_some hvideo
    have hplain := host_plain hhost
    have hat : AtHost parsed.netloc (t.lower hostname) := hplain.atHost_iff.mpr hnetloc
    have hnonempty : parsed.netloc ≠ [] := (hplain.parts (t := t) hat rfl).2.2.2.2.2.2.2.1
    obtain ⟨hwritten, -⟩ := split_writtenWith hparsed (tight_of_trim hne hsnug hprintable)
      (by rw [hscheme]; decide) hnonempty hpath hfragment
    obtain ⟨fields, hfields, hwritable, hfew, rfl⟩ := parseQsl_some hquery
    rw [hscheme, hfields] at hwritten
    exact ⟨hshort, hprintable, hsnug, hid, parsed.netloc, _, parsed.path, fields, hwritten, hat,
      hwritable, hfew, hkeys, (videoIdOf_iff hwritten.rooted hslash hkeys).mp hvideo⟩
  · rintro ⟨hshort, hprintable, hsnug, -, netloc, host, path, fields, hwritten, hat, hwritable, hfew,
      hkeys, hnames⟩
    have hplain := host_plain hnames.host
    obtain ⟨hrefuses, huser, hpassword, hport, ⟨hostname, hhostname, hlower⟩, -⟩ :=
      hplain.parts (t := t) (r := ⟨https, netloc, path, queryText fields, []⟩) hat rfl
    have hne : v ≠ [] := by
      obtain ⟨scheme, asked, fragment, rfl, -⟩ := hwritten.parts
      simp
    have hsplit : Url.split t v = some ⟨https, netloc, path, queryText fields, []⟩ :=
      hwritten.split (by decide) (by decide) (tight_of_trim hne hsnug hprintable) hrefuses
    have hvideo := (videoIdOf_iff hwritten.rooted hslash hkeys).mpr hnames
    have hnetloc := (hplain.atHost_iff (t := t)).mp hat
    rw [← hlower] at hnetloc hvideo
    rcases hport with hport | hport
    · exact ⟨hne, hsnug, hshort, hprintable, _, none, hostname, _, hsplit, hport, hhostname,
        ⟨rfl, huser, hpassword, .inl rfl, rfl⟩, hnetloc, parseQsl_queryText hwritable hfew, hkeys,
        hvideo⟩
    · exact ⟨hne, hsnug, hshort, hprintable, _, some 443, hostname, _, hsplit, hport, hhostname,
        ⟨rfl, huser, hpassword, .inr rfl, rfl⟩, hnetloc, parseQsl_queryText hwritable hfew, hkeys,
        hvideo⟩

theorem canonicalize_iff : canonicalizeYoutubeUrl t v = .ok s ↔ IsVideoUrl v s.videoId :=
  canonicalize_passes.trans (passes_iff s.valid.1)

def canonicalHost : List Char := "www.youtube.com".toList

/-- What stands before the id of a canonical URL, as its parts. -/
theorem canonical_start : canonicalStart =
      https ++ ':' :: '/' :: '/' :: (canonicalHost ++ (watchPath ++ '?' :: (videoKey ++ ['=']))) ∧
    (canonicalStart.all visible = true ∧ canonicalStart.length = 32) ∧
    (https.map Char.toLower = https ∧ canonicalHost.all inAuthority = true ∧
      canonicalHost.map Char.toLower = canonicalHost ∧ canonicalHost ∈ youtubeHosts) ∧
    (watchPath.head? = some '/' ∧ '?' ∉ watchPath ∧ '#' ∉ watchPath) ∧
    ('%' ∉ videoKey ∧ '+' ∉ videoKey) ∧ '#' ∉ videoKey ∧ ('=' ∉ videoKey ∧ '&' ∉ videoKey) ∧
      videoKey ∈ watchQueryKeys := by
  decide +kernel

/-- The canonical URL is itself a URL of its video. -/
theorem canonicalUrl_isVideoUrl (hid : isVideoId id = true) : IsVideoUrl (canonicalUrl id) id := by
  obtain ⟨hlength, hchars⟩ := isVideoId_chars hid
  obtain ⟨hstart, ⟨hfront, hcount⟩, ⟨hscheme, hall, hlower, hhost⟩, ⟨hrooted, hquestion, hhash⟩,
    hplain, hkeyhash, ⟨hequals, hand⟩, hwatch⟩ := canonical_start
  have hvisible : (canonicalUrl id).all visible = true := by
    rw [canonicalUrl, List.all_append, hfront, Bool.true_and, List.all_eq_true]
    exact fun c hc => (hchars c hc).1
  obtain ⟨htrim, hprintable, -⟩ := visible_tight hvisible
  have hvalue : unquotePlus id = id :=
    unquotePlus_plain ⟨isVideoId_free hid (by decide), isVideoId_free hid (by decide)⟩
  have hdecoded : [((videoKey, id) : Field)].map decoded = [(videoKey, id)] := by
    simp [decoded, unquotePlus_plain hplain, hvalue]
  have htext : queryText [(videoKey, id)] = videoKey ++ '=' :: id := by
    simp [queryText, fieldText]
  have hidhash : '#' ∉ id := isVideoId_free hid (by decide)
  have hidand : '&' ∉ id := isVideoId_free hid (by decide)
  refine ⟨?_, hprintable, htrim, hid, canonicalHost, canonicalHost, watchPath, [(videoKey, id)],
    ⟨⟨https, '?' :: queryText [(videoKey, id)], [], ?_, hscheme, .inr rfl, .inl rfl⟩, hall, hrooted,
      hquestion, hhash, ?_⟩, ⟨canonicalHost, hlower, .inl rfl⟩, ?_, by simp, ?_, ?_⟩
  · rw [canonicalUrl, List.length_append, hcount, hlength, maxSubmittedUrlCodePoints]
    omega
  · rw [canonicalUrl, hstart, htext]
    simp
  · rw [htext]
    simp [hkeyhash, hidhash]
  · simpa [Writable, hequals, hand] using hidand
  · rw [hdecoded]
    simp
  · rw [hdecoded]
    exact .inr (.inr ⟨hhost, rfl, List.mem_cons_self, by simpa using hwatch⟩)

/-- A URL names one video only. -/
theorem IsVideoUrl.unique {id' : List Char} (h : IsVideoUrl v id) (h' : IsVideoUrl v id') :
    id = id' := by
  have hok : canonicalizeYoutubeUrl asciiTables v = .ok (identityOf id h.isVideoId) :=
    canonicalize_iff.mpr h
  have hok' : canonicalizeYoutubeUrl asciiTables v = .ok (identityOf id' h'.isVideoId) :=
    canonicalize_iff.mpr h'
  rw [hok] at hok'
  exact congrArg YouTubeSourceIdentity.videoId (Except.ok.inj hok')

theorem canonicalUrl_eq {s' : YouTubeSourceIdentity} :
    s.canonicalUrl = s'.canonicalUrl ↔ s.videoId = s'.videoId := by
  rw [s.valid.2.1, s'.valid.2.1, canonicalUrl, canonicalUrl, List.append_right_inj]

/-- A string is accepted if, and only if, it is a URL of a video; what it is given is the identity
of that video. Two that are accepted have one canonical URL exactly if they name one video, and the
canonical URL is accepted as the same. -/
theorem canonicalize_youtube_url_iff (t : Tables) (v : List Char) :
    ((∃ s, canonicalizeYoutubeUrl t v = .ok s) ↔ ∃ id, IsVideoUrl v id) ∧
    (∀ s, canonicalizeYoutubeUrl t v = .ok s ↔ IsVideoUrl v s.videoId) ∧
    (∀ v' s s', canonicalizeYoutubeUrl t v = .ok s → canonicalizeYoutubeUrl t v' = .ok s' →
      (s.canonicalUrl = s'.canonicalUrl ↔ ∀ id, IsVideoUrl v id ↔ IsVideoUrl v' id)) ∧
    ∀ s, canonicalizeYoutubeUrl t v = .ok s → canonicalizeYoutubeUrl t s.canonicalUrl = .ok s := by
  refine ⟨⟨?_, ?_⟩, fun s => canonicalize_iff, ?_, ?_⟩
  · rintro ⟨s, hs⟩
    exact ⟨s.videoId, canonicalize_iff.mp hs⟩
  · rintro ⟨id, hid⟩
    exact ⟨identityOf id hid.isVideoId, canonicalize_iff.mpr hid⟩
  · intro v' s s' hs hs'
    have hv := canonicalize_iff.mp hs
    have hv' := canonicalize_iff.mp hs'
    rw [canonicalUrl_eq]
    constructor
    · intro hsame id
      rw [← hsame] at hv'
      exact ⟨fun h => h.unique hv ▸ hv', fun h => h.unique hv' ▸ hv⟩
    · intro hsame
      exact ((hsame s.videoId).mp hv).unique hv'
  · intro s _
    rw [canonicalize_iff, s.valid.2.1]
    exact canonicalUrl_isVideoUrl s.valid.1

end Accepting
end FrameNest.YouTubeUrls
