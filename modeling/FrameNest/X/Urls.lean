import FrameNest.Text.Url
import Mathlib.Data.Option.Basic

/-! The public X post URLs that are accepted, and the canonical URL each is given. -/
namespace FrameNest.X
open Plain Url

def invalidXUrlMessage : String := "Invalid public X post URL."
def maxSubmittedUrlCodePoints : Nat := 2048
def maxPostIdDigits : Nat := 19
def maxHandleCodePoints : Nat := 64

def https : List Char := "https".toList
def statusSegment : List Char := "status".toList
def httpsPort : List Char := ":443".toList

def xHosts : List (List Char) :=
  ["x.com".toList, "www.x.com".toList, "twitter.com".toList, "www.twitter.com".toList]

def handleChar (c : Char) : Bool := c.isAlphanum || c = '_'

/- `_HANDLE_PATTERN` and `_POST_ID_PATTERN`, matched in full. -/
def isHandle (s : List Char) : Bool :=
  s ≠ [] && s.length ≤ maxHandleCodePoints && s.all handleChar
def isPostId (s : List Char) : Bool :=
  s ≠ [] && s.length ≤ maxPostIdDigits && s.all Char.isDigit

/- `[part for part in path.split("/") if part]`. -/
def segments (path : List Char) : List (List Char) := (path.splitOn '/').filter (· ≠ [])

/- The parts of a supported URL; the port that is returned is never one. -/
structure PostParts where
  host : List Char
  port : Option Nat
  handle : List Char
  postId : List Char

/-- `_split_url`. -/
def splitUrl (t : Tables) (value : List Char) : Option PostParts := do
  guard (value ≠ [] ∧ trim value = value ∧ value.length ≤ maxSubmittedUrlCodePoints ∧
    value.any isControl = false)
  let parsed ← Url.split t value
  let port ← parsed.port
  let hostname ← parsed.hostname t
  guard (parsed.scheme = https ∧ parsed.username = none ∧ parsed.password = none ∧
    (port = none ∨ port = some 443) ∧ parsed.fragment = [] ∧ parsed.query = [])
  let host := t.lower hostname
  guard (host ∈ xHosts)
  guard (t.lower parsed.netloc = host ∨ t.lower parsed.netloc = host ++ httpsPort)
  match segments parsed.path with
  | [handle, middle, postId] =>
    if middle = statusSegment then some ⟨host, none, handle, postId⟩ else none
  | _ => none

/- The checks of `XSourceIdentity`: the canonical URL is split once more. -/
def canonicalFor (t : Tables) (postId canonicalUrl : List Char) : Bool :=
  isPostId postId &&
    match splitUrl t canonicalUrl with
    | none => false
    | some parts =>
      !('i' ∈ parts.handle.head?) && parts.postId = postId && parts.host ∈ xHosts

@[ext] structure XSourceIdentity (t : Tables) where
  postId : List Char
  submittedUrl : List Char
  canonicalUrl : List Char
  valid : canonicalFor t postId canonicalUrl = true

def XSourceIdentity.make? (t : Tables) (postId submittedUrl canonicalUrl : List Char) :
    Except String (XSourceIdentity t) :=
  if h : canonicalFor t postId canonicalUrl = true then .ok ⟨postId, submittedUrl, canonicalUrl, h⟩
  else .error invalidXUrlMessage

def postPath (handle postId : List Char) : List Char :=
  '/' :: handle ++ '/' :: statusSegment ++ '/' :: postId

/- `f"https://x.com/{handle}/status/{post_id}"`. -/
def canonicalUrl (handle postId : List Char) : List Char :=
  "https://x.com".toList ++ postPath handle postId

/-- `accept_x_post_url`. -/
def acceptXPostUrl (t : Tables) (url : List Char) : Except String (XSourceIdentity t) :=
  match splitUrl t url with
  | none => .error invalidXUrlMessage
  | some parts =>
    if isPostId parts.postId = false then .error invalidXUrlMessage
    else if isHandle parts.handle = false then .error invalidXUrlMessage
    else XSourceIdentity.make? t parts.postId url
      (canonicalUrl (trimRight '_' parts.handle) parts.postId)

/-! The characters of a URL that is accepted are all visible ASCII. -/

theorem handleChar_visible {c : Char} (h : handleChar c = true) : visible c = true ∧ c ≠ '/' := by
  have hne : c ≠ '/' := by
    intro heq
    rw [heq] at h
    revert h
    decide
  refine ⟨?_, hne⟩
  simp only [handleChar, Char.isAlphanum, isAlpha_iff, Char.isDigit, Bool.or_eq_true,
    Bool.and_eq_true, decide_eq_true_eq, UInt32.le_iff_toNat_le, ge_iff_le] at h
  simp only [visible, Bool.and_eq_true, decide_eq_true_eq]
  change ((((65 ≤ c.toNat ∧ c.toNat ≤ 90) ∨ (97 ≤ c.toNat ∧ c.toNat ≤ 122)) ∨
    (48 ≤ c.toNat ∧ c.toNat ≤ 57)) ∨ c = '_') at h
  rcases h with ((h | h) | h) | rfl
  · omega
  · omega
  · omega
  · decide

theorem digit_handleChar {c : Char} (h : c.isDigit = true) : handleChar c = true := by
  simp [handleChar, Char.isAlphanum, h]

/-! A path and its segments. -/

theorem mem_intercalate {c : Char} (ls : List (List Char))
    (hc : c ∈ List.intercalate ['/'] ls) : c = '/' ∨ ∃ s ∈ ls, c ∈ s := by
  induction ls with
  | nil => cases hc
  | cons l rest ih =>
    cases rest with
    | nil =>
      rw [List.intercalate_singleton] at hc
      exact .inr ⟨l, List.mem_cons_self, hc⟩
    | cons l' rest =>
      rw [List.intercalate_cons_cons, List.mem_append, List.mem_append] at hc
      rcases hc with (hc | hc) | hc
      · exact .inr ⟨l, List.mem_cons_self, hc⟩
      · exact .inl (List.mem_singleton.mp hc)
      · rcases ih hc with hslash | ⟨s, hs, hcs⟩
        · exact .inl hslash
        · exact .inr ⟨s, List.mem_cons_of_mem _ hs, hcs⟩

theorem mem_segments {path : List Char} {c : Char} (hc : c ∈ path) :
    c = '/' ∨ ∃ s ∈ segments path, c ∈ s := by
  have hmem : c ∈ List.intercalate ['/'] (path.splitOn '/') := by
    rwa [List.intercalate_splitOn]
  rcases mem_intercalate _ hmem with hslash | ⟨s, hs, hcs⟩
  · exact .inl hslash
  · have hne : s ≠ [] := List.ne_nil_of_mem hcs
    exact .inr ⟨s, List.mem_filter.mpr ⟨hs, by simpa using hne⟩, hcs⟩

theorem segments_postPath {handle postId : List Char} (hhandle : '/' ∉ handle)
    (hid : '/' ∉ postId) (hid' : postId ≠ []) :
    segments (postPath handle postId) =
      if handle = [] then [statusSegment, postId] else [handle, statusSegment, postId] := by
  have hjoin : postPath handle postId =
      List.intercalate ['/'] [[], handle, statusSegment, postId] := by
    simp [postPath, List.intercalate]
  have hstatus : '/' ∉ statusSegment := by decide
  have hparts : ∀ l ∈ [[], handle, statusSegment, postId], '/' ∉ l := by
    simp [hhandle, hid, hstatus]
  have hstatus' : statusSegment ≠ [] := by decide
  rw [segments, hjoin, List.splitOn_intercalate '/' hparts (by simp)]
  by_cases hnil : handle = []
  · simp [hnil, hid', hstatus']
  · simp [hnil, hid', hstatus']

/-! The hosts, and how an authority on one of them may be written. -/

theorem xHosts_plain : xHosts.all (fun host => host ≠ [] && host.length ≤ 15 && host.all hostChar &&
    host.all (fun c => isAscii c && c ≠ 'k') && host.map Char.toLower = host) = true := by
  decide +kernel

/- The authority names the host in any case, with its port left out or given as 443. -/
def OnHost (netloc host : List Char) : Prop :=
  host ∈ xHosts ∧ ∃ name, name.map Char.toLower = host ∧ (netloc = name ∨ netloc = name ++ httpsPort)

section Host
variable {t : Tables} {netloc host : List Char}

theorem host_plain (h : host ∈ xHosts) : PlainHost host := by
  have hall := List.all_eq_true.mp xHosts_plain host h
  obtain ⟨hne, hshort, hchars, hascii, hlower⟩ : host ≠ [] ∧ host.length ≤ 15 ∧
      host.all hostChar = true ∧ (∀ c ∈ host, isAscii c = true ∧ c ≠ 'k') ∧
        host.map Char.toLower = host := by simpa [and_assoc] using hall
  exact ⟨hne, hshort, hchars, hascii, hlower⟩

/-- What lowers to a host, with or without the port, is the host in some case. -/
theorem onHost_iff (h : host ∈ xHosts) :
    OnHost netloc host ↔ t.lower netloc = host ∨ t.lower netloc = host ++ httpsPort := by
  have hwritten : AtHost netloc host ↔ t.lower netloc = host ∨ t.lower netloc = host ++ httpsPort :=
    (host_plain h).atHost_iff
  rw [← hwritten]
  exact and_iff_right h

theorem OnHost.parts (h : OnHost netloc host) {r : SplitResult} (hr : r.netloc = netloc) :
    t.refuses netloc = false ∧ r.username = none ∧ r.password = none ∧
      (r.port = some none ∨ r.port = some (some 443)) ∧
      (∃ hostname, r.hostname t = some hostname ∧ t.lower hostname = host) ∧
      netloc.all visible = true ∧ netloc.all inAuthority = true ∧ netloc ≠ [] ∧
      netloc.length ≤ 19 :=
  (host_plain h.1).parts h.2 hr

end Host

/-! Which strings are split into a post's parts. -/

/-- The URL is written over https on this host with this path: userinfo, query and fragment are
absent, and the port is absent or 443. -/
def OnX (v host path : List Char) : Prop :=
  v.length ≤ maxSubmittedUrlCodePoints ∧ ∃ netloc, Written https v netloc path ∧ OnHost netloc host

section Split
variable {t : Tables} {v host path handle postId : List Char} {parts : PostParts}

theorem segments_visible (hsegments : segments path = [handle, statusSegment, postId])
    (hhandle : handle.all visible = true) (hid : postId.all visible = true) :
    path.all visible = true := by
  rw [List.all_eq_true] at hhandle hid ⊢
  intro c hc
  rcases mem_segments hc with rfl | ⟨s, hs, hcs⟩
  · decide
  · rw [hsegments] at hs
    simp only [List.mem_cons, List.not_mem_nil, or_false] at hs
    rcases hs with rfl | rfl | rfl
    · exact hhandle c hcs
    · have hall : statusSegment.all visible = true := by decide
      exact List.all_eq_true.mp hall c hcs
    · exact hid c hcs

theorem written_visible {netloc : List Char} (h : Written https v netloc path)
    (hnetloc : netloc.all visible = true) (hpath : path.all visible = true) :
    v.all visible = true := by
  obtain ⟨scheme, query, fragment, rfl, hscheme, hquery, hfragment⟩ := h.parts
  have hletters : scheme.all visible = true := by
    rw [List.all_eq_true]
    have hall : https.all hostChar = true := by decide
    exact fun c hc => (hostChar_visible (hostChar_lower hscheme hall c hc)).1
  have hquery' : query.all visible = true := by rcases hquery with rfl | rfl <;> decide
  have hfragment' : fragment.all visible = true := by rcases hfragment with rfl | rfl <;> decide
  have hslash : visible '/' = true ∧ visible ':' = true := by decide
  simp [hletters, hnetloc, hpath, hquery', hfragment', hslash]

/-- What a supported URL is split into. -/
theorem splitUrl_some (h : splitUrl t v = some parts) :
    ∃ path, OnX v parts.host path ∧ parts.port = none ∧
      segments path = [parts.handle, statusSegment, parts.postId] := by
  unfold splitUrl at h
  simp only [Option.bind_eq_bind, Option.bind_eq_some_iff, Option.guard_eq_some'] at h
  obtain ⟨-, ⟨hne, htrim, hlength, hcontrol⟩, parsed, hparsed, port, hport, hostname, hhostname, -,
    ⟨hscheme, huser, hpassword, hports, hfragment, hquery⟩, -, hhost, -, hnetloc, hmatch⟩ := h
  split at hmatch
  · rename_i handle middle postId hsegments
    split at hmatch
    · rename_i hmiddle
      cases hmatch
      have honhost : OnHost parsed.netloc (t.lower hostname) := (onHost_iff hhost).mpr hnetloc
      have hnonempty := (honhost.parts (t := t) rfl).2.2.2.2.2.2.2.1
      have hpath : parsed.path ≠ [] := by
        intro hnil
        rw [hnil] at hsegments
        cases hsegments
      obtain ⟨hwritten, -⟩ := split_written hparsed (tight_of_trim hne htrim hcontrol)
        (by rw [hscheme]; decide) hnonempty hpath hquery hfragment
      rw [hscheme] at hwritten
      refine ⟨parsed.path, ⟨hlength, parsed.netloc, hwritten, honhost⟩, rfl, ?_⟩
      rw [hsegments, hmiddle]
    · cases hmatch
  · cases hmatch

/-- A URL on a host whose path has the three segments is split into them. -/
theorem splitUrl_onX (h : OnX v host path)
    (hsegments : segments path = [handle, statusSegment, postId])
    (hhandle : handle.all visible = true) (hid : postId.all visible = true) :
    splitUrl t v = some ⟨host, none, handle, postId⟩ := by
  obtain ⟨hlength, netloc, hwritten, honhost⟩ := h
  have hvisible : v.all visible = true := by
    apply written_visible hwritten
    · exact (honhost.parts (t := t) (r := ⟨https, netloc, path, [], []⟩) rfl).2.2.2.2.2.1
    · exact segments_visible hsegments hhandle hid
  obtain ⟨htrim, hcontrol, htight⟩ := visible_tight hvisible
  obtain ⟨hrefuses, huser, hpassword, hport, ⟨hostname, hhostname, hlower⟩, -⟩ :=
    honhost.parts (t := t) (r := ⟨https, netloc, path, [], []⟩) rfl
  have hsplit : Url.split t v = some ⟨https, netloc, path, [], []⟩ :=
    hwritten.split (by decide) (by decide) htight hrefuses
  have hne : v ≠ [] := by
    obtain ⟨scheme, query, fragment, rfl, -⟩ := hwritten.parts
    simp
  have hnetloc := (onHost_iff (t := t) honhost.1).mp honhost
  unfold splitUrl
  simp only [Option.bind_eq_bind, Option.bind_eq_some_iff, Option.guard_eq_some']
  obtain ⟨port, hport, hnone⟩ : ∃ port, SplitResult.port ⟨https, netloc, path, [], []⟩ = some port ∧
      (port = none ∨ port = some 443) := by
    rcases hport with hport | hport
    · exact ⟨none, hport, .inl rfl⟩
    · exact ⟨some 443, hport, .inr rfl⟩
  refine ⟨(), ⟨hne, htrim, hlength, hcontrol⟩, _, hsplit, port, hport, hostname, hhostname, (),
    ⟨rfl, huser, hpassword, hnone, rfl, rfl⟩, (), ?_, (), ?_, ?_⟩
  · rw [hlower]
    exact honhost.1
  · rw [hlower]
    exact hnetloc
  · dsimp only
    rw [hsegments, hlower]
    exact if_pos rfl

end Split

/-! Which strings are accepted, and for which of them the canonical URL is the post's own. -/

/-- The string is an https URL of this post: `/<handle>/status/<id>` on one of the hosts. -/
structure IsPostUrl (v handle postId : List Char) : Prop where
  isHandle : isHandle handle = true
  unreserved : handle ≠ ['i']
  isPostId : isPostId postId = true
  written : ∃ host netloc, Written https v netloc (postPath handle postId) ∧ OnHost netloc host

/-- What accepting a string promises: post URLs and nothing else are accepted, the canonical URL
has the same handle and post id, and accepting it again gives the same. -/
structure KeepsIdentity (t : Tables) (v : List Char) : Prop where
  accepted : (∃ s, acceptXPostUrl t v = .ok s) ↔ ∃ handle postId, IsPostUrl v handle postId
  canonical : ∀ s, acceptXPostUrl t v = .ok s → ∃ handle postId, IsPostUrl v handle postId ∧
    s.postId = postId ∧ s.canonicalUrl = canonicalUrl handle postId
  again : ∀ s, acceptXPostUrl t v = .ok s → ∃ s', acceptXPostUrl t s.canonicalUrl = .ok s' ∧
    s'.postId = s.postId ∧ s'.canonicalUrl = s.canonicalUrl

/-- The path of the URL, and the handle and the post id it names, whatever its slashes. -/
structure Names (v path handle postId : List Char) : Prop where
  onX : ∃ host, OnX v host path
  segments : segments path = [handle, statusSegment, postId]
  isHandle : isHandle handle = true
  isPostId : isPostId postId = true

/- The URLs for which the promise is kept: the handle is `i`, or it neither begins with `i` nor
   ends in an underscore; a path with further slashes has a handle that is refused. -/
def Regular (v : List Char) : Prop :=
  ∀ path handle postId, Names v path handle postId →
    if path = postPath handle postId then
      handle = ['i'] ∨ (handle.head? ≠ some 'i' ∧ handle.getLast? ≠ some '_')
    else handle.head? = some 'i' ∨ handle.all (· = '_') = true

section Patterns
variable {handle postId : List Char}

theorem isHandle_chars (h : isHandle handle = true) : handle ≠ [] ∧ handle.length ≤ 64 ∧
    handle.all visible = true ∧ '/' ∉ handle := by
  simp only [isHandle, Bool.and_eq_true, decide_eq_true_eq, List.all_eq_true] at h
  obtain ⟨⟨hne, hlength⟩, hall⟩ := h
  refine ⟨hne, hlength, ?_, fun hslash => (handleChar_visible (hall _ hslash)).2 rfl⟩
  rw [List.all_eq_true]
  exact fun c hc => (handleChar_visible (hall c hc)).1

theorem isPostId_chars (h : isPostId postId = true) : postId ≠ [] ∧ postId.length ≤ 19 ∧
    postId.all visible = true ∧ '/' ∉ postId := by
  simp only [isPostId, Bool.and_eq_true, decide_eq_true_eq, List.all_eq_true] at h
  obtain ⟨⟨hne, hlength⟩, hall⟩ := h
  refine ⟨hne, hlength, ?_, fun hslash =>
    (handleChar_visible (digit_handleChar (hall _ hslash))).2 rfl⟩
  rw [List.all_eq_true]
  exact fun c hc => (handleChar_visible (digit_handleChar (hall c hc))).1

theorem isHandle_trimRight (h : isHandle handle = true) (hne : trimRight '_' handle ≠ []) :
    isHandle (trimRight '_' handle) = true := by
  simp only [isHandle, Bool.and_eq_true, decide_eq_true_eq, List.all_eq_true] at h ⊢
  obtain ⟨⟨-, hlength⟩, hall⟩ := h
  have hstart := trimRight_start '_' handle
  exact ⟨⟨hne, hstart.length_le.trans hlength⟩, fun c hc => hall c (hstart.subset hc)⟩

end Patterns

section Accepting
variable {t : Tables} {v path handle postId : List Char}

theorem written_length {netloc host : List Char} (h : Written https v netloc path)
    (hhost : OnHost netloc host) : v.length ≤ 29 + path.length := by
  obtain ⟨scheme, query, fragment, rfl, hscheme, hquery, hfragment⟩ := h.parts
  have hnetloc : netloc.length ≤ 19 :=
    (hhost.parts (t := asciiTables) (r := ⟨https, netloc, path, [], []⟩) rfl).2.2.2.2.2.2.2.2
  have hfive : scheme.length = 5 := by
    have hlength : (scheme.map Char.toLower).length = 5 := by rw [hscheme]; rfl
    simpa using hlength
  have hquery' : query.length ≤ 1 := by rcases hquery with rfl | rfl <;> simp
  have hfragment' : fragment.length ≤ 1 := by rcases hfragment with rfl | rfl <;> simp
  simp only [List.length_append, List.length_cons]
  omega

theorem postPath_length : (postPath handle postId).length = handle.length + postId.length + 9 := by
  have hstatus : statusSegment.length = 6 := by decide
  simp only [postPath, List.length_append, List.length_cons, hstatus]
  omega

/-- A post URL is short enough, and names its handle and its post id. -/
theorem IsPostUrl.names (h : IsPostUrl v handle postId) :
    Names v (postPath handle postId) handle postId := by
  obtain ⟨hhandle, -, hid, host, netloc, hwritten, honhost⟩ := h
  obtain ⟨hne, hlen, -, hslash⟩ := isHandle_chars hhandle
  obtain ⟨hne', hlen', -, hslash'⟩ := isPostId_chars hid
  refine ⟨⟨host, ?_, netloc, hwritten, honhost⟩, ?_, hhandle, hid⟩
  · have hlength := written_length hwritten honhost
    rw [postPath_length] at hlength
    unfold maxSubmittedUrlCodePoints
    omega
  · rw [segments_postPath hslash hslash' hne', if_neg hne]

theorem Names.split (h : Names v path handle postId) :
    ∃ host, splitUrl t v = some ⟨host, none, handle, postId⟩ := by
  obtain ⟨host, honx⟩ := h.onX
  exact ⟨host, splitUrl_onX honx h.segments (isHandle_chars h.isHandle).2.2.1
    (isPostId_chars h.isPostId).2.2.1⟩

theorem onX_tight {host : List Char} (h : OnX v host path) (hpath : path.all visible = true) :
    Tight v := by
  obtain ⟨-, netloc, hwritten, honhost⟩ := h
  have hnetloc := (honhost.parts (t := asciiTables) (r := ⟨https, netloc, path, [], []⟩) rfl).2.2.2.2.2.1
  exact (visible_tight (written_visible hwritten hnetloc hpath)).2.2

/-- A URL has one path, one handle and one post id. -/
theorem Names.unique {path' handle' postId' : List Char} (h : Names v path handle postId)
    (h' : Names v path' handle' postId') : path = path' ∧ handle = handle' ∧ postId = postId' := by
  have hvisible : path.all visible = true := segments_visible h.segments
    (isHandle_chars h.isHandle).2.2.1 (isPostId_chars h.isPostId).2.2.1
  obtain ⟨host, honx⟩ := h.onX
  obtain ⟨host', honx'⟩ := h'.onX
  have htight : Tight v := onX_tight honx hvisible
  obtain ⟨-, netloc, hwritten, -⟩ := honx
  obtain ⟨-, netloc', hwritten', -⟩ := honx'
  have hpath : path = path' :=
    (hwritten.unique hwritten' (by decide) (by decide) htight).2
  have hsegments := h.segments
  rw [hpath, h'.segments] at hsegments
  simp only [List.cons.injEq, and_true, true_and] at hsegments
  exact ⟨hpath, hsegments.1.symm, hsegments.2.symm⟩

theorem mem_postPath {c : Char} (hhandle : handle.all handleChar = true)
    (hid : isPostId postId = true) (hc : c ∈ postPath handle postId) :
    c = '/' ∨ handleChar c = true := by
  rw [List.all_eq_true] at hhandle
  simp only [isPostId, Bool.and_eq_true, List.all_eq_true] at hid
  have hstatus : statusSegment.all handleChar = true := by decide
  simp only [postPath, List.mem_cons, List.mem_append] at hc
  rcases hc with ((rfl | hc) | rfl | hc) | rfl | hc
  · exact .inl rfl
  · exact .inr (hhandle c hc)
  · exact .inl rfl
  · exact .inr (List.all_eq_true.mp hstatus c hc)
  · exact .inl rfl
  · exact .inr (digit_handleChar (hid.2 c hc))

/-- A canonical URL is written on `x.com` with the path of its handle and post id. -/
theorem canonicalUrl_onX (hhandle : handle.all handleChar = true) (hlength : handle.length ≤ 64)
    (hid : isPostId postId = true) :
    OnX (canonicalUrl handle postId) "x.com".toList (postPath handle postId) := by
  have hmember : "x.com".toList ∈ xHosts := List.mem_cons_self
  have honhost : OnHost "x.com".toList "x.com".toList := ⟨hmember, "x.com".toList, by decide, .inl rfl⟩
  have hout : ∀ d, d ≠ '/' → handleChar d = false → d ∉ postPath handle postId := by
    intro d hslash hd hmem
    rcases mem_postPath hhandle hid hmem with heq | hchar
    · exact hslash heq
    · rw [hd] at hchar
      cases hchar
  have hwritten : Written https (canonicalUrl handle postId) "x.com".toList
      (postPath handle postId) := by
    refine ⟨⟨https, [], [], ?_, by decide, .inl rfl, .inl rfl⟩, by decide, rfl,
      hout '?' (by decide) (by decide), hout '#' (by decide) (by decide)⟩
    rw [List.append_nil, List.append_nil]
    rfl
  refine ⟨?_, _, hwritten, honhost⟩
  have hwhole := written_length hwritten honhost
  rw [postPath_length] at hwhole
  have hdigits := (isPostId_chars hid).2.1
  unfold maxSubmittedUrlCodePoints
  omega

theorem names_canonicalUrl (hhandle : isHandle handle = true) (hid : isPostId postId = true) :
    Names (canonicalUrl handle postId) (postPath handle postId) handle postId := by
  obtain ⟨hne, hlength, -, hslash⟩ := isHandle_chars hhandle
  have hall : handle.all handleChar = true := by
    simp only [isHandle, Bool.and_eq_true] at hhandle
    exact hhandle.2
  obtain ⟨hne', -, -, hslash'⟩ := isPostId_chars hid
  refine ⟨⟨_, canonicalUrl_onX hall hlength hid⟩, ?_, hhandle, hid⟩
  rw [segments_postPath hslash hslash' hne', if_neg hne]

/-- Without its handle a canonical URL is not supported. -/
theorem splitUrl_bare (hid : isPostId postId = true) : splitUrl t (canonicalUrl [] postId) = none := by
  cases hsplit : splitUrl t (canonicalUrl [] postId) with
  | none => rfl
  | some parts =>
    exfalso
    obtain ⟨path, ⟨-, netloc, hwritten, -⟩, -, hsegments⟩ := splitUrl_some hsplit
    have honx : OnX (canonicalUrl [] postId) "x.com".toList (postPath [] postId) :=
      canonicalUrl_onX rfl (by simp) hid
    obtain ⟨hne', -, hvisible', hslash'⟩ := isPostId_chars hid
    have hvisible : (postPath [] postId).all visible = true := by
      rw [List.all_eq_true]
      intro c hc
      rcases mem_postPath rfl hid hc with rfl | hchar
      · decide
      · exact (handleChar_visible hchar).1
    have htight : Tight (canonicalUrl [] postId) := onX_tight honx hvisible
    obtain ⟨-, netloc', hwritten', -⟩ := honx
    have hpath : path = postPath [] postId :=
      (hwritten.unique hwritten' (by decide) (by decide) htight).2
    rw [hpath, segments_postPath (by simp) hslash' hne', if_pos rfl] at hsegments
    have hlength := congrArg List.length hsegments
    simp at hlength

/- A handle that the second splitting refuses. -/
def Refused (handle : List Char) : Prop := handle.head? = some 'i' ∨ handle.all (· = '_') = true

theorem canonicalFor_iff (hhandle : isHandle handle = true) (hid : isPostId postId = true) :
    canonicalFor t postId (canonicalUrl (trimRight '_' handle) postId) = true ↔ ¬ Refused handle := by
  by_cases hnil : trimRight '_' handle = []
  · have hall : handle.all (· = '_') = true := trimRight_nil.mp hnil
    rw [canonicalFor, hnil, splitUrl_bare hid]
    simp [Refused, hall]
  · have hall : handle.all (· = '_') ≠ true := fun h => hnil (trimRight_nil.mpr h)
    have hnames := names_canonicalUrl (isHandle_trimRight hhandle hnil) hid
    obtain ⟨host, hsplit⟩ := hnames.split (t := t)
    obtain ⟨path, ⟨-, netloc, -, honhost⟩, -⟩ := splitUrl_some hsplit
    have hhost : host ∈ xHosts := honhost.1
    rw [canonicalFor, hsplit]
    simp [Refused, hid, hhost, hall, head_trimRight hnil]

/-- Which strings are accepted, and as what. -/
theorem accept_iff {s : XSourceIdentity t} : acceptXPostUrl t v = .ok s ↔
    ∃ path handle postId, Names v path handle postId ∧ ¬ Refused handle ∧ s.postId = postId ∧
      s.submittedUrl = v ∧ s.canonicalUrl = canonicalUrl (trimRight '_' handle) postId := by
  constructor
  · intro h
    unfold acceptXPostUrl at h
    split at h
    · cases h
    · rename_i parts hparts
      split at h
      · cases h
      · rename_i hid
        split at h
        · cases h
        · rename_i hhandle
          simp only [Bool.not_eq_false] at hid hhandle
          unfold XSourceIdentity.make? at h
          split at h
          · rename_i hvalid
            cases h
            obtain ⟨path, honx, -, hsegments⟩ := splitUrl_some hparts
            exact ⟨path, _, _, ⟨⟨_, honx⟩, hsegments, hhandle, hid⟩,
              (canonicalFor_iff hhandle hid).mp hvalid, rfl, rfl, rfl⟩
          · cases h
  · rintro ⟨path, handle, postId, hnames, hrefused, rfl, rfl, hcanonical⟩
    obtain ⟨host, hsplit⟩ := hnames.split (t := t)
    have hvalid := (canonicalFor_iff (t := t) hnames.isHandle hnames.isPostId).mpr hrefused
    have hid := hnames.isPostId
    have hhandle := hnames.isHandle
    unfold acceptXPostUrl
    rw [hsplit]
    dsimp only
    rw [if_neg (by simp [hid]), if_neg (by simp [hhandle]), XSourceIdentity.make?, dif_pos hvalid]
    exact congrArg Except.ok (XSourceIdentity.ext rfl rfl hcanonical.symm)

theorem accepted_iff : (∃ s, acceptXPostUrl t v = .ok s) ↔
    ∃ path handle postId, Names v path handle postId ∧ ¬ Refused handle := by
  constructor
  · rintro ⟨s, hs⟩
    obtain ⟨path, handle, postId, hnames, hrefused, -⟩ := accept_iff.mp hs
    exact ⟨path, handle, postId, hnames, hrefused⟩
  · rintro ⟨path, handle, postId, hnames, hrefused⟩
    have hvalid := (canonicalFor_iff (t := t) hnames.isHandle hnames.isPostId).mpr hrefused
    exact ⟨⟨postId, v, _, hvalid⟩, accept_iff.mpr
      ⟨path, handle, postId, hnames, hrefused, rfl, rfl, rfl⟩⟩

theorem keepsIdentity_of_neither (hnot : ¬ ∃ s, acceptXPostUrl t v = .ok s)
    (hnone : ¬ ∃ handle postId, IsPostUrl v handle postId) : KeepsIdentity t v :=
  ⟨iff_of_false hnot hnone, fun s hs => absurd ⟨s, hs⟩ hnot, fun s hs => absurd ⟨s, hs⟩ hnot⟩

/-- A string that names no post keeps the promise: it is not accepted. -/
theorem keepsIdentity_of_none (h : ∀ path handle postId, ¬ Names v path handle postId) :
    KeepsIdentity t v := by
  have hnot : ¬ ∃ s, acceptXPostUrl t v = .ok s := by
    rw [accepted_iff]
    rintro ⟨path, handle, postId, hnames, -⟩
    exact h path handle postId hnames
  have hurl : ¬ ∃ handle postId, IsPostUrl v handle postId := by
    rintro ⟨handle, postId, hpost⟩
    exact h _ handle postId hpost.names
  exact keepsIdentity_of_neither hnot hurl

theorem Names.isPostUrl (h : Names v (postPath handle postId) handle postId) :
    IsPostUrl v handle postId ↔ handle ≠ ['i'] := by
  obtain ⟨host, -, netloc, hwritten, honhost⟩ := h.onX
  exact ⟨fun hpost => hpost.unreserved,
    fun hne => ⟨h.isHandle, hne, h.isPostId, host, netloc, hwritten, honhost⟩⟩

theorem IsPostUrl.eq {handle' postId' : List Char} (h : Names v path handle postId)
    (hpost : IsPostUrl v handle' postId') :
    path = postPath handle postId ∧ handle' = handle ∧ postId' = postId := by
  obtain ⟨hpath, rfl, rfl⟩ := h.unique hpost.names
  exact ⟨hpath, rfl, rfl⟩

theorem canonicalUrl_handle {handle' : List Char}
    (h : canonicalUrl handle' postId = canonicalUrl handle postId) : handle' = handle := by
  have hpaths : postPath handle' postId = postPath handle postId := List.append_cancel_left h
  simp only [postPath, List.cons_append, List.append_assoc, List.cons.injEq, true_and] at hpaths
  exact List.append_cancel_right hpaths

/-- What is accepted of a string that names a post. -/
theorem Names.accepted (h : Names v path handle postId) {s : XSourceIdentity t}
    (hs : acceptXPostUrl t v = .ok s) : ¬ Refused handle ∧ s.postId = postId ∧
      s.canonicalUrl = canonicalUrl (trimRight '_' handle) postId := by
  obtain ⟨path', handle', postId', hnames, hrefused, hid, -, hcanonical⟩ := accept_iff.mp hs
  obtain ⟨-, hhandle', hid'⟩ := h.unique hnames
  rw [hhandle', hid']
  exact ⟨hrefused, hid, hcanonical⟩

theorem Names.accepted_iff (h : Names v path handle postId) :
    (∃ s, acceptXPostUrl t v = .ok s) ↔ ¬ Refused handle := by
  rw [X.accepted_iff]
  constructor
  · rintro ⟨path', handle', postId', hnames, hrefused⟩
    rw [(h.unique hnames).2.1]
    exact hrefused
  · exact fun hrefused => ⟨path, handle, postId, h, hrefused⟩

/-- The URL of a post whose handle is kept whole: it is accepted, and so is its canonical URL. -/
theorem Names.keeps (h : Names v (postPath handle postId) handle postId) (hi : handle.head? ≠ some 'i')
    (hlast : handle.getLast? ≠ some '_') : KeepsIdentity t v := by
  have htrim : trimRight '_' handle = handle := trimRight_eq.mpr hlast
  have hne : handle ≠ [] := (isHandle_chars h.isHandle).1
  have hrefused : ¬ Refused handle := by
    rintro (hfirst | hall)
    · exact hi hfirst
    · rw [← trimRight_nil, htrim] at hall
      exact hne hall
  have hpost : IsPostUrl v handle postId := by
    rw [h.isPostUrl]
    rintro rfl
    exact hi rfl
  have hcanonical : ∀ s, acceptXPostUrl t v = .ok s →
      s.postId = postId ∧ s.canonicalUrl = canonicalUrl handle postId := by
    intro s hs
    have haccepted := (h.accepted hs).2
    rwa [htrim] at haccepted
  refine ⟨iff_of_true (h.accepted_iff.mpr hrefused) ⟨handle, postId, hpost⟩,
    fun s hs => ⟨handle, postId, hpost, hcanonical s hs⟩, fun s hs => ?_⟩
  obtain ⟨hid, hurl⟩ := hcanonical s hs
  have hagain := names_canonicalUrl h.isHandle h.isPostId
  obtain ⟨s', hs'⟩ := (hagain.accepted_iff (t := t)).mpr hrefused
  obtain ⟨-, hid', hurl'⟩ := hagain.accepted hs'
  rw [htrim] at hurl'
  rw [hurl, hid]
  exact ⟨s', hs', hid', hurl'⟩

/-- The promise for a string that names a post, in terms of its path and its handle. -/
theorem keepsIdentity_iff_of_names (h : Names v path handle postId) :
    KeepsIdentity t v ↔ if path = postPath handle postId then
      handle = ['i'] ∨ (handle.head? ≠ some 'i' ∧ handle.getLast? ≠ some '_')
    else Refused handle := by
  split
  · rename_i hpath
    rw [hpath] at h
    have hpost := h.isPostUrl
    constructor
    · intro hkeeps
      by_cases hreserved : handle = ['i']
      · exact .inl hreserved
      · have hurl : IsPostUrl v handle postId := hpost.mpr hreserved
        obtain ⟨s, hs⟩ := hkeeps.accepted.mpr ⟨handle, postId, hurl⟩
        obtain ⟨hrefused, -, hcanonical⟩ := h.accepted hs
        obtain ⟨handle', postId', hpost', -, hcanonical'⟩ := hkeeps.canonical s hs
        obtain ⟨-, hhandle', hid'⟩ := IsPostUrl.eq h hpost'
        rw [hhandle', hid', hcanonical] at hcanonical'
        exact .inr ⟨fun hi => hrefused (.inl hi), trimRight_eq.mp (canonicalUrl_handle hcanonical')⟩
    · rintro (hreserved | ⟨hi, hlast⟩)
      · have hrefused : Refused handle := .inl (by rw [hreserved]; rfl)
        have hnot : ¬ ∃ s, acceptXPostUrl t v = .ok s := fun hs => h.accepted_iff.mp hs hrefused
        have hnone : ¬ ∃ handle' postId', IsPostUrl v handle' postId' := by
          rintro ⟨handle', postId', hurl⟩
          exact hurl.unreserved ((IsPostUrl.eq h hurl).2.1.trans hreserved)
        exact keepsIdentity_of_neither hnot hnone
      · exact h.keeps hi hlast
  · rename_i hpath
    have hnone : ¬ ∃ handle' postId', IsPostUrl v handle' postId' := by
      rintro ⟨handle', postId', hurl⟩
      exact hpath (IsPostUrl.eq h hurl).1
    constructor
    · intro hkeeps
      by_contra hrefused
      exact hnone (hkeeps.accepted.mp (h.accepted_iff.mpr hrefused))
    · intro hrefused
      have hnot : ¬ ∃ s, acceptXPostUrl t v = .ok s := fun hs => h.accepted_iff.mp hs hrefused
      exact keepsIdentity_of_neither hnot hnone

/-- The promise is kept for exactly the strings that name no post, or name one regularly: no
handle beginning with `i` but `i` itself, none ending in an underscore, no further slashes. -/
theorem keepsIdentity_iff_regular (t : Tables) (v : List Char) : KeepsIdentity t v ↔ Regular v := by
  constructor
  · exact fun hkeeps path handle postId hnames => (keepsIdentity_iff_of_names hnames).mp hkeeps
  · intro hregular
    by_cases hnames : ∃ path handle postId, Names v path handle postId
    · obtain ⟨path, handle, postId, hnames⟩ := hnames
      exact (keepsIdentity_iff_of_names hnames).mpr (hregular path handle postId hnames)
    · exact keepsIdentity_of_none fun path handle postId h => hnames ⟨path, handle, postId, h⟩

end Accepting

/-- The URL of a post by `ibm` is refused, for the first letter of its handle. -/
theorem keepsIdentity_fails :
    ¬ KeepsIdentity asciiTables (canonicalUrl "ibm".toList "1".toList) := by
  have hnames : Names (canonicalUrl "ibm".toList "1".toList) (postPath "ibm".toList "1".toList)
      "ibm".toList "1".toList := names_canonicalUrl (by decide) (by decide)
  rw [keepsIdentity_iff_of_names hnames, if_pos rfl]
  decide

end FrameNest.X
