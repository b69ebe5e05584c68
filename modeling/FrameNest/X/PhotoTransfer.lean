import FrameNest.Content.ByteRanges
import FrameNest.Relational.Raising
import FrameNest.Text.QueryString

/-! `fetch_pbs_photo`: one photo of a post, from its URL to the staged file. -/
namespace FrameNest.XPhotos
open Plain Relational Url

abbrev Bytes := List UInt8

section Admission

/-- What leaves the call: a `StatusBridgeError`, or any other exception. -/
inductive Failure where
  | bridge (code message : String)
  | foreign
deriving DecidableEq

def unsupported (message : String) : Failure := .bridge "X_MEDIA_TYPE_UNSUPPORTED" message
def invalidUrl : Failure := unsupported "X photo URL is invalid."
def hostNotAllowed : Failure := unsupported "X photo host is not allowed."
def typeUnsupported : Failure := unsupported "X photo type is unsupported."
def invalidResponse : Failure := unsupported "X photo response is invalid."
def invalidBytes : Failure := unsupported "X photo bytes are invalid."
def tooLarge : Failure := .bridge "X_MEDIA_TOO_LARGE" "X photo exceeds size limit."
def timedOut : Failure := .bridge "X_DOWNLOAD_TIMEOUT" "X photo download timed out."
def stagingFailed : Failure := .bridge "X_STAGING_FAILED" "X photo download failed."

def pbsPhotoHost : List Char := "pbs.twimg.com".toList
def photoMaxBytes : Nat := 64 * 1024 * 1024
def xVariantPhotoJpeg : String := "x-photo-orig-jpeg-v1"
def xVariantPhotoPng : String := "x-photo-orig-png-v1"

/- `parse_qsl` with `keep_blank_values`. -/
def parsePairs (query : List Char) : List Field :=
  ((query.splitOn '&').filter (· ≠ [])).map fun field =>
    (unquotePlus (before '=' field), unquotePlus (after '=' field))

/- The loop over the pairs: two keys, and neither of them twice. -/
def readValues : List Field → List Field → Except Failure (List Field)
  | values, [] => .ok values
  | values, (key, value) :: rest => do
    require (key ∈ ["name".toList, "format".toList] && (values.lookup key).isNone) invalidUrl
    readValues (values ++ [(key, value)]) rest

def allowedFormats (variant : String) : Except Failure (List (Option (List Char))) :=
  if variant = xVariantPhotoJpeg then .ok [none, some "jpg".toList, some "jpeg".toList]
  else if variant = xVariantPhotoPng then .ok [none, some "png".toList]
  else .error (.bridge "X_SOURCE_MEDIA_CHANGED" "X source media is no longer available.")

def validatePbsPhotoUrl (t : Tables) (url : List Char) (variant : String) :
    Except Failure SplitResult := do
  require (url ≠ []) invalidUrl
  -- `urlsplit` and `port` may raise a `ValueError`
  let r ← (split t url).elim (.error .foreign) .ok
  require (r.scheme = "https".toList) invalidUrl
  require (r.hostname t = some pbsPhotoHost) hostNotAllowed
  require (r.username.isNone && r.password.isNone) invalidUrl
  require (r.fragment = []) invalidUrl
  let port ← r.port.elim (.error .foreign) .ok
  require (port = none || port = some 443) invalidUrl
  require (!('\\' ∈ r.path) && "/media/".toList <+: r.path && r.path ≠ "/media/".toList) invalidUrl
  let values ← readValues [] (parsePairs r.query)
  require (values.lookup "name".toList = some "orig".toList) invalidUrl
  let formats ← allowedFormats variant
  require (values.lookup "format".toList ∈ formats) typeUnsupported
  .ok r

def requestTarget (r : SplitResult) : List Char :=
  if r.query = [] then r.path else r.path ++ '?' :: r.query

/-- How the resolver and the transport fail. -/
inductive CallError where
  | timeout | os | foreign
  | bridge (code message : String)

/-- `ip_address` raises on a text that is not an address: `none`. -/
def firstGlobal (isGlobal : List Char → Option Bool) :
    List (List Char × Nat) → Except Failure (List Char)
  | [] => .error hostNotAllowed
  | (address, _) :: rest =>
    match isGlobal address with
    | none => .error hostNotAllowed
    | some true => .ok address
    | some false => firstGlobal isGlobal rest

def resolveGlobalAddress (isGlobal : List Char → Option Bool) :
    Except CallError (List (List Char × Nat)) → Except Failure (List Char)
  | .ok records => firstGlobal isGlobal records
  | .error .timeout | .error .os => .error timedOut
  | .error (.bridge code message) => .error (.bridge code message)
  | .error .foreign => .error .foreign

end Admission

section Responses

structure PhotoHttpResult where
  status : Int
  headers : List (List Char × List Char)
  body : Option Bytes
  chunks : Option (List Bytes)

/- The names are lowered into a dictionary, where the last one stays. -/
def PhotoHttpResult.header (t : Tables) (name : String) (r : PhotoHttpResult) :
    Option (List Char) :=
  (r.headers.reverse.find? fun h => t.lower h.1 = name.toList).map Prod.snd

def PhotoHttpResult.pieces (r : PhotoHttpResult) : List Bytes := r.chunks.getD [r.body.getD []]

def acceptedContentTypes (variant : String) : List (List Char) :=
  if variant = xVariantPhotoJpeg then ["image/jpeg".toList, "image/jpg".toList]
  else if variant = xVariantPhotoPng then ["image/png".toList]
  else []

/- `except` around the transport. -/
def responded : Except CallError PhotoHttpResult → Except Failure PhotoHttpResult
  | .ok r => .ok r
  | .error .timeout => .error timedOut
  | .error .os => .error stagingFailed
  | .error (.bridge code message) => .error (.bridge code message)
  | .error .foreign => .error .foreign

def acceptLength : Option (List Char) → Except Failure Unit
  | none => .ok ()
  | some text => do
    let declared ← (Content.intOf text).elim (.error invalidResponse) .ok
    require (declared ≤ photoMaxBytes) tooLarge
    require (0 < declared) (unsupported "X photo exceeds size limit.")

def acceptResponse (t : Tables) (variant : String) (r : PhotoHttpResult) : Except Failure Unit := do
  require (r.status ∉ [301, 302, 303, 307, 308]) (unsupported "X photo redirect is denied.")
  require (r.status = 200) invalidResponse
  require (t.lower (trim (before ';' ((r.header t "content-type").getD []))) ∈
    acceptedContentTypes variant) typeUnsupported
  acceptLength (r.header t "content-length")

end Responses

section Streaming

/-- Which of the two paths a clean-up can unlink. -/
structure Removal where
  part : Bool
  destination : Bool

/-- The answers of the file system. An `os.write` takes a number of bytes, or fails. -/
structure FileCalls where
  first : Removal
  last : Removal
  opens : Bool
  write : Nat → Option Nat
  fsync : Bool
  close : Bool
  replace : Bool

/-- The two paths; of the `.part` file only whether it is there. -/
structure Paths where
  part : Bool
  destination : Option Bytes

/- `_cleanup_paths`. -/
def Paths.cleanup (paths : Paths) (r : Removal) : Paths :=
  ⟨paths.part && !r.part, if r.destination then none else paths.destination⟩

def Paths.Absent (paths : Paths) : Prop := paths.part = false ∧ paths.destination = none

/- `_JPEG_MAGIC` and `_PNG_MAGIC`. -/
def magicOf (mime : String) : Bytes :=
  if mime = "image/jpeg" then [0xff, 0xd8, 0xff] else [0x89, 0x50, 0x4e, 0x47]

/- Both are refused in one way; only JPEG knows WebP. -/
def assertMagic (head : Bytes) (mime : String) : Except Failure Unit :=
  let webp : Bool := [0x52, 0x49, 0x46, 0x46] <+: head ||
    (head.drop 8).take 4 = [0x57, 0x45, 0x42, 0x50]
  require (magicOf mime <+: head)
    (if mime = "image/jpeg" && webp then typeUnsupported else invalidBytes)

/-- What the loop has received, and the data of its digest. -/
structure Received where
  size : Nat
  digest : Bytes
  head : Bytes

structure Stored where
  calls : Nat
  bytes : Bytes

/- The first bytes are looked at while they grow to sixteen. -/
def checkHead (mime : String) (p : Received) (head : Bytes) : Except Failure Unit :=
  if p.head.length < 16 ∧ 3 ≤ head.length then assertMagic head mime else .ok ()

/- The size and the magic of one chunk. -/
def check (mime : String) (p : Received) (chunk : Bytes) : Except Failure Received := do
  require (p.size + chunk.length ≤ photoMaxBytes) tooLarge
  let head := p.head ++ chunk.take (16 - p.head.length)
  checkHead mime p head
  .ok ⟨p.size + chunk.length, p.digest ++ chunk, head⟩

def write (calls : FileCalls) (s : Stored) (chunk : Bytes) : Except Failure Stored :=
  match calls.write s.calls with
  | none => .error stagingFailed
  | some n => .ok ⟨s.calls + 1, s.bytes ++ chunk.take n⟩

def takeChunk (mime : String) (calls : FileCalls) (p : Received × Stored) (chunk : Bytes) :
    Except Failure (Received × Stored) := do
  let r ← check mime p.1 chunk
  let s ← write calls p.2 chunk
  .ok (r, s)

/- The loop, which passes over empty chunks, and the checks after it. -/
def takeChunks (mime : String) (calls : FileCalls) (chunks : List Bytes) :
    Except Failure (Received × Stored) := do
  let p ← (chunks.filter (· ≠ [])).foldlM (takeChunk mime calls) (⟨0, [], []⟩, ⟨0, []⟩)
  require (0 < p.1.size) invalidResponse
  assertMagic p.1.head mime
  .ok p

variable {δ : Type}

def streamPhotoToDestination (sha256 : Bytes → δ) (calls : FileCalls) (mime : String)
    (chunks : List Bytes) (paths : Paths) : Except Failure δ × Paths :=
  let cleaned := paths.cleanup calls.first
  let opened : Paths := { cleaned with part := true }
  -- `O_EXCL`
  if cleaned.part || !calls.opens then (.error stagingFailed, cleaned.cleanup calls.last)
  else
    match takeChunks mime calls chunks with
    | .error x => (.error x, opened.cleanup calls.last)
    | .ok p =>
      if calls.fsync && calls.close && calls.replace then
        (.ok (sha256 p.1.digest), ⟨false, some p.2.bytes⟩)
      else (.error stagingFailed, opened.cleanup calls.last)

end Streaming

section Fetching

/-- A call and its surroundings. -/
structure Fetch (δ : Type) where
  url : List Char
  expectedVariant : String
  /- the destination is absolute, and has a name -/
  absolute : Bool
  named : Bool
  tables : Tables
  isGlobal : List Char → Option Bool
  resolver : List Char → Nat → Except CallError (List (List Char × Nat))
  transport : List Char → List Char → List Char → Except CallError PhotoHttpResult
  calls : FileCalls
  paths : Paths
  sha256 : Bytes → δ

namespace Fetch
variable {δ : Type} (f : Fetch δ)

def expectedMime : String :=
  if f.expectedVariant = xVariantPhotoJpeg then "image/jpeg" else "image/png"

/- What comes before the transport. -/
def accept : Except Failure (SplitResult × List Char) := do
  let parsed ← validatePbsPhotoUrl f.tables f.url f.expectedVariant
  require f.absolute (.bridge "X_STAGING_FAILED" "X staging path is invalid.")
  require f.named .foreign
  let ip ← resolveGlobalAddress f.isGlobal (f.resolver pbsPhotoHost 443)
  .ok (parsed, ip)

/- The response to the one request, accepted. -/
def answer (r : SplitResult) (ip : List Char) : Except Failure PhotoHttpResult := do
  let response ← responded (f.transport ip pbsPhotoHost (requestTarget r))
  acceptResponse f.tables f.expectedVariant response
  .ok response

/-- The outcome, the paths it leaves, and the calls of the transport. -/
structure Result (δ : Type) where
  outcome : Except Failure δ
  paths : Paths
  requests : List (List Char × List Char × List Char)

/- After the transport: its own exceptions pass the clean-up by. -/
def settle (requests : List (List Char × List Char × List Char)) :
    Except Failure PhotoHttpResult → Result δ
  | .error .foreign => ⟨.error .foreign, f.paths, requests⟩
  | .error (.bridge code message) =>
    ⟨.error (.bridge code message), f.paths.cleanup f.calls.first, requests⟩
  | .ok response =>
    let streamed :=
      streamPhotoToDestination f.sha256 f.calls f.expectedMime response.pieces f.paths
    ⟨streamed.1, streamed.2, requests⟩

def fetchPbsPhoto : Result δ :=
  match f.accept with
  | .error x => ⟨.error x, f.paths, []⟩
  | .ok (r, ip) => f.settle [(ip, pbsPhotoHost, requestTarget r)] (f.answer r ip)

end Fetch
end Fetching

section Integrity
variable {δ : Type}

/-- The stored bytes are the body of the response, within the limit and of the expected kind, and
as long as the response declared. -/
structure Whole (f : Fetch δ) (response : PhotoHttpResult) (content : Bytes) : Prop where
  body : content = response.pieces.flatten
  bounded : content.length ≤ photoMaxBytes
  magic : magicOf f.expectedMime <+: content
  declared : ∀ text ∈ response.header f.tables "content-length",
    Content.intOf text = some content.length

/-- The outcome and the paths agree. -/
def Fetch.Settled (f : Fetch δ) (r : Except Failure δ) (paths : Paths)
    (requests : List (List Char × List Char × List Char)) : Prop :=
  match r with
  | .ok digest => ∃ content ip host target response, (ip, host, target) ∈ requests ∧
      f.transport ip host target = .ok response ∧ paths.destination = some content ∧
        digest = f.sha256 content ∧ Whole f response content
  | .error (.bridge _ _) => paths.Absent
  | .error .foreign => False

/-- The transport is called with a global address of the host and an accepted URL. -/
def Fetch.Asks (f : Fetch δ) (request : List Char × List Char × List Char) : Prop :=
  (∃ records port, f.resolver pbsPhotoHost 443 = .ok records ∧ (request.1, port) ∈ records ∧
      f.isGlobal request.1 = some true) ∧
    request.2.1 = pbsPhotoHost ∧ ∃ r, validatePbsPhotoUrl f.tables f.url f.expectedVariant = .ok r ∧
      request.2.2 = requestTarget r

def Fetch.Lawful (f : Fetch δ) : Prop :=
  let result := f.fetchPbsPhoto
  f.Settled result.outcome result.paths result.requests ∧ ∀ request ∈ result.requests, f.Asks request

/-- The body passes the size and magic checks, and no call on the file fails. -/
structure Completes (calls : FileCalls) (mime : String) (chunks : List Bytes) (paths : Paths) :
    Prop where
  opened : (paths.cleanup calls.first).part = false ∧ calls.opens = true
  checked : ∃ r, chunks.foldlM (check mime) ⟨0, [], []⟩ = .ok r ∧ 0 < r.size ∧
    assertMagic r.head mime = .ok ()
  written : ∃ s, chunks.foldlM (write calls) ⟨0, []⟩ = .ok s
  closed : calls.fsync = true ∧ calls.close = true ∧ calls.replace = true

/-- No `os.write` takes less than its chunk, and the declared length is the body's. -/
def Honest (f : Fetch δ) (response : PhotoHttpResult) : Prop :=
  (∀ i chunk, (response.pieces.filter (· ≠ []))[i]? = some chunk →
      ∀ n, f.calls.write i = some n → chunk.length ≤ n) ∧
    ∀ text ∈ response.header f.tables "content-length",
      Content.intOf text = some (response.pieces.flatten.length : Int)

/-- What decides after the transport whether the call keeps the law. -/
def Fetch.Unspoiled (f : Fetch δ) : Except Failure PhotoHttpResult → Prop
  | .error .foreign => False
  | .error (.bridge _ _) => (f.paths.cleanup f.calls.first).Absent
  | .ok response =>
    let cleaned := f.paths.cleanup f.calls.first
    let completes := Completes f.calls f.expectedMime (response.pieces.filter (· ≠ [])) f.paths
    (completes → Honest f response) ∧ (¬completes →
      (f.calls.last.part = true ∨ cleaned.part = false ∧ f.calls.opens = false) ∧
        (f.calls.last.destination = true ∨ cleaned.destination = none))

def Fetch.Undisturbed (f : Fetch δ) : Prop :=
  match f.accept with
  | .error .foreign => False
  | .error (.bridge _ _) => f.paths.Absent
  | .ok (r, ip) => f.Unspoiled (f.answer r ip)

end Integrity

section Loop
variable {mime : String} {calls : FileCalls} {chunks : List Bytes} {r r' : Received} {s s' : Stored}
  {p : Received × Stored}

theorem foldlM_takeChunk : chunks.foldlM (takeChunk mime calls) (r, s) = .ok p ↔
    chunks.foldlM (check mime) r = .ok p.1 ∧ chunks.foldlM (write calls) s = .ok p.2 := by
  induction chunks generalizing r s with
  | nil =>
    constructor
    · intro h
      cases h
      exact ⟨rfl, rfl⟩
    · rintro ⟨hr, hs⟩
      cases hr
      cases hs
      rfl
  | cons chunk rest ih =>
    simp only [List.foldlM_cons, bind_eq_ok, takeChunk]
    constructor
    · rintro ⟨q, ⟨r', hr, s', hs, hq⟩, hrest⟩
      cases hq
      obtain ⟨hr', hs'⟩ := ih.mp hrest
      exact ⟨⟨r', hr, hr'⟩, s', hs, hs'⟩
    · rintro ⟨⟨r', hr, hr'⟩, s', hs, hs'⟩
      exact ⟨(r', s'), ⟨r', hr, s', hs, rfl⟩, ih.mpr ⟨hr', hs'⟩⟩

/-- The data of the digest is what came, and `head` its first bytes. -/
theorem checked_data (h : chunks.foldlM (check mime) r = .ok r') :
    r'.digest = r.digest ++ chunks.flatten ∧ r'.size = r.size + chunks.flatten.length ∧
      (r.head = r.digest.take 16 → r'.head = r'.digest.take 16) ∧
        (r.size ≤ photoMaxBytes → r'.size ≤ photoMaxBytes) := by
  induction chunks generalizing r with
  | nil =>
    cases h
    simp
  | cons chunk rest ih =>
    rw [List.foldlM_cons, bind_eq_ok] at h
    obtain ⟨q, hq, hrest⟩ := h
    obtain ⟨hsize, hq⟩ := require_bind_eq_ok.mp hq
    obtain ⟨-, -, hq⟩ := bind_eq_ok.mp hq
    cases hq
    obtain ⟨hdigest, hlength, hhead, hbound⟩ := ih hrest
    refine ⟨?_, ?_, fun hr => hhead ?_, fun _ => hbound (by simpa using hsize)⟩
    · simp [hdigest]
    · simp only [hlength, List.flatten_cons, List.length_append]
      omega
    · simp only [hr, List.take_append, List.length_take]
      congr 2
      omega

/-- Nothing is lost where, and only where, every write is whole. -/
theorem written_data (h : chunks.foldlM (write calls) s = .ok s') :
    s'.bytes.length ≤ s.bytes.length + chunks.flatten.length ∧
      (s'.bytes = s.bytes ++ chunks.flatten ↔ ∀ i chunk, chunks[i]? = some chunk →
        ∀ n, calls.write (s.calls + i) = some n → chunk.length ≤ n) := by
  induction chunks generalizing s with
  | nil =>
    cases h
    simp
  | cons chunk rest ih =>
    rw [List.foldlM_cons, bind_eq_ok] at h
    obtain ⟨q, hq, hrest⟩ := h
    cases hwrite : calls.write s.calls with
    | none => simp [write, hwrite] at hq
    | some n =>
      simp only [write, hwrite, Except.ok.injEq] at hq
      subst hq
      obtain ⟨hle, hiff⟩ := ih hrest
      simp only [List.length_append, List.length_take] at hle
      have hshift : ∀ i, s.calls + 1 + i = s.calls + (i + 1) := by omega
      simp only [hshift] at hiff
      refine ⟨?_, ?_⟩
      · simp only [List.flatten_cons, List.length_append]
        omega
      · by_cases hwhole : chunk.length ≤ n
        · rw [List.take_of_length_le hwhole, List.append_assoc] at hiff
          rw [List.flatten_cons, hiff]
          constructor
          · intro hall i piece hpiece m hm
            cases i with
            | zero =>
              cases hpiece
              cases hwrite.symm.trans hm
              exact hwhole
            | succ i => exact hall i piece (by simpa using hpiece) m hm
          · intro hall i piece hpiece m hm
            exact hall (i + 1) piece (by simpa using hpiece) m hm
        · constructor
          · intro hbytes
            have hlength := congrArg List.length hbytes
            simp only [List.flatten_cons, List.length_append] at hlength
            omega
          · intro hall
            exact absurd (hall 0 chunk rfl n hwrite) hwhole

theorem takeChunks_ok : takeChunks mime calls chunks = .ok p ↔
    ((chunks.filter (· ≠ [])).foldlM (check mime) ⟨0, [], []⟩ = .ok p.1 ∧ 0 < p.1.size ∧
      assertMagic p.1.head mime = .ok ()) ∧
        (chunks.filter (· ≠ [])).foldlM (write calls) ⟨0, []⟩ = .ok p.2 := by
  unfold takeChunks
  rw [bind_eq_ok]
  constructor
  · rintro ⟨q, hq, h⟩
    obtain ⟨hsize, h⟩ := require_bind_eq_ok.mp h
    obtain ⟨_, hmagic, h⟩ := bind_eq_ok.mp h
    cases h
    obtain ⟨hchecked, hwritten⟩ := foldlM_takeChunk.mp hq
    exact ⟨⟨hchecked, by simpa using hsize, hmagic⟩, hwritten⟩
  · rintro ⟨⟨hchecked, hsize, hmagic⟩, hwritten⟩
    refine ⟨p, foldlM_takeChunk.mpr ⟨hchecked, hwritten⟩, ?_⟩
    rw [require_bind_eq_ok, bind_eq_ok]
    exact ⟨by simpa using hsize, _, hmagic, rfl⟩

theorem bridge_ne {code message : String} : Failure.bridge code message ≠ .foreign := nofun

theorem assertMagic_raises (head : Bytes) : Raises (· ≠ .foreign) (assertMagic head mime) := by
  apply Raises.require
  split <;> exact bridge_ne

theorem takeChunk_raises (chunk : Bytes) :
    Raises (· ≠ .foreign) (takeChunk mime calls p chunk) := by
  have hchecked : Raises (· ≠ .foreign) (check mime p.1 chunk) := by
    refine Raises.require_bind bridge_ne fun _ => Raises.bind ?_ fun _ _ => Raises.ok _
    unfold checkHead
    split
    · exact assertMagic_raises _
    · exact Raises.ok ()
  have hwritten : Raises (· ≠ .foreign) (write calls p.2 chunk) := by
    unfold write
    cases calls.write p.2.calls with
    | none => exact Raises.error bridge_ne
    | some n => exact Raises.ok _
  exact hchecked.bind fun r _ => hwritten.bind fun s _ => Raises.ok _

theorem takeChunks_raises : Raises (· ≠ .foreign) (takeChunks mime calls chunks) := by
  have hloop : ∀ (pieces : List Bytes) (p : Received × Stored),
      Raises (· ≠ .foreign) (pieces.foldlM (takeChunk mime calls) p) := by
    intro pieces
    induction pieces with
    | nil => exact fun p => Raises.ok p
    | cons chunk rest ih =>
      intro p
      rw [List.foldlM_cons]
      exact (takeChunk_raises chunk).bind fun q _ => ih q
  refine (hloop _ _).bind fun p _ => Raises.require_bind bridge_ne fun _ => ?_
  exact (assertMagic_raises _).bind fun _ _ => Raises.ok _

end Loop

section Law
variable {δ : Type} {f : Fetch δ} {response : PhotoHttpResult}

theorem Paths.cleanup_absent {paths : Paths} {r : Removal} : (paths.cleanup r).Absent ↔
    (r.part = true ∨ paths.part = false) ∧ (r.destination = true ∨ paths.destination = none) := by
  cases hp : paths.part <;> cases hr : r.part <;> cases hd : r.destination <;>
    simp [Paths.cleanup, Paths.Absent, hp, hr, hd]

theorem assertMagic_ok {head : Bytes} {mime : String} :
    assertMagic head mime = .ok () ↔ magicOf mime <+: head := by
  rw [assertMagic, require_eq_ok, decide_eq_true_eq]

/-- A call that completes keeps the law where it loses nothing. -/
theorem completes_settled {ip target : List Char}
    (hresponse : f.transport ip pbsPhotoHost target = .ok response)
    (h : Completes f.calls f.expectedMime (response.pieces.filter (· ≠ [])) f.paths) :
    let streamed := streamPhotoToDestination f.sha256 f.calls f.expectedMime response.pieces f.paths
    f.Settled streamed.1 streamed.2 [(ip, pbsPhotoHost, target)] ↔ Honest f response := by
  obtain ⟨r, hchecked, hsize, hmagic⟩ := h.checked
  obtain ⟨s, hwritten⟩ := h.written
  have htaken : takeChunks f.expectedMime f.calls response.pieces = .ok (r, s) :=
    takeChunks_ok.mpr ⟨⟨hchecked, hsize, hmagic⟩, hwritten⟩
  obtain ⟨hdigest, hlength, hhead, hbound⟩ := checked_data hchecked
  have hwhole := (written_data hwritten).2
  rw [List.flatten_filter_ne_nil] at hdigest hlength hwhole
  simp only [List.nil_append, Nat.zero_add] at hdigest hlength hwhole
  have hstream : streamPhotoToDestination f.sha256 f.calls f.expectedMime response.pieces f.paths =
      (.ok (f.sha256 r.digest), ⟨false, some s.bytes⟩) := by
    simp [streamPhotoToDestination, h.opened, h.closed, htaken]
  rw [hstream]
  constructor
  · rintro ⟨content, ip', host, target', response', hmem, hresponse', hstored, -, hcontent⟩
    simp only [List.mem_singleton, Prod.mk.injEq] at hmem
    obtain ⟨rfl, rfl, rfl⟩ := hmem
    cases hresponse.symm.trans hresponse'
    cases hstored
    refine ⟨hwhole.mp hcontent.body, fun text htext => ?_⟩
    rw [← hcontent.body]
    exact hcontent.declared text htext
  · rintro ⟨hwrites, hdeclared⟩
    have hbytes := hwhole.mpr hwrites
    refine ⟨s.bytes, ip, _, target, response, by simp, hresponse, rfl, ?_, hbytes, ?_, ?_, ?_⟩
    · rw [hdigest, hbytes]
    · rw [hbytes, ← hlength]
      exact hbound (Nat.zero_le _)
    · rw [hbytes, ← hdigest]
      have hprefix := assertMagic_ok.mp hmagic
      rw [hhead rfl] at hprefix
      exact hprefix.trans (List.take_prefix _ _)
    · intro text htext
      rw [hbytes]
      exact hdeclared text htext

/-- A call that does not complete raises, and its clean-ups decide. -/
theorem fails_settled {requests : List (List Char × List Char × List Char)}
    (h : ¬Completes f.calls f.expectedMime (response.pieces.filter (· ≠ [])) f.paths) :
    let streamed := streamPhotoToDestination f.sha256 f.calls f.expectedMime response.pieces f.paths
    let cleaned := f.paths.cleanup f.calls.first
    f.Settled streamed.1 streamed.2 requests ↔
      (f.calls.last.part = true ∨ cleaned.part = false ∧ f.calls.opens = false) ∧
        (f.calls.last.destination = true ∨ cleaned.destination = none) := by
  intro streamed cleaned
  have hraised : ∀ x, x ≠ Failure.foreign → ∀ paths : Paths, f.Settled (.error x) paths requests ↔
      paths.Absent := by
    intro x hx paths
    cases x with
    | bridge => exact Iff.rfl
    | foreign => exact absurd rfl hx
  by_cases hopened : cleaned.part = false ∧ f.calls.opens = true
  · have hcases : ∃ x, x ≠ Failure.foreign ∧
        streamed = (.error x, ({ cleaned with part := true } : Paths).cleanup f.calls.last) := by
      simp only [streamed, streamPhotoToDestination, cleaned] at hopened ⊢
      rw [hopened.1, hopened.2]
      cases htaken : takeChunks f.expectedMime f.calls response.pieces with
      | error x => exact ⟨x, takeChunks_raises x htaken, by simp⟩
      | ok p =>
        by_cases hclosed : f.calls.fsync = true ∧ f.calls.close = true ∧ f.calls.replace = true
        · obtain ⟨hchecked, hwritten⟩ := takeChunks_ok.mp htaken
          exact absurd ⟨hopened, ⟨_, hchecked⟩, ⟨_, hwritten⟩, hclosed⟩ h
        · have hshut : (f.calls.fsync && f.calls.close && f.calls.replace) = false := by
            simpa [and_assoc] using hclosed
          exact ⟨stagingFailed, bridge_ne, by simp [hshut]⟩
    obtain ⟨x, hx, heq⟩ := hcases
    rw [heq, hraised x hx, Paths.cleanup_absent]
    simp [hopened]
  · have heq : streamed = (.error stagingFailed, cleaned.cleanup f.calls.last) := by
      have hshut : (cleaned.part || !f.calls.opens) = true := by
        cases hp : cleaned.part <;> cases ho : f.calls.opens <;> simp_all
      simp only [streamed, streamPhotoToDestination]
      rw [if_pos hshut]
    rw [heq, hraised stagingFailed bridge_ne, Paths.cleanup_absent]
    cases hp : cleaned.part <;> cases ho : f.calls.opens <;> simp_all

theorem firstGlobal_ok {isGlobal : List Char → Option Bool} {records : List (List Char × Nat)}
    {ip : List Char} (h : firstGlobal isGlobal records = .ok ip) :
    (∃ port, (ip, port) ∈ records) ∧ isGlobal ip = some true := by
  induction records with
  | nil => cases h
  | cons record rest ih =>
    cases hglobal : isGlobal record.1 with
    | none => simp [firstGlobal, hglobal] at h
    | some b =>
      cases b with
      | true =>
        simp only [firstGlobal, hglobal, Except.ok.injEq] at h
        subst h
        exact ⟨⟨record.2, List.mem_cons_self⟩, hglobal⟩
      | false =>
        simp only [firstGlobal, hglobal] at h
        obtain ⟨⟨port, hport⟩, hip⟩ := ih h
        exact ⟨⟨port, List.mem_cons_of_mem _ hport⟩, hip⟩

/-- What is admitted may be asked for. -/
theorem accept_asks {r : SplitResult} {ip : List Char} (h : f.accept = .ok (r, ip)) :
    f.Asks (ip, pbsPhotoHost, requestTarget r) := by
  obtain ⟨parsed, hparsed, h⟩ := bind_eq_ok.mp h
  obtain ⟨-, h⟩ := require_bind_eq_ok.mp h
  obtain ⟨-, h⟩ := require_bind_eq_ok.mp h
  obtain ⟨address, haddress, h⟩ := bind_eq_ok.mp h
  cases h
  refine ⟨?_, rfl, _, hparsed, rfl⟩
  cases hrecords : f.resolver pbsPhotoHost 443 with
  | error e => cases e <;> simp [hrecords, resolveGlobalAddress] at haddress
  | ok records =>
    rw [hrecords] at haddress
    obtain ⟨⟨port, hport⟩, hglobal⟩ := firstGlobal_ok haddress
    exact ⟨records, port, rfl, hport, hglobal⟩

theorem answer_ok {r : SplitResult} {ip : List Char} (h : f.answer r ip = .ok response) :
    f.transport ip pbsPhotoHost (requestTarget r) = .ok response := by
  obtain ⟨_, hresponded, h⟩ := bind_eq_ok.mp h
  obtain ⟨-, -, h⟩ := bind_eq_ok.mp h
  cases h
  cases htransport : f.transport ip pbsPhotoHost (requestTarget r) with
  | error e => cases e <;> simp [htransport, responded] at hresponded
  | ok answered =>
    rw [htransport] at hresponded
    cases hresponded
    rfl

/-- A transfer keeps its law exactly where no other exception comes from the URL, the path, the
resolver or the transport, every clean-up that an exit needs works, every write takes its whole
chunk, and the declared length is that of the body. -/
theorem photo_transfer_lawful_iff (f : Fetch δ) : f.Lawful ↔ f.Undisturbed := by
  cases haccept : f.accept with
  | error x => cases x <;> simp [Fetch.Lawful, Fetch.fetchPbsPhoto, Fetch.Undisturbed,
      Fetch.Settled, haccept]
  | ok admitted =>
    obtain ⟨r, ip⟩ := admitted
    have hfetch : f.fetchPbsPhoto =
        f.settle [(ip, pbsPhotoHost, requestTarget r)] (f.answer r ip) := by
      rw [Fetch.fetchPbsPhoto, haccept]
    have hcondition : f.Undisturbed = f.Unspoiled (f.answer r ip) := by
      rw [Fetch.Undisturbed, haccept]
    rw [Fetch.Lawful, hfetch, hcondition]
    have hasks := accept_asks haccept
    cases hanswer : f.answer r ip with
    | error x => cases x <;> simp [Fetch.Settled, Fetch.settle, Fetch.Unspoiled, hasks]
    | ok response =>
      simp only [Fetch.settle, Fetch.Unspoiled, List.mem_singleton, forall_eq, hasks, and_true]
      by_cases h : Completes f.calls f.expectedMime (response.pieces.filter (· ≠ [])) f.paths
      · simpa only [h, true_implies, not_true, false_implies, and_true] using
          completes_settled (answer_ok hanswer) h
      · simpa only [h, false_implies, not_false_eq_true, true_implies, true_and] using
          fails_settled h

/-- A response of three bytes that declares nine. -/
def cutPhoto : Fetch Bytes where
  url := "https://pbs.twimg.com/media/a?name=orig".toList
  expectedVariant := xVariantPhotoJpeg
  absolute := true
  named := true
  tables := asciiTables
  isGlobal _ := some true
  resolver _ _ := .ok [("8.8.8.8".toList, 443)]
  transport _ _ _ := .ok ⟨200, [("content-type".toList, "image/jpeg".toList),
    ("content-length".toList, "9".toList)], some [0xff, 0xd8, 0xff], none⟩
  calls := ⟨⟨true, true⟩, ⟨true, true⟩, true, fun _ => some 3, true, true, true⟩
  paths := ⟨false, none⟩
  sha256 := id

/-- A photo that is cut short is taken for the whole one. -/
theorem cut_photo_accepted : ¬cutPhoto.Lawful := by
  have hfetch : cutPhoto.fetchPbsPhoto.outcome = .ok [0xff, 0xd8, 0xff] ∧
      cutPhoto.fetchPbsPhoto.paths.destination = some [0xff, 0xd8, 0xff] := by
    constructor <;> decide +kernel
  rintro ⟨hsettled, -⟩
  rw [hfetch.1] at hsettled
  obtain ⟨content, ip, host, target, response, -, hresponse, hstored, -, hwhole⟩ := hsettled
  cases hresponse
  cases hfetch.2.symm.trans hstored
  have hdeclared := hwhole.declared "9".toList (by decide +kernel)
  exact absurd hdeclared (by decide +kernel)

end Law
end FrameNest.XPhotos
