import FrameNest.Streams.Transport
import FrameNest.Text.JsonFields

/-! Protocol v1 of the catalog backup transfer: the header, the stream that is written, and how a
receiver reads it from a transport that cuts it in any way. -/
namespace FrameNest.Transfer
open PyStr PyJson Transport

abbrev Bytes := List UInt8

/-- What is raised: a `TransferError`, or something that is none. -/
inductive Raised where
  | transfer (message code : String)
  | other
deriving DecidableEq

/-- Why a descriptor cannot be read on. -/
inductive Stop where
  | timeout
  | failed
deriving DecidableEq

/- The characters of `b"FNCBE01\0"`. -/
def protocolMagic : Bytes := [0x46, 0x4e, 0x43, 0x42, 0x45, 0x30, 0x31, 0x00]
def protocolVersion : Int := 1
def maxHeaderBytes : Nat := 8192
def streamIoChunkBytes : Nat := 64 * 1024
def manifestName : String := "manifest.json"
def catalogName : String := "catalog.sqlite3"

def headerRequiredKeys : List String :=
  ["protocol_version", "bundle_id", "manifest_filename", "catalog_filename", "manifest_size_bytes",
    "manifest_sha256", "catalog_size_bytes", "catalog_sha256", "alembic_revision", "semantic"]

def hexDigits : List Char := "0123456789abcdef".toList

/-- SHA-256 as `hexdigest` writes it. -/
structure Digest where
  hexdigest : Bytes → String
  length_hex : ∀ b, (hexdigest b).toList.length = 64
  chars_hex : ∀ b, ∀ c ∈ (hexdigest b).toList, c ∈ hexDigits

structure BundleIdentity where
  bundleId : String
  catalogSha256 : String
  catalogSizeBytes : Nat
  alembicRevision : String
  manifestSha256 : String
  manifestSizeBytes : Nat
deriving DecidableEq

/-- Semantic evidence; a `dict` has every key once. -/
structure Semantic where
  alembicRevision : String
  counts : List (String × Int)
  distinct : (counts.map Prod.fst).Nodup

section Header

def headerTooLarge : Raised :=
  .transfer "Protocol header exceeds maximum size." "TRANSFER_HEADER_TOO_LARGE"
def headerMalformed : Raised :=
  .transfer "Protocol header is malformed." "TRANSFER_HEADER_MALFORMED"
def headerMissing : Raised :=
  .transfer "Protocol header is missing required fields." "TRANSFER_HEADER_MISSING_FIELD"
def headerUnknown : Raised :=
  .transfer "Protocol header contains unknown fields." "TRANSFER_HEADER_UNKNOWN_FIELD"
def versionUnsupported : Raised :=
  .transfer "Unsupported transfer protocol version." "TRANSFER_PROTOCOL_UNSUPPORTED"
def manifestMismatch : Raised :=
  .transfer "Protocol manifest filename mismatch." "TRANSFER_FILENAME_MISMATCH"
def catalogMismatch : Raised :=
  .transfer "Protocol catalog filename mismatch." "TRANSFER_FILENAME_MISMATCH"
def headerInvalid (message : String) : Raised := .transfer message "TRANSFER_HEADER_INVALID"
def semanticInvalid : Raised := headerInvalid "Protocol semantic evidence is invalid."

/- `_normalize_semantic` of the evidence that is sent. -/
def Semantic.normalize (s : Semantic) : Except Raised Semantic :=
  if s.alembicRevision = "" then .error semanticInvalid
  else if s.counts.all fun c => c.1 ≠ "" && c.1.length ≤ 64 && 0 ≤ c.2 then .ok s
  else .error semanticInvalid

def Semantic.json (s : Semantic) : PyJson :=
  dict [("alembic_revision", .str (ofString s.alembicRevision)),
    ("counts", dict (s.counts.map fun c => (c.1, .int c.2)))]

def members (i : BundleIdentity) (s : Semantic) : List (String × PyJson) :=
  [("protocol_version", .int protocolVersion),
    ("bundle_id", .str (ofString i.bundleId)),
    ("manifest_filename", .str (ofString manifestName)),
    ("catalog_filename", .str (ofString catalogName)),
    ("manifest_size_bytes", .int i.manifestSizeBytes),
    ("manifest_sha256", .str (ofString i.manifestSha256)),
    ("catalog_size_bytes", .int i.catalogSizeBytes),
    ("catalog_sha256", .str (ofString i.catalogSha256)),
    ("alembic_revision", .str (ofString i.alembicRevision)),
    ("semantic", s.json)]

/- `build_protocol_v1_header`; an integer too long to write raises `ValueError`. -/
def buildHeader (i : BundleIdentity) (s : Semantic) : Except Raised Bytes := do
  let normalized ← s.normalize
  match (dumps true (dict (members i normalized))).bind Utf8.encode with
  | none => .error .other
  | some encoded => if maxHeaderBytes < encoded.length then .error headerTooLarge else .ok encoded

/-- A decoded header: the members of the object as they were read. -/
abbrev Header := List (PyStr × PyJson)

/- `payload.get(key)`; the last member of a key is the one a `dict` keeps. -/
def get (header : Header) (key : PyStr) : Option PyJson := header.reverse.lookup key

/- `{..} == set(payload.keys())`, in two inclusions. -/
def hasKeys (header : Header) (keys : List String) : Bool :=
  keys.all fun key => (header.map Prod.fst).contains (ofString key)
def onlyKeys (header : Header) (keys : List String) : Bool :=
  header.all fun m => (keys.map ofString).contains m.1

def isNatural : Option PyJson → Bool
  | some (.int n) => 0 ≤ n
  | _ => false

def isText : Option PyJson → Bool
  | some (.str s) => s ≠ []
  | _ => false

/- `_normalize_semantic` of what was received. -/
def normalizeSemantic (semantic : Header) : Except Raised Unit :=
  if !(hasKeys semantic ["alembic_revision", "counts"] &&
      onlyKeys semantic ["alembic_revision", "counts"]) then .error semanticInvalid
  else if !isText (get semantic (ofString "alembic_revision")) then .error semanticInvalid
  else
    match get semantic (ofString "counts") with
    | some (.obj counts) =>
      if counts.all fun c => c.1 ≠ [] && c.1.length ≤ 64 && isNatural (get counts c.1) then .ok ()
      else .error semanticInvalid
    | _ => .error semanticInvalid

variable (isOne : List Char → Bool)

/- `== PROTOCOL_VERSION`, which `True` and a float that is one are as well. -/
def isVersion : Option PyJson → Bool
  | some (.int n) => n = protocolVersion
  | some (.bool b) => b
  | some (.float literal) => isOne literal
  | _ => false

def isDigest : Option PyJson → Bool
  | some (.str s) => s.length = 64 && s.all fun c => (hexDigits.map CodePoint.char).contains c
  | _ => false

def isName (name : String) : Option PyJson → Bool
  | some (.str s) => s = ofString name
  | _ => false

def isBundleId : Option PyJson → Bool
  | some (.str s) => s ≠ [] && s.length ≤ 128
  | _ => false

/- The checks of `parse_protocol_v1_header` on the decoded object. -/
def checkHeader (header : Header) : Except Raised Unit :=
  let field (key : String) := get header (ofString key)
  if !hasKeys header headerRequiredKeys then .error headerMissing
  else if !onlyKeys header headerRequiredKeys then .error headerUnknown
  else if !isVersion isOne (field "protocol_version") then .error versionUnsupported
  else if !isName manifestName (field "manifest_filename") then .error manifestMismatch
  else if !isName catalogName (field "catalog_filename") then .error catalogMismatch
  else if !isBundleId (field "bundle_id") then
    .error (headerInvalid "Protocol bundle identity is invalid.")
  else if !(isNatural (field "manifest_size_bytes") && isNatural (field "catalog_size_bytes")) then
    .error (headerInvalid "Protocol size fields are invalid.")
  else if !(isDigest (field "manifest_sha256") && isDigest (field "catalog_sha256")) then
    .error (headerInvalid "Protocol digest fields are invalid.")
  else if !isText (field "alembic_revision") then
    .error (headerInvalid "Protocol revision is invalid.")
  else
    match field "semantic" with
    | some (.obj semantic) => normalizeSemantic semantic
    | _ => .error semanticInvalid

/- `parse_protocol_v1_header`; `nesting` is how deep `json.loads` can go. -/
def parseHeader (nesting : Nat) (bytes : Bytes) : Except Raised Header :=
  if maxHeaderBytes < bytes.length then .error headerTooLarge
  else
    match Utf8.decodeStrict bytes with
    | none => .error headerMalformed
    | some text =>
      match JsonReader.loads ⟨nesting, false⟩ (ofChars text) with
      | .error .malformed => .error headerMalformed
      | .error .raised => .error .other
      | .ok (.obj header) =>
        match checkHeader isOne header with
        | .ok _ => .ok header
        | .error e => .error e
      | .ok _ => .error headerMalformed

end Header

section Writing

/-- How one `os.write` of a descriptor goes: it takes at most so many bytes beyond one, it has to be
made again, or it is given up. -/
inductive WriteAnswer where
  | took (more : Nat)
  | again
  | stopped (e : Raised)

/- `_write_bytes_with_no_progress`; without further answers everything is taken at once. -/
def writeBytes : List WriteAnswer → Bytes → Except Raised (Bytes × List WriteAnswer)
  | answers, [] => .ok ([], answers)
  | [], data => .ok (data, [])
  | .took more :: rest, b :: data =>
    let taken := min (more + 1) streamIoChunkBytes
    match writeBytes rest ((b :: data).drop taken) with
    | .ok (written, answers) => .ok ((b :: data).take taken ++ written, answers)
    | .error e => .error e
  | .again :: rest, b :: data => writeBytes rest (b :: data)
  | .stopped e :: _, _ :: _ => .error e

def sizeChanged : Raised :=
  .transfer "Source file size changed during export." "TRANSFER_SOURCE_SIZE_CHANGED"
def digestChanged : Raised :=
  .transfer "Source file digest changed during export." "TRANSFER_SOURCE_DIGEST_CHANGED"

/- The loop of `_stream_exact_file` over the chunks the file is read in; an empty one ends it. -/
def streamChunks : List Bytes → List WriteAnswer →
    Except Raised (Bytes × Bytes × List WriteAnswer)
  | [], answers => .ok ([], [], answers)
  | [] :: _, answers => .ok ([], [], answers)
  | (b :: chunk) :: reads, answers => do
    let (written, answers) ← writeBytes answers (b :: chunk)
    let (data, more, answers) ← streamChunks reads answers
    return (b :: chunk ++ data, written ++ more, answers)

/- `_stream_exact_file`: the bytes that were read are counted and digested. -/
def streamExactFile (h : Digest) (reads : List Bytes) (expectedSize : Nat) (expectedSha256 : String)
    (answers : List WriteAnswer) : Except Raised (Bytes × List WriteAnswer) := do
  let (data, written, answers) ← streamChunks reads answers
  if data.length ≠ expectedSize then .error sizeChanged
  else if h.hexdigest data ≠ expectedSha256 then .error digestChanged
  else return (written, answers)

/- `n.to_bytes(4, "big")`. -/
def toBytes4 (n : Nat) : Bytes :=
  [(n / 16777216).toUInt8, (n / 65536).toUInt8, (n / 256).toUInt8, n.toUInt8]

/- `int.from_bytes(b, "big")`. -/
def fromBytes (b : Bytes) : Nat := b.foldl (fun n byte => n * 256 + byte.toNat) 0

/- `write_protocol_v1_stream`: what has come out of the descriptor when it returns. -/
def writeProtocolV1Stream (h : Digest) (i : BundleIdentity) (s : Semantic)
    (manifestReads catalogReads : List Bytes) (answers : List WriteAnswer) :
    Except Raised Bytes := do
  let header ← buildHeader i s
  let (magic, answers) ← writeBytes answers protocolMagic
  let (length, answers) ← writeBytes answers (toBytes4 header.length)
  let (head, answers) ← writeBytes answers header
  let (manifest, answers) ←
    streamExactFile h manifestReads i.manifestSizeBytes i.manifestSha256 answers
  let (catalog, _) ← streamExactFile h catalogReads i.catalogSizeBytes i.catalogSha256 answers
  return magic ++ length ++ head ++ manifest ++ catalog

end Writing

section Receiving
variable (h : Digest) (isOne : List Char → Bool) (nesting : Nat)

abbrev Events := List (Event UInt8 (Option Stop))

/- The errors of a read; `none` is the end of the stream. -/
def readError (what : String) : Option Stop → Raised
  | none => .transfer ("Premature EOF while reading " ++ what ++ ".") "TRANSFER_PREMATURE_EOF"
  | some .timeout => .transfer ("Transfer timed out while reading " ++ what ++ ".") "TRANSFER_TIMEOUT"
  | some .failed =>
    .transfer ("Transfer read failed while reading " ++ what ++ ".") "TRANSFER_READ_FAILED"

/- `read_exact` of a descriptor. -/
def readExact (size : Nat) (what : String) (events : Events) : Except Raised (Bytes × Events) :=
  match Transport.readExact none (streamIoChunkBytes - 1) size events with
  | .ok result => .ok result
  | .error e => .error (readError what e)

def magicMismatch : Raised := .transfer "Protocol magic mismatch." "TRANSFER_MAGIC_MISMATCH"

/- `read_protocol_v1_preamble`. -/
def readPreamble (events : Events) : Except Raised (Header × Events) := do
  let (magic, events) ← readExact protocolMagic.length "protocol magic" events
  if magic ≠ protocolMagic then .error magicMismatch
  else
    let (lengthBytes, events) ← readExact 4 "header length" events
    if maxHeaderBytes < fromBytes lengthBytes then .error headerTooLarge
    else
      let (headerBytes, events) ← readExact (fromBytes lengthBytes) "protocol header" events
      let header ← parseHeader isOne nesting headerBytes
      return (header, events)

/- The loop of `receive_file_bytes`. -/
def receiveLoop (remaining : Nat) (events : Events) : Except Raised (Bytes × Events) :=
  if _ : remaining = 0 then .ok ([], events)
  else
    match readExact (min remaining streamIoChunkBytes) "transfer payload" events with
    | .error e => .error e
    | .ok (chunk, events) =>
      match receiveLoop (remaining - min remaining streamIoChunkBytes) events with
      | .ok (more, events) => .ok (chunk ++ more, events)
      | .error e => .error e
termination_by remaining
decreasing_by
  simp only [streamIoChunkBytes]
  omega

/-- A file to receive into: whether its name is taken, and how creating, writing or syncing it
fails. -/
structure Destination where
  taken : Bool
  failure : Option Raised

def Destination.fresh : Destination := ⟨false, none⟩

def stageExists : Raised :=
  .transfer "Transfer staging path already exists." "TRANSFER_STAGE_EXISTS"
def sizeMismatch : Raised :=
  .transfer "Transfer payload size mismatch." "TRANSFER_SIZE_MISMATCH"
def digestMismatch : Raised :=
  .transfer "Transfer payload digest mismatch." "TRANSFER_DIGEST_MISMATCH"

/- `receive_file_bytes`. -/
def receiveFileBytes (destination : Destination) (expectedSize : Nat) (expectedSha256 : PyStr)
    (events : Events) : Except Raised (Bytes × Events) :=
  if destination.taken then .error stageExists
  else do
    let (received, events) ← receiveLoop expectedSize events
    match destination.failure with
    | some e => .error e
    | none =>
      if received.length ≠ expectedSize then .error sizeMismatch
      else if ofString (h.hexdigest received) ≠ expectedSha256 then .error digestMismatch
      else return (received, events)

def trailingBytes : Raised :=
  .transfer "Unexpected trailing bytes after transfer payload." "TRANSFER_TRAILING_BYTES"

/- `assert_stream_eof`: an interrupted read counts as the end of the stream. -/
def assertStreamEof (events : Events) : Except Raised Unit :=
  match (Transport.read 1 events).1 with
  | .items [] => .ok ()
  | .items (_ :: _) => .error trailingBytes
  | .interrupted => .ok ()
  | .stopped e => .error (readError "trailing byte proof" e)

def sizeOf (header : Header) (key : String) : Nat :=
  match get header (ofString key) with
  | some (.int n) => n.toNat
  | _ => 0

def textOf (header : Header) (key : String) : PyStr :=
  match get header (ofString key) with
  | some (.str s) => s
  | _ => []

/- What a receiver does with the stream: the preamble, the two files and the end. -/
def receiveStream (manifestTo catalogTo : Destination) (events : Events) :
    Except Raised (Header × Bytes × Bytes) := do
  let (header, events) ← readPreamble isOne nesting events
  let (manifest, events) ← receiveFileBytes h manifestTo (sizeOf header "manifest_size_bytes")
    (textOf header "manifest_sha256") events
  let (catalog, events) ← receiveFileBytes h catalogTo (sizeOf header "catalog_size_bytes")
    (textOf header "catalog_sha256") events
  assertStreamEof events
  return (header, manifest, catalog)

end Receiving

section HeaderReadBack
variable {i : BundleIdentity} {s : Semantic}

/- What `json.loads` makes of a header. -/
def payload (i : BundleIdentity) (s : Semantic) : Header :=
  (inOrder (members i s)).map fun m => (ofString m.1, m.2)

theorem get_nodup {header : Header} (h : (header.map Prod.fst).Nodup) (key : PyStr) :
    get header key = header.lookup key :=
  (lookup_perm header.reverse_perm.symm h key).symm

theorem nodup_inOrder {ms : List (String × PyJson)} (h : (ms.map Prod.fst).Nodup) :
    (((inOrder ms).map fun m => (ofString m.1, m.2)).map Prod.fst).Nodup := by
  have horder : ((inOrder ms).map Prod.fst).Nodup :=
    ((inOrder_perm ms).map Prod.fst).nodup_iff.mpr h
  have hkeys : ((inOrder ms).map fun m => (ofString m.1, m.2)).map Prod.fst =
      ((inOrder ms).map Prod.fst).map ofString := by simp [Function.comp_def]
  rw [hkeys]
  exact horder.map ofString_injective

/-- A field of an object that was written from a dictionary is the member of that name. -/
theorem get_inOrder {ms : List (String × PyJson)} (h : (ms.map Prod.fst).Nodup) (key : String) :
    get ((inOrder ms).map fun m => (ofString m.1, m.2)) (ofString key) = ms.lookup key := by
  rw [get_nodup (nodup_inOrder h)]
  exact field_dict h key

theorem hasKeys_inOrder (ms : List (String × PyJson)) :
    hasKeys ((inOrder ms).map fun m => (ofString m.1, m.2)) (ms.map Prod.fst) = true := by
  simp only [hasKeys, List.all_eq_true, List.contains_iff_mem]
  intro key hkey
  obtain ⟨m, hm, rfl⟩ := List.mem_map.mp hkey
  apply List.mem_map.mpr
  exact ⟨(ofString m.1, m.2), mem_dict.mpr ⟨m.1, m.2, hm, rfl⟩, rfl⟩

theorem onlyKeys_inOrder (ms : List (String × PyJson)) :
    onlyKeys ((inOrder ms).map fun m => (ofString m.1, m.2)) (ms.map Prod.fst) = true := by
  simp only [onlyKeys, List.all_eq_true, List.contains_iff_mem]
  intro m hm
  obtain ⟨key, v, hmem, rfl⟩ := mem_dict.mp hm
  exact List.mem_map_of_mem (List.mem_map_of_mem hmem)

theorem keys_members (i : BundleIdentity) (s : Semantic) :
    (members i s).map Prod.fst = headerRequiredKeys := rfl

theorem keys_distinct : headerRequiredKeys.Nodup := by decide

theorem get_payload (key : String) :
    get (payload i s) (ofString key) = (members i s).lookup key :=
  get_inOrder (by rw [keys_members]; exact keys_distinct) key

/- Evidence that was normalized passes the check of the receiver. -/
theorem normalize_ok {n : Semantic} (h : s.normalize = .ok n) :
    n = s ∧ s.alembicRevision ≠ "" ∧
      ∀ c ∈ s.counts, c.1 ≠ "" ∧ c.1.length ≤ 64 ∧ 0 ≤ c.2 := by
  unfold Semantic.normalize at h
  split at h
  · cases h
  · rename_i hrevision
    split at h
    · rename_i hcounts
      cases h
      refine ⟨rfl, hrevision, ?_⟩
      intro c hc
      have hone := List.all_eq_true.mp hcounts c hc
      simp only [Bool.and_eq_true, decide_eq_true_eq] at hone
      exact ⟨hone.1.1, hone.1.2, hone.2⟩
    · cases h

theorem ofString_ne_nil {t : String} (h : t ≠ "") : ofString t ≠ [] := by
  intro hnil
  apply h
  apply ofString_injective
  rw [hnil]
  rfl

theorem length_ofString (t : String) : (ofString t).length = t.length := by
  rw [ofString, ofChars, List.length_map, String.length_toList]

def semanticMembers (s : Semantic) : List (String × PyJson) :=
  [("alembic_revision", .str (ofString s.alembicRevision)),
    ("counts", dict (s.counts.map fun c => (c.1, .int c.2)))]

theorem normalizeSemantic_json (h : s.normalize = .ok s) :
    normalizeSemantic ((inOrder (semanticMembers s)).map fun m => (ofString m.1, m.2)) =
      .ok () := by
  obtain ⟨-, hrevision, hcounts⟩ := normalize_ok h
  have hnodup : ((semanticMembers s).map Prod.fst).Nodup := by
    change ["alembic_revision", "counts"].Nodup
    decide
  have hcountKeys : ((s.counts.map fun c => (c.1, PyJson.int c.2)).map Prod.fst).Nodup := by
    rw [List.map_map]
    exact s.distinct
  have hrevisionField := get_inOrder hnodup "alembic_revision"
  have hcountsField := get_inOrder hnodup "counts"
  have hhas := hasKeys_inOrder (semanticMembers s)
  have honly := onlyKeys_inOrder (semanticMembers s)
  change hasKeys _ ["alembic_revision", "counts"] = true at hhas
  change onlyKeys _ ["alembic_revision", "counts"] = true at honly
  change _ = some (PyJson.str (ofString s.alembicRevision)) at hrevisionField
  change _ = some (dict (s.counts.map fun c => (c.1, PyJson.int c.2))) at hcountsField
  have hcount : (((inOrder (s.counts.map fun c => (c.1, PyJson.int c.2))).map
      fun m => (ofString m.1, m.2)).all fun c => c.1 ≠ [] && c.1.length ≤ 64 &&
        isNatural (get ((inOrder (s.counts.map fun c => (c.1, PyJson.int c.2))).map
          fun m => (ofString m.1, m.2)) c.1)) = true := by
    rw [List.all_eq_true]
    intro m hm
    obtain ⟨key, v, hmem, rfl⟩ := mem_dict.mp hm
    obtain ⟨c, hc, hpair⟩ := List.mem_map.mp hmem
    cases hpair
    obtain ⟨hname, hlength, hpositive⟩ := hcounts c hc
    have hvalue := get_inOrder hcountKeys c.1
    rw [(lookup_mem hcountKeys).mpr hmem] at hvalue
    rw [hvalue]
    simp [ofString_ne_nil hname, length_ofString, hlength, isNatural, hpositive]
  unfold normalizeSemantic
  rw [hhas, honly, hrevisionField, hcountsField]
  simp only [isText, ne_eq, ofString_ne_nil hrevision, not_false_eq_true, decide_true,
    Bool.and_self, Bool.not_true, Bool.false_eq_true, if_false]
  exact if_pos hcount

theorem buildHeader_ok {header : Bytes} (h : buildHeader i s = .ok header) :
    s.normalize = .ok s ∧ writable (dict (members i s)) = true ∧
      Utf8.encode (print true (dict (members i s))) = some header ∧
      header.length ≤ maxHeaderBytes := by
  unfold buildHeader at h
  cases hnormal : s.normalize with
  | error e =>
    rw [hnormal] at h
    cases h
  | ok n =>
    obtain ⟨rfl, -⟩ := normalize_ok hnormal
    rw [hnormal] at h
    simp only [bind, Except.bind, dumps] at h
    by_cases hwritable : writable (dict (members i n)) = true
    · rw [if_pos hwritable, Option.bind_some] at h
      cases hencoded : Utf8.encode (print true (dict (members i n))) with
      | none =>
        rw [hencoded] at h
        cases h
      | some encoded =>
        rw [hencoded] at h
        dsimp only at h
        split at h
        · cases h
        · rename_i hlength
          cases h
          exact ⟨rfl, hwritable, rfl, by omega⟩
    · rw [if_neg hwritable] at h
      cases h

theorem shaped_members (i : BundleIdentity) (s : Semantic) (nesting : Nat) :
    shaped true (dict (members i s)) (nesting + 3) = true := by
  have hcounts : shaped true (dict (s.counts.map fun c => (c.1, PyJson.int c.2))) (nesting + 1) =
      true := by
    apply shaped_dict
    · rw [List.map_map]
      exact s.distinct
    · intro m hm
      obtain ⟨c, hc, rfl⟩ := List.mem_map.mp hm
      rfl
  have hsemantic : shaped true s.json (nesting + 2) = true := by
    apply shaped_dict
    · change ["alembic_revision", "counts"].Nodup
      decide
    · intro m hm
      simp only [List.mem_cons, List.not_mem_nil, or_false] at hm
      rcases hm with rfl | rfl
      · exact shaped_text _ _
      · exact hcounts
  apply shaped_dict
  · rw [keys_members]
    exact keys_distinct
  · intro m hm
    simp only [members, List.mem_cons, List.not_mem_nil, or_false] at hm
    rcases hm with rfl | rfl | rfl | rfl | rfl | rfl | rfl | rfl | rfl | rfl
    · rfl
    · exact shaped_text _ _
    · exact shaped_text _ _
    · exact shaped_text _ _
    · rfl
    · exact shaped_text _ _
    · rfl
    · exact shaped_text _ _
    · exact shaped_text _ _
    · exact hsemantic

theorem dict_members (i : BundleIdentity) (s : Semantic) :
    dict (members i s) = .obj (payload i s) := rfl

variable (isOne : List Char → Bool) (nesting : Nat)

/-- A header that was built is read as the object it was built from, and only the checks decide. -/
theorem parseHeader_built {header : Bytes} (h : buildHeader i s = .ok header) :
    parseHeader isOne (nesting + 3) header =
      match checkHeader isOne (payload i s) with
      | .ok _ => .ok (payload i s)
      | .error e => .error e := by
  obtain ⟨-, hwritable, hencoded, hlength⟩ := buildHeader_ok h
  have hfits : JsonReader.fits true (dict (members i s)) (nesting + 3) = true := by
    rw [fits_iff, shaped_members, hwritable]
    rfl
  have hread := (JsonReader.loads_print ⟨nesting + 3, false⟩ hfits).1
  obtain ⟨text, htext, rfl⟩ := Option.map_eq_some_iff.mp hencoded
  rw [chars?_some htext] at hread
  rw [dict_members] at hread
  unfold parseHeader
  rw [if_neg (Nat.not_lt.mpr hlength), Utf8.decodeStrict_encode]
  simp only [hread]

/-- What the receiver asks of an identity beyond what the sender does. -/
def Readable (i : BundleIdentity) : Prop :=
  i.bundleId ≠ "" ∧ i.bundleId.length ≤ 128 ∧ i.alembicRevision ≠ ""

theorem isDigest_hexdigest (h : Digest) (b : Bytes) :
    isDigest (some (.str (ofString (h.hexdigest b)))) = true := by
  have hlength : (ofString (h.hexdigest b)).length = 64 := by
    rw [length_ofString, ← String.length_toList, h.length_hex]
  have hchars : ∀ c ∈ ofString (h.hexdigest b), c ∈ hexDigits.map CodePoint.char := by
    intro c hc
    obtain ⟨d, hd, rfl⟩ := List.mem_map.mp hc
    exact List.mem_map_of_mem (h.chars_hex b d hd)
  simp only [isDigest, hlength, decide_true, Bool.true_and, List.all_eq_true, List.contains_iff_mem]
  exact hchars

theorem isBundleId_iff (t : String) :
    isBundleId (some (.str (ofString t))) = true ↔ t ≠ "" ∧ t.length ≤ 128 := by
  have hempty : ofString t ≠ [] ↔ t ≠ "" := by
    constructor
    · intro h heq
      exact h (by rw [heq]; rfl)
    · exact ofString_ne_nil
  simp only [isBundleId, Bool.and_eq_true, decide_eq_true_eq, hempty, length_ofString]

theorem isText_iff (t : String) : isText (some (.str (ofString t))) = true ↔ t ≠ "" := by
  constructor
  · intro h heq
    subst heq
    cases h
  · intro h
    simp [isText, ofString_ne_nil h]

/-- The checks pass a header that was built exactly when its identity is readable. -/
theorem checkHeader_payload (h : Digest) {manifest catalog : Bytes} (hnormal : s.normalize = .ok s)
    (hmanifest : i.manifestSha256 = h.hexdigest manifest)
    (hcatalog : i.catalogSha256 = h.hexdigest catalog) :
    (Readable i → checkHeader isOne (payload i s) = .ok ()) ∧
      (¬Readable i → ∃ e, checkHeader isOne (payload i s) = .error e) := by
  have hhas : hasKeys (payload i s) headerRequiredKeys = true := hasKeys_inOrder (members i s)
  have honly : onlyKeys (payload i s) headerRequiredKeys = true := onlyKeys_inOrder (members i s)
  have hmanifestDigest := isDigest_hexdigest h manifest
  have hcatalogDigest := isDigest_hexdigest h catalog
  have hsemantic := normalizeSemantic_json hnormal
  rw [← hmanifest] at hmanifestDigest
  rw [← hcatalog] at hcatalogDigest
  have hchecks : checkHeader isOne (payload i s) =
      if !isBundleId (some (.str (ofString i.bundleId))) then
        .error (headerInvalid "Protocol bundle identity is invalid.")
      else if !isText (some (.str (ofString i.alembicRevision))) then
        .error (headerInvalid "Protocol revision is invalid.")
      else .ok () := by
    unfold checkHeader
    simp only [hhas, honly, get_payload]
    change (if !isBundleId (some (.str (ofString i.bundleId))) then _ else
      if !(decide ((0 : Int) ≤ i.manifestSizeBytes) && decide ((0 : Int) ≤ i.catalogSizeBytes)) then
        _ else
      if !(isDigest (some (.str (ofString i.manifestSha256))) &&
        isDigest (some (.str (ofString i.catalogSha256)))) then _ else
      if !isText (some (.str (ofString i.alembicRevision))) then _ else
        normalizeSemantic ((inOrder (semanticMembers s)).map fun m => (ofString m.1, m.2))) = _
    rw [hmanifestDigest, hcatalogDigest, hsemantic]
    simp
  rw [hchecks]
  by_cases hid : isBundleId (some (.str (ofString i.bundleId))) = true
  · by_cases hrevision : isText (some (.str (ofString i.alembicRevision))) = true
    · rw [hid, hrevision]
      refine ⟨fun _ => rfl, fun hnot => absurd ?_ hnot⟩
      obtain ⟨hnonempty, hshort⟩ := (isBundleId_iff i.bundleId).mp hid
      exact ⟨hnonempty, hshort, (isText_iff i.alembicRevision).mp hrevision⟩
    · rw [hid, Bool.eq_false_of_not_eq_true hrevision]
      refine ⟨fun hreadable => absurd ?_ hrevision, fun _ => ⟨_, rfl⟩⟩
      exact (isText_iff i.alembicRevision).mpr hreadable.2.2
  · rw [Bool.eq_false_of_not_eq_true hid]
    refine ⟨fun hreadable => absurd ?_ hid, fun _ => ⟨_, rfl⟩⟩
    exact (isBundleId_iff i.bundleId).mpr ⟨hreadable.1, hreadable.2.1⟩

variable {isOne nesting} in
/-- Which keys a header that was accepted has. -/
theorem parseHeader_keys {bytes : Bytes} {header : Header}
    (h : parseHeader isOne nesting bytes = .ok header) (key : PyStr) :
    (get header key).isSome = true ↔ key ∈ headerRequiredKeys.map ofString := by
  have hchecked : hasKeys header headerRequiredKeys = true ∧
      onlyKeys header headerRequiredKeys = true := by
    have hcheck : ∃ u, checkHeader isOne header = .ok u := by
      unfold parseHeader at h
      split at h
      · cases h
      · cases hdecoded : Utf8.decodeStrict bytes with
        | none =>
          simp only [hdecoded] at h
          cases h
        | some text =>
          simp only [hdecoded] at h
          cases hloaded : JsonReader.loads ⟨nesting, false⟩ (ofChars text) with
          | error e => cases e <;> simp [hloaded] at h
          | ok v =>
            cases v with
            | obj members =>
              simp only [hloaded] at h
              cases hcheck : checkHeader isOne members with
              | error e =>
                simp only [hcheck] at h
                cases h
              | ok u =>
                simp only [hcheck] at h
                cases h
                exact ⟨u, hcheck⟩
            | _ => simp [hloaded] at h
    obtain ⟨u, hu⟩ := hcheck
    unfold checkHeader at hu
    by_cases hhas : hasKeys header headerRequiredKeys = true
    · by_cases honly : onlyKeys header headerRequiredKeys = true
      · exact ⟨hhas, honly⟩
      · simp [hhas, honly] at hu
    · simp [hhas] at hu
  obtain ⟨hhas, honly⟩ := hchecked
  have hmem : (get header key).isSome = true ↔ key ∈ header.map Prod.fst := by
    unfold get
    rw [← List.mem_reverse, ← List.map_reverse]
    generalize header.reverse = l
    induction l with
    | nil => simp
    | cons m rest ih =>
      obtain ⟨name, value⟩ := m
      by_cases hkey : key = name
      · simp [hkey]
      · have hne : (key == name) = false := by simpa using hkey
        simp [List.lookup_cons, hne, ih, hkey]
  rw [hmem]
  simp only [hasKeys, List.all_eq_true, List.contains_iff_mem] at hhas
  simp only [onlyKeys, List.all_eq_true, List.contains_iff_mem] at honly
  constructor
  · intro hin
    obtain ⟨m, hm, rfl⟩ := List.mem_map.mp hin
    exact honly m hm
  · intro hin
    obtain ⟨k, hk, rfl⟩ := List.mem_map.mp hin
    exact hhas k hk

end HeaderReadBack

section Framing
variable {h : Digest}

/- What a file holds that is read in these chunks. -/
def contents : List Bytes → Bytes
  | [] => []
  | [] :: _ => []
  | (b :: chunk) :: reads => b :: chunk ++ contents reads

/- The stream of a header and two files. -/
def framed (header manifest catalog : Bytes) : Bytes :=
  protocolMagic ++ (toBytes4 header.length ++ (header ++ (manifest ++ catalog)))

theorem length_framed (header manifest catalog : Bytes) :
    (framed header manifest catalog).length =
      12 + header.length + (manifest.length + catalog.length) := by
  have hmagic : protocolMagic.length = 8 := rfl
  have hlength : (toBytes4 header.length).length = 4 := rfl
  simp only [framed, List.length_append, hmagic, hlength]
  omega

/- No write is given up. -/
def Writes (answers : List WriteAnswer) : Prop := ∀ e, WriteAnswer.stopped e ∉ answers

/-- However a write is cut, what comes out is what was to be written. -/
theorem writeBytes_data (answers : List WriteAnswer) (data : Bytes) :
    (∀ written rest, writeBytes answers data = .ok (written, rest) → written = data) ∧
      (Writes answers → ∃ rest, writeBytes answers data = .ok (data, rest) ∧ Writes rest) := by
  induction answers generalizing data with
  | nil =>
    cases data with
    | nil => exact ⟨fun _ _ h => by cases h; rfl, fun h => ⟨[], rfl, h⟩⟩
    | cons b data => exact ⟨fun _ _ h => by cases h; rfl, fun h => ⟨[], rfl, h⟩⟩
  | cons answer rest ih =>
    have hless : Writes (answer :: rest) → Writes rest := fun h e he =>
      h e (List.mem_cons_of_mem _ he)
    cases data with
    | nil => exact ⟨fun _ _ h => by cases h; rfl, fun h => ⟨_, rfl, h⟩⟩
    | cons b data =>
      cases answer with
      | took more =>
        obtain ⟨hwritten, hgood⟩ := ih ((b :: data).drop (min (more + 1) streamIoChunkBytes))
        rw [writeBytes]
        constructor
        · intro written final heq
          cases hrest : writeBytes rest ((b :: data).drop (min (more + 1) streamIoChunkBytes)) with
          | error e =>
            simp only [hrest] at heq
            cases heq
          | ok result =>
            obtain ⟨more', answers⟩ := result
            simp only [hrest] at heq
            cases heq
            rw [hwritten more' final hrest, List.take_append_drop]
        · intro hnever
          obtain ⟨final, hfinal, hrest⟩ := hgood (hless hnever)
          refine ⟨final, ?_, hrest⟩
          simp only [hfinal, List.take_append_drop]
      | again =>
        rw [writeBytes]
        exact ⟨(ih (b :: data)).1, fun hnever => (ih (b :: data)).2 (hless hnever)⟩
      | stopped e =>
        rw [writeBytes]
        exact ⟨fun _ _ heq => (by cases heq),
          fun hnever => absurd List.mem_cons_self (hnever e)⟩

theorem streamChunks_contents (reads : List Bytes) (answers : List WriteAnswer) :
    (∀ data written rest, streamChunks reads answers = .ok (data, written, rest) →
      data = contents reads ∧ written = contents reads) ∧
    (Writes answers → ∃ rest,
      streamChunks reads answers = .ok (contents reads, contents reads, rest) ∧ Writes rest) := by
  induction reads generalizing answers with
  | nil => exact ⟨fun _ _ _ h => by cases h; exact ⟨rfl, rfl⟩, fun h => ⟨answers, rfl, h⟩⟩
  | cons chunk reads ih =>
    cases chunk with
    | nil => exact ⟨fun _ _ _ h => by cases h; exact ⟨rfl, rfl⟩, fun h => ⟨answers, rfl, h⟩⟩
    | cons b chunk =>
      obtain ⟨hdata, hgood⟩ := writeBytes_data answers (b :: chunk)
      rw [streamChunks, contents]
      constructor
      · intro data written rest heq
        cases hfirst : writeBytes answers (b :: chunk) with
        | error e =>
          simp only [hfirst] at heq
          cases heq
        | ok result =>
          obtain ⟨head, answers'⟩ := result
          simp only [hfirst, bind, Except.bind] at heq
          cases hmore : streamChunks reads answers' with
          | error e =>
            simp only [hmore] at heq
            cases heq
          | ok result =>
            obtain ⟨data', more, answers''⟩ := result
            simp only [hmore] at heq
            cases heq
            obtain ⟨hread, hwritten⟩ := (ih answers').1 data' more rest hmore
            rw [hdata head answers' hfirst, hread, hwritten]
            exact ⟨rfl, rfl⟩
      · intro hnever
        obtain ⟨answers', hfirst, hnever'⟩ := hgood hnever
        obtain ⟨answers'', hmore, hrest⟩ := (ih answers').2 hnever'
        refine ⟨answers'', ?_, hrest⟩
        simp only [hfirst, bind, Except.bind, hmore]
        rfl

/-- A file that is what its size and digest say goes out as it is. -/
theorem streamExactFile_contents {reads : List Bytes} {size : Nat} {sha256 : String}
    (hsize : size = (contents reads).length) (hsha : sha256 = h.hexdigest (contents reads))
    (answers : List WriteAnswer) :
    (∀ written rest, streamExactFile h reads size sha256 answers = .ok (written, rest) →
      written = contents reads) ∧
    (Writes answers → ∃ rest,
      streamExactFile h reads size sha256 answers = .ok (contents reads, rest) ∧ Writes rest) := by
  obtain ⟨hdata, hgood⟩ := streamChunks_contents reads answers
  unfold streamExactFile
  constructor
  · intro written rest heq
    cases hchunks : streamChunks reads answers with
    | error e =>
      simp only [hchunks, bind, Except.bind] at heq
      cases heq
    | ok result =>
      obtain ⟨data, written', rest'⟩ := result
      obtain ⟨hread, hwritten⟩ := hdata data written' rest' hchunks
      subst hread hwritten
      simp only [hchunks, bind, Except.bind, hsize, hsha, ne_eq, not_true, if_false] at heq
      cases heq
      rfl
  · intro hnever
    obtain ⟨rest, hchunks, hrest⟩ := hgood hnever
    refine ⟨rest, ?_, hrest⟩
    simp only [hchunks, bind, Except.bind, hsize, hsha, ne_eq, not_true, if_false]
    rfl

/-- What the writer sends is the framed stream, and it sends it unless a write is given up. -/
theorem writeProtocolV1Stream_framed (h : Digest) {i : BundleIdentity} {s : Semantic}
    {header : Bytes} (manifestReads catalogReads : List Bytes) (hbuilt : buildHeader i s = .ok header)
    (hmanifestSize : i.manifestSizeBytes = (contents manifestReads).length)
    (hmanifestSha : i.manifestSha256 = h.hexdigest (contents manifestReads))
    (hcatalogSize : i.catalogSizeBytes = (contents catalogReads).length)
    (hcatalogSha : i.catalogSha256 = h.hexdigest (contents catalogReads))
    (answers : List WriteAnswer) :
    (∀ out, writeProtocolV1Stream h i s manifestReads catalogReads answers = .ok out →
      out = framed header (contents manifestReads) (contents catalogReads)) ∧
    (Writes answers → writeProtocolV1Stream h i s manifestReads catalogReads answers =
      .ok (framed header (contents manifestReads) (contents catalogReads))) := by
  unfold writeProtocolV1Stream framed
  simp only [hbuilt, bind, Except.bind]
  constructor
  · intro out heq
    cases hmagic : writeBytes answers protocolMagic with
    | error e => simp [hmagic] at heq
    | ok first =>
      obtain ⟨magic, answers⟩ := first
      simp only [hmagic] at heq
      cases hlength : writeBytes answers (toBytes4 header.length) with
      | error e => simp [hlength] at heq
      | ok second =>
        obtain ⟨length, answers⟩ := second
        simp only [hlength] at heq
        cases hhead : writeBytes answers header with
        | error e => simp [hhead] at heq
        | ok third =>
          obtain ⟨head, answers⟩ := third
          simp only [hhead] at heq
          cases hmanifest : streamExactFile h manifestReads i.manifestSizeBytes i.manifestSha256
              answers with
          | error e => simp [hmanifest] at heq
          | ok fourth =>
            obtain ⟨manifest, answers⟩ := fourth
            simp only [hmanifest] at heq
            cases hcatalog : streamExactFile h catalogReads i.catalogSizeBytes i.catalogSha256
                answers with
            | error e => simp [hcatalog] at heq
            | ok fifth =>
              obtain ⟨catalog, answers⟩ := fifth
              simp only [hcatalog] at heq
              cases heq
              rw [(writeBytes_data _ _).1 _ _ hmagic, (writeBytes_data _ _).1 _ _ hlength,
                (writeBytes_data _ _).1 _ _ hhead,
                (streamExactFile_contents hmanifestSize hmanifestSha _).1 _ _ hmanifest,
                (streamExactFile_contents hcatalogSize hcatalogSha _).1 _ _ hcatalog]
              simp only [List.append_assoc]
  · intro hnever
    obtain ⟨_, hmagic, hnever⟩ := (writeBytes_data answers protocolMagic).2 hnever
    obtain ⟨_, hlength, hnever⟩ := (writeBytes_data _ (toBytes4 header.length)).2 hnever
    obtain ⟨_, hhead, hnever⟩ := (writeBytes_data _ header).2 hnever
    obtain ⟨_, hmanifest, hnever⟩ :=
      (streamExactFile_contents hmanifestSize hmanifestSha _).2 hnever
    obtain ⟨_, hcatalog, -⟩ := (streamExactFile_contents hcatalogSize hcatalogSha _).2 hnever
    simp only [hmagic, hlength, hhead, hmanifest, hcatalog, pure, Except.pure, List.append_assoc]

variable (isOne : List Char → Bool) (nesting : Nat) {events : Events}

/-- One part of the stream is read: all of it comes, or the stream ends inside it. -/
theorem readExact_part (what : String) {part later missing : Bytes}
    (hflow : part ++ later = flow events ++ missing) :
    ((∃ e, readExact part.length what events = .error e) ∧ later.length < missing.length) ∨
      (readExact part.length what events = .ok (part, skip part.length events) ∧
        later = flow (skip part.length events) ++ missing) := by
  obtain ⟨hgood, hbad⟩ :=
    Transport.readExact_flow (none : Option Stop) (streamIoChunkBytes - 1) part.length events
  have hlengths : part.length + later.length = (flow events).length + missing.length := by
    rw [← List.length_append, hflow, List.length_append]
  unfold readExact
  by_cases hin : part.length ≤ (flow events).length
  · right
    have htake : (flow events).take part.length = part := by
      have hwhole : (flow events ++ missing).take part.length = (flow events).take part.length :=
        List.take_append_of_le_length hin
      rw [← hwhole, ← hflow, List.take_left]
    rw [hgood hin, htake]
    refine ⟨rfl, ?_⟩
    rw [flow_skip hin, ← List.drop_append_of_le_length hin, ← hflow, List.drop_left]
  · left
    obtain ⟨e, he⟩ := hbad (by omega)
    rw [he]
    exact ⟨⟨_, rfl⟩, by omega⟩

theorem receiveLoop_part {part later missing : Bytes}
    (hflow : part ++ later = flow events ++ missing) :
    ((∃ e, receiveLoop part.length events = .error e) ∧ later.length < missing.length) ∨
      (receiveLoop part.length events = .ok (part, skip part.length events) ∧
        later = flow (skip part.length events) ++ missing) := by
  induction hn : part.length using Nat.strongRecOn generalizing part events with
  | ind n hrec =>
    subst hn
    by_cases hempty : part = []
    · subst hempty
      right
      rw [List.length_nil, receiveLoop.eq_def, dif_pos rfl, skip]
      exact ⟨rfl, hflow⟩
    · have hpos : 0 < part.length := List.length_pos_iff.mpr hempty
      have hchunk : (part.take streamIoChunkBytes).length = min part.length streamIoChunkBytes := by
        rw [List.length_take, Nat.min_comm]
      have hmore : (part.drop streamIoChunkBytes).length =
          part.length - min part.length streamIoChunkBytes := by
        rw [List.length_drop]
        omega
      have hsplit : part.take streamIoChunkBytes ++ (part.drop streamIoChunkBytes ++ later) =
          flow events ++ missing := by
        rw [← List.append_assoc, List.take_append_drop, hflow]
      have hsize : 0 < streamIoChunkBytes := by decide
      rw [receiveLoop.eq_def, dif_neg (by omega), ← hmore, ← hchunk]
      obtain ⟨⟨e, he⟩, hshort⟩ | ⟨hread, hlater⟩ := readExact_part "transfer payload" hsplit
      · left
        rw [he]
        rw [List.length_append] at hshort
        exact ⟨⟨e, rfl⟩, by omega⟩
      · rw [hread]
        obtain ⟨⟨e, he⟩, hshort⟩ | ⟨hread, hlater⟩ := hrec _ (by omega) hlater rfl
        · left
          simp only [he]
          exact ⟨⟨e, rfl⟩, hshort⟩
        · right
          have htotal : (part.take streamIoChunkBytes).length +
              (part.drop streamIoChunkBytes).length = part.length := by
            rw [← List.length_append, List.take_append_drop]
          simp only [hread]
          rw [skip_skip, htotal] at hlater ⊢
          exact ⟨by rw [List.take_append_drop], hlater⟩

theorem fromBytes_toBytes4 {n : Nat} (h : n ≤ maxHeaderBytes) : fromBytes (toBytes4 n) = n := by
  have hsmall : n ≤ 8192 := h
  have hfirst : ((n / 16777216).toUInt8).toNat = 0 := by
    rw [show n / 16777216 = 0 by omega]
    rfl
  have hsecond : ((n / 65536).toUInt8).toNat = 0 := by
    rw [show n / 65536 = 0 by omega]
    rfl
  have hthird : ((n / 256).toUInt8).toNat = n / 256 := by
    rw [UInt8.toNat_ofNat']
    omega
  have hfourth : (n.toUInt8).toNat = n % 256 := UInt8.toNat_ofNat'
  simp only [fromBytes, toBytes4, List.foldl_cons, List.foldl_nil, hfirst, hsecond, hthird, hfourth]
  omega

theorem readPreamble_part {header later missing : Bytes} (hshort : header.length ≤ maxHeaderBytes)
    (hflow : protocolMagic ++ (toBytes4 header.length ++ (header ++ later)) =
      flow events ++ missing) :
    ((∃ e, readPreamble isOne nesting events = .error e) ∧ later.length < missing.length) ∨
      ((readPreamble isOne nesting events =
        match parseHeader isOne nesting header with
        | .ok parsed => .ok (parsed, skip (12 + header.length) events)
        | .error e => .error e) ∧
        later = flow (skip (12 + header.length) events) ++ missing) := by
  unfold readPreamble
  simp only [bind, Except.bind]
  obtain ⟨⟨e, he⟩, hmissing⟩ | ⟨hread, hlater⟩ := readExact_part "protocol magic" hflow
  · left
    rw [he]
    simp only [List.length_append] at hmissing
    exact ⟨⟨e, rfl⟩, by omega⟩
  rw [hread]
  simp only [ne_eq, not_true, if_false]
  obtain ⟨⟨e, he⟩, hmissing⟩ | ⟨hread, hlater⟩ := readExact_part "header length" hlater
  · left
    change readExact 4 _ _ = _ at he
    rw [he]
    rw [List.length_append] at hmissing
    exact ⟨⟨e, rfl⟩, by omega⟩
  change readExact 4 _ _ = _ at hread
  rw [hread]
  simp only [fromBytes_toBytes4 hshort, if_neg (Nat.not_lt.mpr hshort)]
  obtain ⟨⟨e, he⟩, hmissing⟩ | ⟨hread, hlater⟩ := readExact_part "protocol header" hlater
  · left
    rw [he]
    exact ⟨⟨e, rfl⟩, hmissing⟩
  right
  have htotal : skip header.length (skip (toBytes4 header.length).length
      (skip protocolMagic.length events)) = skip (12 + header.length) events := by
    rw [skip_skip, skip_skip]
    congr 1
    change 8 + (4 + header.length) = 12 + header.length
    omega
  rw [htotal] at hread hlater
  rw [hread]
  refine ⟨?_, hlater⟩
  cases hparse : parseHeader isOne nesting header with
  | error e => simp only [hparse]
  | ok parsed => simp only [hparse, pure, Except.pure]

theorem receiveFileBytes_part (target : Destination) {part later missing : Bytes}
    (hflow : part ++ later = flow events ++ missing) :
    ((∃ e, receiveFileBytes h target part.length (ofString (h.hexdigest part)) events = .error e) ∧
        (target = .fresh → later.length < missing.length)) ∨
      (receiveFileBytes h target part.length (ofString (h.hexdigest part)) events =
          .ok (part, skip part.length events) ∧
        later = flow (skip part.length events) ++ missing) := by
  unfold receiveFileBytes
  cases htaken : target.taken with
  | true =>
    left
    refine ⟨⟨_, rfl⟩, ?_⟩
    intro hfresh
    subst hfresh
    cases htaken
  | false =>
    simp only [Bool.false_eq_true, if_false, bind, Except.bind]
    obtain ⟨⟨e, he⟩, hmissing⟩ | ⟨hread, hlater⟩ := receiveLoop_part hflow
    · left
      rw [he]
      exact ⟨⟨e, rfl⟩, fun _ => hmissing⟩
    · rw [hread]
      cases hfailure : target.failure with
      | some e =>
        left
        refine ⟨⟨e, rfl⟩, ?_⟩
        intro hfresh
        subst hfresh
        cases hfailure
      | none =>
        right
        simp only [ne_eq, not_true, if_false]
        exact ⟨rfl, hlater⟩

/-- A bundle on its way: two files, an identity that names them, and evidence that fits the
header. -/
structure Shipment (h : Digest) where
  identity : BundleIdentity
  semantic : Semantic
  manifest : Bytes
  catalog : Bytes
  header : Bytes
  manifest_size : identity.manifestSizeBytes = manifest.length
  manifest_sha256 : identity.manifestSha256 = h.hexdigest manifest
  catalog_size : identity.catalogSizeBytes = catalog.length
  catalog_sha256 : identity.catalogSha256 = h.hexdigest catalog
  built : buildHeader identity semantic = .ok header

def Shipment.stream (b : Shipment h) : Bytes := framed b.header b.manifest b.catalog

def Shipment.payload (b : Shipment h) : Header := Transfer.payload b.identity b.semantic

theorem Shipment.fields (b : Shipment h) :
    sizeOf b.payload "manifest_size_bytes" = b.manifest.length ∧
      textOf b.payload "manifest_sha256" = ofString (h.hexdigest b.manifest) ∧
      sizeOf b.payload "catalog_size_bytes" = b.catalog.length ∧
      textOf b.payload "catalog_sha256" = ofString (h.hexdigest b.catalog) := by
  unfold sizeOf textOf Shipment.payload
  simp only [get_payload]
  change b.identity.manifestSizeBytes = _ ∧ ofString b.identity.manifestSha256 = _ ∧
    b.identity.catalogSizeBytes = _ ∧ ofString b.identity.catalogSha256 = _
  rw [b.manifest_size, b.manifest_sha256, b.catalog_size, b.catalog_sha256]
  exact ⟨rfl, rfl, rfl, rfl⟩

theorem Shipment.skip_stream (b : Shipment h) (events : Events) :
    skip b.catalog.length (skip b.manifest.length (skip (12 + b.header.length) events)) =
      skip b.stream.length events := by
  rw [skip_skip, skip_skip, Shipment.stream, length_framed]

/-- The receiver fails, or everything but what follows the stream was read as it was sent. -/
theorem receiveStream_part (b : Shipment h) {extra missing : Bytes}
    (hflow : b.stream ++ extra = flow events ++ missing) (manifestTo catalogTo : Destination) :
    ((∃ e, receiveStream h isOne (nesting + 3) manifestTo catalogTo events = .error e) ∧
        (Readable b.identity → manifestTo = .fresh → catalogTo = .fresh →
          extra.length < missing.length)) ∨
      (Readable b.identity ∧
        (receiveStream h isOne (nesting + 3) manifestTo catalogTo events =
          match assertStreamEof (skip b.stream.length events) with
          | .ok _ => .ok (b.payload, b.manifest, b.catalog)
          | .error e => .error e) ∧
        extra = flow (skip b.stream.length events) ++ missing) := by
  obtain ⟨hnormal, -, -, hshort⟩ := buildHeader_ok b.built
  obtain ⟨hgood, hbad⟩ := checkHeader_payload isOne h hnormal b.manifest_sha256
    b.catalog_sha256
  obtain ⟨hmanifestSize, hmanifestSha, hcatalogSize, hcatalogSha⟩ := b.fields
  have hparse := parseHeader_built isOne nesting b.built
  have hparts : protocolMagic ++ (toBytes4 b.header.length ++ (b.header ++
      (b.manifest ++ (b.catalog ++ extra)))) = flow events ++ missing := by
    rw [← hflow]
    simp only [Shipment.stream, framed, List.append_assoc]
  have hpreamble := readPreamble_part isOne (nesting + 3) hshort hparts
  rw [hparse] at hpreamble
  unfold receiveStream
  simp only [bind, Except.bind]
  obtain ⟨⟨e, he⟩, hmissing⟩ | ⟨hread, hlater⟩ := hpreamble
  · left
    rw [he]
    simp only [List.length_append] at hmissing
    exact ⟨⟨e, rfl⟩, fun _ _ _ => by omega⟩
  by_cases hreadable : Readable b.identity
  swap
  · left
    obtain ⟨e, he⟩ := hbad hreadable
    simp only [he] at hread
    rw [hread]
    exact ⟨⟨e, rfl⟩, fun h => absurd h hreadable⟩
  simp only [hgood hreadable] at hread
  rw [hread]
  change (_ ∨ _)
  simp only [Shipment.payload] at hmanifestSize hmanifestSha hcatalogSize hcatalogSha
  simp only [hmanifestSize, hmanifestSha, hcatalogSize, hcatalogSha]
  obtain ⟨⟨e, he⟩, hmissing⟩ | ⟨hread, hlater⟩ := receiveFileBytes_part (h := h) manifestTo hlater
  · left
    rw [he]
    rw [List.length_append] at hmissing
    refine ⟨⟨e, rfl⟩, fun _ hfresh _ => ?_⟩
    have := hmissing hfresh
    omega
  rw [hread]
  dsimp only
  obtain ⟨⟨e, he⟩, hmissing⟩ | ⟨hread, hlater⟩ := receiveFileBytes_part (h := h) catalogTo hlater
  · left
    rw [he]
    exact ⟨⟨e, rfl⟩, fun _ _ => hmissing⟩
  right
  rw [b.skip_stream] at hread hlater
  rw [hread]
  refine ⟨hreadable, ?_, hlater⟩
  cases hend : assertStreamEof (skip b.stream.length events) with
  | error e => simp only [hend]
  | ok u => simp only [hend, pure, Except.pure, Shipment.payload]

/- What is at the end of a stream that works. -/
theorem assertStreamEof_steady (hsteady : Steady events) :
    (flow events = [] → assertStreamEof events = .ok ()) ∧
    (flow events ≠ [] → ((∃ e, assertStreamEof events = .error e) ↔
      events.head? ≠ some .interrupted)) ∧
    (events.head? = some .interrupted → assertStreamEof events = .ok ()) := by
  cases events with
  | nil => exact ⟨fun _ => rfl, fun h => absurd rfl h, fun h => by cases h⟩
  | cons event rest =>
    cases event with
    | arrives b l =>
      have hread : assertStreamEof (.arrives b l :: rest) = .error trailingBytes := rfl
      rw [hread]
      refine ⟨fun h => ?_, fun _ => ⟨fun _ => ?_, fun _ => ⟨_, rfl⟩⟩, fun h => ?_⟩
      · simp [flow] at h
      · simp
      · cases h
    | interrupted =>
      have hread : assertStreamEof (.interrupted :: rest) = .ok () := rfl
      rw [hread]
      refine ⟨fun _ => rfl, fun _ => ⟨fun h => ?_, fun h => absurd rfl h⟩, fun _ => rfl⟩
      obtain ⟨e, he⟩ := h
      cases he
    | stopped e => exact absurd List.mem_cons_self (hsteady e)

section Whole
variable (b : Shipment h)

/-- The whole stream, cut in any way, is received as it was sent if the identity is readable. -/
theorem receive_whole (hsteady : Steady events) (hflow : flow events = b.stream) :
    receiveStream h isOne (nesting + 3) .fresh .fresh events =
      .ok (b.payload, b.manifest, b.catalog) ↔ Readable b.identity := by
  have hparts : b.stream ++ [] = flow events ++ [] := by rw [hflow]
  constructor
  · intro hok
    obtain ⟨⟨e, he⟩, -⟩ | ⟨hreadable, -⟩ := receiveStream_part isOne nesting b hparts .fresh .fresh
    · rw [hok] at he
      cases he
    · exact hreadable
  · intro hreadable
    obtain ⟨-, hmissing⟩ | ⟨-, hread, hend⟩ := receiveStream_part isOne nesting b hparts .fresh .fresh
    · exact absurd (hmissing hreadable rfl rfl) (Nat.lt_irrefl 0)
    · rw [List.append_nil] at hend
      rw [hread, (assertStreamEof_steady (hsteady.skip _)).1 hend.symm]

/-- A stream that ends too early is refused, wherever it is received into. -/
theorem receive_part {part missing : Bytes} (hcut : part ++ missing = b.stream)
    (hmissing : missing ≠ []) (hflow : flow events = part) (manifestTo catalogTo : Destination) :
    ∃ e, receiveStream h isOne (nesting + 3) manifestTo catalogTo events = .error e := by
  have hparts : b.stream ++ [] = flow events ++ missing := by
    rw [List.append_nil, hflow, hcut]
  obtain ⟨he, -⟩ | ⟨-, -, hend⟩ := receiveStream_part isOne nesting b hparts
    manifestTo catalogTo
  · exact he
  · exact absurd (List.append_eq_nil_iff.mp hend.symm).2 hmissing

/-- A stream with more after it is refused unless the read after it is interrupted. -/
theorem receive_more {extra : Bytes} (hsteady : Steady events)
    (hflow : flow events = b.stream ++ extra) (hextra : extra ≠ []) :
    (∃ e, receiveStream h isOne (nesting + 3) .fresh .fresh events = .error e) ↔
      ¬Readable b.identity ∨ (skip b.stream.length events).head? ≠ some .interrupted := by
  have hparts : b.stream ++ extra = flow events ++ [] := by rw [hflow, List.append_nil]
  obtain ⟨he, hmissing⟩ | ⟨hreadable, hread, hend⟩ := receiveStream_part isOne nesting b hparts .fresh .fresh
  · refine ⟨fun _ => Or.inl fun hreadable => ?_, fun _ => he⟩
    exact absurd (hmissing hreadable rfl rfl) (Nat.not_lt_zero _)
  · rw [List.append_nil] at hend
    obtain ⟨-, hrefused, -⟩ := assertStreamEof_steady (hsteady.skip b.stream.length)
    rw [← hrefused (by rw [← hend]; exact hextra), hread]
    constructor
    · rintro ⟨e, he⟩
      right
      cases hcheck : assertStreamEof (skip b.stream.length events) with
      | error e => exact ⟨e, rfl⟩
      | ok u =>
        rw [hcheck] at he
        cases he
    · rintro (hnot | ⟨e, he⟩)
      · exact absurd hreadable hnot
      · rw [he]
        exact ⟨e, rfl⟩

/-- Two headers that are accepted differ in a field, or they are the same object. -/
theorem headers_differ {bytes : Bytes} {header : Header}
    (hparsed : parseHeader isOne nesting bytes = .ok header) :
    (∃ key ∈ headerRequiredKeys, get header (ofString key) ≠ get b.payload (ofString key)) ∨
      ∀ key, get header key = get b.payload key := by
  by_cases hdiffer : ∃ key ∈ headerRequiredKeys,
      get header (ofString key) ≠ get b.payload (ofString key)
  · exact Or.inl hdiffer
  right
  intro key
  by_cases hrequired : key ∈ headerRequiredKeys.map ofString
  · obtain ⟨name, hname, rfl⟩ := List.mem_map.mp hrequired
    exact Classical.not_not.mp fun hne => hdiffer ⟨name, hname, hne⟩
  · have hnone : get header key = none := by
      rw [← Option.not_isSome_iff_eq_none, parseHeader_keys hparsed]
      exact hrequired
    have hnone' : get b.payload key = none := by
      rw [Shipment.payload, Transfer.payload, get_nodup (nodup_inOrder (by
        rw [keys_members]
        exact keys_distinct))]
      apply Option.eq_none_iff_forall_not_mem.mpr
      intro v hv
      have hmem := (lookup_mem (nodup_inOrder (by rw [keys_members]; exact keys_distinct))).mp hv
      obtain ⟨k, w, hmember, hpair⟩ := mem_dict.mp hmem
      cases hpair
      apply hrequired
      rw [← keys_members b.identity b.semantic]
      exact List.mem_map_of_mem (List.mem_map_of_mem hmember)
    rw [hnone, hnone']

/-- What of the framing holds: the stream that is written is received with the same fields and the
same files exactly when the receiver can read the identity; what is cut off is refused; what has
more after it is refused unless the one read at the end is interrupted; and a header that is
accepted differs in a field or is the same. -/
theorem transfer_framing_iff :
    (∀ manifestReads catalogReads answers, contents manifestReads = b.manifest →
      contents catalogReads = b.catalog →
      (∀ out, writeProtocolV1Stream h b.identity b.semantic manifestReads catalogReads answers =
        .ok out → out = b.stream) ∧
      (Writes answers → writeProtocolV1Stream h b.identity b.semantic manifestReads catalogReads
        answers = .ok b.stream)) ∧
    (∀ member ∈ members b.identity b.semantic,
      get b.payload (ofString member.1) = some member.2) ∧
    (∀ events : Events, Steady events → flow events = b.stream →
      (receiveStream h isOne (nesting + 3) .fresh .fresh events =
        .ok (b.payload, b.manifest, b.catalog) ↔ Readable b.identity)) ∧
    (∀ (events : Events) (missing : Bytes), flow events ++ missing = b.stream → missing ≠ [] →
      ∀ manifestTo catalogTo, ∃ e,
        receiveStream h isOne (nesting + 3) manifestTo catalogTo events = .error e) ∧
    (∀ (events : Events) (extra : Bytes), Steady events → flow events = b.stream ++ extra →
      extra ≠ [] →
      ((∃ e, receiveStream h isOne (nesting + 3) .fresh .fresh events = .error e) ↔
        ¬Readable b.identity ∨ (skip b.stream.length events).head? ≠ some .interrupted)) ∧
    (∀ bytes header, parseHeader isOne (nesting + 3) bytes = .ok header →
      (∃ key ∈ headerRequiredKeys, get header (ofString key) ≠ get b.payload (ofString key)) ∨
        ∀ key, get header key = get b.payload key) := by
  refine ⟨?_, ?_, ?_, ?_, ?_, ?_⟩
  · intro manifestReads catalogReads answers hmanifest hcatalog
    have hwritten := writeProtocolV1Stream_framed h manifestReads catalogReads b.built (by rw [hmanifest, b.manifest_size])
      (by rw [hmanifest, b.manifest_sha256]) (by rw [hcatalog, b.catalog_size])
      (by rw [hcatalog, b.catalog_sha256]) answers
    rw [hmanifest, hcatalog] at hwritten
    exact hwritten
  · intro member hmember
    rw [Shipment.payload, get_payload]
    exact (lookup_mem (by rw [keys_members]; exact keys_distinct)).mpr hmember
  · intro events hsteady hflow
    exact receive_whole isOne nesting b hsteady hflow
  · intro events missing hcut hmissing manifestTo catalogTo
    exact receive_part isOne nesting b hcut hmissing rfl manifestTo catalogTo
  · intro events extra hsteady hflow hextra
    exact receive_more isOne nesting b hsteady hflow hextra
  · intro bytes header hparsed
    exact headers_differ isOne (nesting + 3) b hparsed

end Whole
end Framing

section Sample

def sampleManifest : Bytes := [0x7b, 0x7d]
/- The characters of `b"SQLite format 3\0"`. -/
def sampleCatalog : Bytes := [83, 81, 76, 105, 116, 101, 32, 102, 111, 114, 109, 97, 116, 32, 51, 0]
def sampleManifestSha256 : String :=
  "44136fa355b3678a1146ad16f7e8649e94fb4fc21fe77e8310c060f61caaff8a"
def sampleCatalogSha256 : String :=
  "3f8434aff012ffcb594ad7527d6042841ce94f499887f86ab828f84a9a275f91"

/- SHA-256 on the two files. -/
def sampleDigest : Digest where
  hexdigest b := if b = sampleManifest then sampleManifestSha256 else sampleCatalogSha256
  length_hex b := by
    split <;> decide +kernel
  chars_hex b := by
    rw [← List.forall_iff_forall_mem]
    split <;> decide +kernel

def sampleIdentity : BundleIdentity :=
  ⟨"nightly", sampleCatalogSha256, 16, "0044", sampleManifestSha256, 2⟩

def sampleSemantic : Semantic := ⟨"0044", [("media", 0)], by decide⟩

def sampleHeader : Bytes := (buildHeader sampleIdentity sampleSemantic).toOption.getD []

theorem sampleHeader_built : buildHeader sampleIdentity sampleSemantic = .ok sampleHeader := by
  have hbuilt : (buildHeader sampleIdentity sampleSemantic).toOption.isSome = true := by
    decide +kernel
  unfold sampleHeader
  cases hheader : buildHeader sampleIdentity sampleSemantic with
  | error e =>
    rw [hheader] at hbuilt
    cases hbuilt
  | ok header => rfl

def sampleShipment : Shipment sampleDigest where
  identity := sampleIdentity
  semantic := sampleSemantic
  manifest := sampleManifest
  catalog := sampleCatalog
  header := sampleHeader
  manifest_size := rfl
  manifest_sha256 := rfl
  catalog_size := rfl
  catalog_sha256 := rfl
  built := sampleHeader_built

/- The stream, an interrupted read, and one byte more. -/
def sampleEvents : Events :=
  leave sampleShipment.stream [.interrupted, .arrives 0 []]

/-- One more byte after the stream is not noticed when the read for it is interrupted. -/
theorem interrupted_end_is_accepted :
    Readable sampleIdentity ∧ Steady sampleEvents ∧
      flow sampleEvents = sampleShipment.stream ++ [0] ∧
      receiveStream sampleDigest (fun _ => false) 3 .fresh .fresh sampleEvents =
        .ok (sampleShipment.payload, sampleManifest, sampleCatalog) := by
  have hreadable : Readable sampleIdentity := ⟨by decide, by decide, by decide⟩
  have hsteady : Steady sampleEvents := by
    apply steady_leave
    intro e he
    simp at he
  have hflow : flow sampleEvents = sampleShipment.stream ++ [0] := flow_leave _ _
  have hskip : skip sampleShipment.stream.length sampleEvents =
      [.interrupted, .arrives 0 []] := by
    unfold sampleEvents
    rw [skip_leave, if_pos (Nat.le_refl _), Nat.sub_self, skip]
  refine ⟨hreadable, hsteady, hflow, ?_⟩
  have hparts : sampleShipment.stream ++ [0] = flow sampleEvents ++ [] := by
    rw [hflow, List.append_nil]
  obtain ⟨-, hmissing⟩ | ⟨-, hread, -⟩ := receiveStream_part (fun _ => false) 0 sampleShipment
    hparts .fresh .fresh
  · exact absurd (hmissing hreadable rfl rfl) (Nat.not_lt_zero _)
  · rw [hread, hskip]
    rfl

end Sample
end FrameNest.Transfer
