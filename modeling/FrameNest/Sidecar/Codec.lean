import FrameNest.Sidecar.Documents

/-! `encode_media_sidecar` and `decode_media_sidecar`. -/
namespace FrameNest.Sidecar
open Metadata Relational PyStr PyJson

/-- What the codec raises: its own error with one of its two codes, or anything else. -/
inductive SidecarFault where
  | malformed | unsupported
  | escaped
deriving DecidableEq

def maxSidecarBytes : Nat := 256 * 1024
def sidecarSchemaVersion : Int := 1

def SidecarFormat.value : SidecarFormat → String
  | .framenest => "framenest-media-sidecar"
  | .kronika => "kronika-media-sidecar"

def acceptedSidecarFormats : List PyStr :=
  [ofString SidecarFormat.framenest.value, ofString SidecarFormat.kronika.value]

section Encoding

def text (s : String) : PyJson := .str (ofString s)

/- `None if value is None else ..`. -/
def encodeOptional {α : Type} (encode : α → PyJson) (a : Option α) : PyJson := a.elim .null encode

def encodeList {α : Type} (encode : α → PyJson) (l : List α) : PyJson := .arr (l.map encode)

def encodeEnum {α : Type} (e : Spelled α) (a : α) : PyJson := text (e.value a)

def encodeIdentity {kind : IdentityKind} (id : Identity kind) : PyJson := text id.value

def encodeForm {t : TextForm} (v : t.Value) : PyJson := .str v.value

def encodeTagKey (key : CanonicalTagKey) : PyJson := text key.value

def encodeNat (n : Nat) : PyJson := .int n

def collectionKeyText (_ : MediaCollectionKey) : String := "processed"

def encodeTagDefinition (item : SidecarTagDefinition) : PyJson :=
  dict [("key", encodeTagKey item.key), ("display_name", encodeForm item.displayName)]

def encodeProcessed (state : SidecarProcessedState) : PyJson :=
  dict [("collection_key", text (collectionKeyText state.collectionKey)),
    ("processed_at_ms", encodeNat state.processedAtMs)]

def encodeLocation (location : SidecarLocation) : PyJson :=
  dict [("location_id", encodeIdentity location.locationId),
    ("library_id", encodeIdentity location.libraryId),
    ("relative_path", encodeForm location.relativePath)]

/- The members of a sidecar; the writer knows one spelling of the format. -/
def sidecarMembers (f : SidecarFields) : List (String × PyJson) :=
  [("format", text SidecarFormat.framenest.value),
    ("schema_version", .int sidecarSchemaVersion),
    ("media_id", encodeIdentity f.mediaId),
    ("media_kind", encodeEnum mediaKinds f.mediaKind),
    ("display_title", encodeOptional encodeForm f.displayTitle),
    ("description", encodeOptional encodeForm f.description),
    ("tag_keys", encodeList encodeTagKey f.tagKeys),
    ("tag_definitions", encodeList encodeTagDefinition f.tagDefinitions),
    ("content_category", encodeEnum contentCategories f.contentCategory),
    ("acquisition_source", encodeEnum acquisitionSources f.acquisitionSource),
    ("genre_keys", encodeList (encodeEnum movieGenres) f.genreKeys),
    ("creator_attribution_kind",
      encodeOptional (encodeEnum creatorAttributionKinds) f.creator.creatorAttributionKind),
    ("creator_stable_id", encodeOptional .str f.creator.creatorStableId),
    ("creator_handle", encodeOptional .str f.creator.creatorHandle),
    ("creator_display_name", encodeOptional .str f.creator.creatorDisplayName),
    ("processed", encodeOptional encodeProcessed f.processed),
    ("created_at_ms", encodeOptional encodeNat f.createdAtMs),
    ("updated_at_ms", encodeOptional encodeNat f.updatedAtMs),
    ("location", encodeLocation f.location)]

def sidecarPayload (f : SidecarFields) : PyJson := dict (sidecarMembers f)

/- `encode_media_sidecar`; both `json.dumps` and `encode` raise a `ValueError` that is caught. -/
def encodeMediaSidecar {u : Unicode} (document : SidecarDocument u) : Except SidecarFault Utf8.Bytes :=
  match (dumps false (sidecarPayload document.toSidecarFields)).bind Utf8.encode with
  | none => .error .malformed
  | some written =>
    let encoded := written ++ [0x0a]
    if encoded.length ≤ maxSidecarBytes then .ok encoded else .error .malformed

end Encoding

section Decoding

def orMalformed {α : Type} : Option α → Except SidecarFault α
  | some a => .ok a
  | none => .error .malformed

/- A string that a parser of ASCII texts takes; no such text holds a surrogate. -/
def parseText {α : Type} (read : String → Option α) : PyJson → Except SidecarFault α
  | .str s => orMalformed (s.chars?.bind fun l => read (String.ofList l))
  | _ => .error .malformed

def readIdentity (kind : IdentityKind) (s : String) : Option (Identity kind) :=
  if h : isUuid4Text s = true then some ⟨s, h⟩ else none

def readTagKey (s : String) : Option CanonicalTagKey :=
  if h : isTagKey s = true then some ⟨s, h⟩ else none

def readCollectionKey (s : String) : Option MediaCollectionKey :=
  if s = collectionKeyText .processed then some .processed else none

def parseIdentity (kind : IdentityKind) : PyJson → Except SidecarFault (Identity kind) :=
  parseText (readIdentity kind)

def parseEnum {α : Type} (e : Spelled α) : PyJson → Except SidecarFault α := parseText e.ofValue?

def parseTagKey : PyJson → Except SidecarFault CanonicalTagKey := parseText readTagKey

/- A constructor of checked texts, called with any value. -/
def parseForm (t : TextForm) : PyJson → Except SidecarFault t.Value
  | .str s => orMalformed (t.make s)
  | _ => .error .malformed

def parseOptional {α : Type} (parse : PyJson → Except SidecarFault α) :
    PyJson → Except SidecarFault (Option α)
  | .null => .ok none
  | v => (parse v).map some

def parseOptionalTitle : PyJson → Except SidecarFault (Option mediaDisplayTitle.Value) :=
  parseOptional (parseForm mediaDisplayTitle)

def parseOptionalDescription : PyJson → Except SidecarFault (Option mediaDescription.Value) :=
  parseOptional (parseForm mediaDescription)

def parseOptionalCreatorKind : PyJson → Except SidecarFault (Option CreatorAttributionKind) :=
  parseOptional (parseEnum creatorAttributionKinds)

def parseAnyText : PyJson → Except SidecarFault PyStr
  | .str s => .ok s
  | _ => .error .malformed

def parseOptionalCreatorText : PyJson → Except SidecarFault (Option PyStr) :=
  parseOptional parseAnyText

/- `not _is_int(value) or value < 0`. -/
def parseNat : PyJson → Except SidecarFault Nat
  | .int (.ofNat n) => .ok n
  | _ => .error .malformed

def optionalNonNegativeInt : PyJson → Except SidecarFault (Option Nat) := parseOptional parseNat

def parseItems {α : Type} (parse : PyJson → Except SidecarFault α) :
    List PyJson → Except SidecarFault (List α)
  | [] => .ok []
  | v :: rest => do
    let a ← parse v
    let l ← parseItems parse rest
    return a :: l

def parseList {α : Type} (parse : PyJson → Except SidecarFault α) :
    PyJson → Except SidecarFault (List α)
  | .arr items => parseItems parse items
  | _ => .error .malformed

/- `set(value) == expected`. -/
def isClosed (expected : List String) : PyJson → Bool
  | .obj members => (members.map Prod.fst).all (fun k => expected.any fun e => ofString e = k) &&
      expected.all fun e => (members.map Prod.fst).contains (ofString e)
  | _ => false

/- `mapping[key]` of an object that has the key. -/
def valueOf (key : String) (v : PyJson) : PyJson := (field key v).getD .null

def parseTagKeys (v : PyJson) : Except SidecarFault (List CanonicalTagKey) := do
  let keys ← parseList parseTagKey v
  require (fewTags keys) .malformed
  return keys

def tagDefinitionFields : List String := ["key", "display_name"]
def processedFields : List String := ["collection_key", "processed_at_ms"]
def locationFields : List String := ["location_id", "library_id", "relative_path"]

def rootFields : List String :=
  ["format", "schema_version", "media_id", "media_kind", "display_title", "description",
    "tag_keys", "tag_definitions", "content_category", "acquisition_source", "genre_keys",
    "creator_attribution_kind", "creator_stable_id", "creator_handle", "creator_display_name",
    "processed", "created_at_ms", "updated_at_ms", "location"]

def parseTagDefinition (v : PyJson) : Except SidecarFault SidecarTagDefinition := do
  require (isClosed tagDefinitionFields v) .malformed
  let key ← parseTagKey (valueOf "key" v)
  let displayName ← parseForm canonicalTagDisplayName (valueOf "display_name" v)
  return ⟨key, displayName⟩

def parseTagDefinitions : PyJson → Except SidecarFault (List SidecarTagDefinition) :=
  parseList parseTagDefinition

def parseGenres (contentCategory : ContentCategory) (v : PyJson) :
    Except SidecarFault (List MovieGenre) := do
  let genres ← parseList (parseEnum movieGenres) v
  require (fewGenres genres contentCategory) .malformed
  return genres

def parseProcessedState (v : PyJson) : Except SidecarFault SidecarProcessedState := do
  require (isClosed processedFields v) .malformed
  let collectionKey ← parseText readCollectionKey (valueOf "collection_key" v)
  let timestamp ← parseNat (valueOf "processed_at_ms" v)
  return ⟨collectionKey, timestamp⟩

def parseProcessed : PyJson → Except SidecarFault (Option SidecarProcessedState) :=
  parseOptional parseProcessedState

def parseLocation (v : PyJson) : Except SidecarFault SidecarLocation := do
  require (isClosed locationFields v) .malformed
  let relativePath ← parseForm mediaRelativePath (valueOf "relative_path" v)
  let locationId ← parseIdentity .mediaLocation (valueOf "location_id" v)
  let libraryId ← parseIdentity .library (valueOf "library_id" v)
  return ⟨locationId, libraryId, relativePath⟩

/- `_reject_unsupported_identity`: whether the format or the version is one of another program. -/
def hasForeignFormat (v : PyJson) : Bool :=
  match field "format" v with
  | some (.str s) => !acceptedSidecarFormats.contains s
  | _ => false

def hasForeignVersion (v : PyJson) : Bool :=
  match field "schema_version" v with
  | some (.int n) => n ≠ sidecarSchemaVersion
  | _ => false

/- `mapping["format"] not in ACCEPTED_SIDECAR_FORMATS` asks for a hash, which a list and a dict
   do not have. -/
def requireFormat : PyJson → Except SidecarFault Unit
  | .arr _ | .obj _ => .error .escaped
  | .str s => require (acceptedSidecarFormats.contains s) .malformed
  | _ => .error .malformed

def requireVersion (v : PyJson) : Except SidecarFault Unit :=
  require (v.asInt = some sidecarSchemaVersion) .malformed

/- The fields of a root object. -/
def parseFields (v : PyJson) : Except SidecarFault SidecarFields := do
  let tagKeys ← parseTagKeys (valueOf "tag_keys" v)
  let tagDefinitions ← parseTagDefinitions (valueOf "tag_definitions" v)
  require (tagDefinitions.map SidecarTagDefinition.key = tagKeys) .malformed
  let contentCategory ← parseEnum contentCategories (valueOf "content_category" v)
  let mediaId ← parseIdentity .media (valueOf "media_id" v)
  let mediaKind ← parseEnum mediaKinds (valueOf "media_kind" v)
  let displayTitle ← parseOptionalTitle (valueOf "display_title" v)
  let description ← parseOptionalDescription (valueOf "description" v)
  let acquisitionSource ← parseEnum acquisitionSources (valueOf "acquisition_source" v)
  let genreKeys ← parseGenres contentCategory (valueOf "genre_keys" v)
  let creatorAttributionKind ← parseOptionalCreatorKind (valueOf "creator_attribution_kind" v)
  let creatorStableId ← parseOptionalCreatorText (valueOf "creator_stable_id" v)
  let creatorHandle ← parseOptionalCreatorText (valueOf "creator_handle" v)
  let creatorDisplayName ← parseOptionalCreatorText (valueOf "creator_display_name" v)
  let processed ← parseProcessed (valueOf "processed" v)
  let createdAtMs ← optionalNonNegativeInt (valueOf "created_at_ms" v)
  let updatedAtMs ← optionalNonNegativeInt (valueOf "updated_at_ms" v)
  let location ← parseLocation (valueOf "location" v)
  return {
    format := .framenest
    mediaId, mediaKind, displayTitle, description, tagKeys, tagDefinitions, contentCategory
    acquisitionSource, genreKeys, processed, createdAtMs, updatedAtMs, location
    creator := ⟨creatorAttributionKind, creatorStableId, creatorHandle, creatorDisplayName⟩ }

/- What `decode_media_sidecar` does with what `json.loads` returned. -/
def decodeTree (u : Unicode) (v : PyJson) : Except SidecarFault (SidecarDocument u) := do
  require v.asObj.isSome .malformed
  require (!hasForeignFormat v && !hasForeignVersion v) .unsupported
  require (isClosed rootFields v) .malformed
  requireFormat (valueOf "format" v)
  requireVersion (valueOf "schema_version" v)
  let fields ← parseFields v
  orMalformed (SidecarDocument.make u fields)

def utf8Bom : Utf8.Bytes := [0xef, 0xbb, 0xbf]

/- The text of the bytes. -/
def textOf (payload : Utf8.Bytes) : Except SidecarFault PyStr := do
  require (payload ≠ [] && payload.length ≤ maxSidecarBytes) .malformed
  require (!utf8Bom.isPrefixOf payload) .malformed
  let chars ← orMalformed (Utf8.decodeStrict payload)
  return ofChars chars

/- `json.loads` with the hooks; only `JSONDecodeError` is caught. -/
def readText (nesting : Nat) (s : PyStr) : Except SidecarFault PyJson :=
  match JsonReader.loads ⟨nesting, true⟩ s with
  | .ok v => .ok v
  | .error .malformed => .error .malformed
  | .error .raised => .error .escaped

/- `decode_media_sidecar`. -/
def decodeMediaSidecar (u : Unicode) (nesting : Nat) (payload : Utf8.Bytes) :
    Except SidecarFault (SidecarDocument u) := do
  let s ← textOf payload
  let v ← readText nesting s
  decodeTree u v

end Decoding
end FrameNest.Sidecar
