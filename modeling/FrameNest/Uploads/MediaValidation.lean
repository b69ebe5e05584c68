import FrameNest.Relational.Raising
import FrameNest.Text.JsonValues
import FrameNest.Uploads.Sessions

/-! Validation of a quarantined upload: what its first bytes say, and what the still image library
or the probe process says of the rest. -/
namespace FrameNest.Uploads
open Relational Utf8

/-- What `validate` raises: one of the three declared errors, or something else. -/
inductive UploadMediaValidationError where
  | rejected (failureCode : String)
  | infrastructure (failureCode : String)
  | interrupted
  | undeclared
deriving DecidableEq

abbrev Checked := Except UploadMediaValidationError

namespace UploadMediaValidationError

def invalidMedia : UploadMediaValidationError := .rejected "INVALID_MEDIA"
def unsupportedMediaType : UploadMediaValidationError := .rejected "UNSUPPORTED_MEDIA_TYPE"
def ambiguousMediaType : UploadMediaValidationError := .rejected "AMBIGUOUS_MEDIA_TYPE"
def mediaPolicyLimit : UploadMediaValidationError := .rejected "MEDIA_POLICY_LIMIT"
def timeout : UploadMediaValidationError := .rejected "VALIDATION_TIMEOUT"
def outputLimit : UploadMediaValidationError := .rejected "VALIDATION_OUTPUT_LIMIT"
def toolUnavailable : UploadMediaValidationError := .infrastructure "VALIDATION_TOOL_UNAVAILABLE"
def internalError : UploadMediaValidationError := .infrastructure "VALIDATION_INTERNAL_ERROR"

/- The permanent rejection of the content. -/
def IsRejected : UploadMediaValidationError → Prop
  | .rejected _ => True
  | _ => False

end UploadMediaValidationError

open UploadMediaValidationError

def uploadValidationPrefixMaxBytes : Nat := 4096
def uploadValidationProbeMaxNestingDepth : Nat := 48
def uploadValidationMaxStreams : Nat := 16
def uploadValidationMaxDimension : Nat := 8192
def uploadValidationMaxTotalPixels : Nat := 33177600
def uploadValidationMaxDurationMs : Nat := 21600000
def uploadValidationMaxDurationSeconds : Nat := 21600
def uploadValidationMaxNumericStringLength : Nat := 32

structure UploadMediaValidationEvidence where
  mediaKind : UploadValidatedMediaKind
  mediaFormat : UploadValidatedFormat
deriving DecidableEq

structure SignatureEvidence where
  mediaFormat : UploadValidatedFormat
  width : Option Nat
  height : Option Nat
  mp4MajorBrand : Option Bytes
  mp4CompatibleBrands : List Bytes
deriving DecidableEq

structure ProbeEvidence where
  mediaFormat : UploadValidatedFormat
  mediaKind : UploadValidatedMediaKind
  width : Nat
  height : Nat
  durationMs : Option Nat
  videoCodec : PyStr
deriving DecidableEq

def validateDimensions (width height : Nat) : Checked Unit := do
  require (width ≤ uploadValidationMaxDimension && height ≤ uploadValidationMaxDimension)
    mediaPolicyLimit
  require (width * height ≤ uploadValidationMaxTotalPixels) mediaPolicyLimit

section Signature

def mp4AcceptedMajorBrands : List Bytes :=
  ["avc1", "cmfc", "dash", "iso2", "iso4", "iso5", "iso6", "isom", "mp41", "mp42"].map ascii

def mp4SupportingCompatibleBrands : List Bytes :=
  ["iso2", "iso4", "iso5", "iso6", "isom"].map ascii

def mp4RejectedMajorBrands : List Bytes :=
  ["qt  ", "M4A ", "M4B ", "M4P ", "M4R ", "M4A", "M4B", "M4P", "M4R"].map ascii

def isRejectedMp4MajorBrand (brand : Bytes) : Bool :=
  mp4RejectedMajorBrands.contains brand ||
    ["3gp", "3g2", "mj2"].any fun start => (ascii start).isPrefixOf brand

def littleEndian (b : Bytes) : Nat := b.foldr (fun x n => x.toNat + 256 * n) 0
def bigEndian (b : Bytes) : Nat := b.foldl (fun n x => 256 * n + x.toNat) 0

def isAscii (b : Bytes) : Bool := b.all fun x => x < 128

/- The compatible brands of a box, four bytes each. -/
def brandsOf : Bytes → List Bytes
  | a :: b :: c :: d :: rest => [a, b, c, d] :: brandsOf rest
  | _ => []

def mp4FtypEvidence (head : Bytes) : Option (Bytes × List Bytes) :=
  let boxSize := bigEndian (head.take 4)
  let body := (head.take boxSize).drop 8
  let major := body.take 4
  let compatible := brandsOf (body.drop 8)
  if head.length < 16 then none
  else if (head.drop 4).take 4 ≠ ascii "ftyp" ∨ boxSize < 16 ∨ head.length < boxSize then none
  else if body.length < 8 ∨ body.length % 4 ≠ 0 then none
  -- The four bytes of the minor version between are not decoded.
  else if !isAscii major || !isAscii (body.drop 8) then none
  else if isRejectedMp4MajorBrand major then none
  else if !mp4AcceptedMajorBrands.contains major then none
  else if !compatible.isEmpty && !compatible.any fun brand =>
      mp4AcceptedMajorBrands.contains brand || mp4SupportingCompatibleBrands.contains brand then none
  else some (major, compatible)

def detectSignature (content : Bytes) : Checked SignatureEvidence :=
  let head := content.take uploadValidationPrefixMaxBytes
  if (ascii "GIF87a").isPrefixOf head || (ascii "GIF89a").isPrefixOf head then do
    let width := littleEndian ((head.drop 6).take 2)
    let height := littleEndian ((head.drop 8).take 2)
    require (10 ≤ head.length) invalidMedia
    require (0 < width && 0 < height) invalidMedia
    validateDimensions width height
    .ok ⟨.gif, some width, some height, none, []⟩
  else if [0xff, 0xd8, 0xff].isPrefixOf head then .ok ⟨.jpeg, none, none, none, []⟩
  else if ([0x89] ++ ascii "PNG\r\n" ++ [0x1a, 0x0a]).isPrefixOf head then
    .ok ⟨.png, none, none, none, []⟩
  else
    match mp4FtypEvidence head with
    | some (major, compatible) => .ok ⟨.mp4, none, none, some major, compatible⟩
    | none => .error unsupportedMediaType

end Signature

section StillImages

/-- What the image library raises: `DecompressionBombError`, one of `OSError`,
`UnidentifiedImageError`, `ValueError`, `TypeError` and `SyntaxError`, or something else. -/
inductive ImageFailure where
  | decompressionBomb
  | unreadable
  | undocumented
deriving DecidableEq

/-- An image that has been opened and loaded. -/
structure Source where
  format : String
  width : Int
  height : Int

/-- `read(1024 * 1024)` until nothing comes. -/
def readPayload (sizeBytes : Nat) (payload rest : Bytes) : Checked Bytes :=
  if h : rest = [] then
    if payload.length ≠ sizeBytes ∨ payload = [] then .error invalidMedia else .ok payload
  else
    let payload := payload ++ rest.take (1024 * 1024)
    if sizeBytes < payload.length then .error invalidMedia
    else readPayload sizeBytes payload (rest.drop (1024 * 1024))
termination_by rest.length
decreasing_by
  have hpos := List.length_pos_of_ne_nil h
  simp only [List.length_drop]
  omega

def stillFormatName : UploadValidatedFormat → Option String
  | .jpeg => some "JPEG"
  | .png => some "PNG"
  | _ => none

def validateStillImage (openImage : Bytes → Except ImageFailure Source) (sizeBytes : Nat)
    (content : Bytes) (signature : SignatureEvidence) : Checked UploadMediaValidationEvidence := do
  let payload ← readPayload sizeBytes [] content
  match openImage payload with
  | .error .decompressionBomb => .error mediaPolicyLimit
  | .error .unreadable => .error invalidMedia
  | .error .undocumented => .error .undeclared
  | .ok source =>
    match stillFormatName signature.mediaFormat with
    | none => .error unsupportedMediaType
    | some name => do
      require (source.format = name) ambiguousMediaType
      require (0 < source.width && 0 < source.height) invalidMedia
      validateDimensions source.width.toNat source.height.toNat
      .ok ⟨.image, signature.mediaFormat⟩

end StillImages

section Process

/-- What a run of a process raises. -/
inductive ProcessError where
  | interrupted
  | execution (message : String)

structure ProcessRunResult where
  returncode : Int
  stdout : Bytes

/-- The probe: the executable that was configured or that is found, and what running it does. -/
structure ProbeTool where
  ffprobeExecutable : Option String
  resolveFfprobe : Except ProcessError String
  run : String → Except ProcessError ProcessRunResult

def ProbeTool.outcome (tool : ProbeTool) : Except ProcessError ProcessRunResult :=
  match tool.ffprobeExecutable with
  | some executable => tool.run executable
  | none => do tool.run (← tool.resolveFfprobe)

def executableNotFoundMessage : String := "External tool is not available."
def processTimeoutMessage : String := "External tool timed out."
def processOutputLimitMessage : String := "External tool output exceeded the allowed limit."
def processInterruptedMessage : String := "External tool was interrupted."
def toolNotAvailableMessage : String := "Required external media tool is not available."

def raiseProcessError (message : String) : UploadMediaValidationError :=
  if message = processInterruptedMessage then .interrupted
  else if message = executableNotFoundMessage ∨ message = toolNotAvailableMessage then toolUnavailable
  else if message = processTimeoutMessage then timeout
  else if message = processOutputLimitMessage then outputLimit
  else internalError

end Process

/-- Unicode as Python knows it: the value of a decimal digit, and `str.lower`. -/
structure UnicodeTables where
  decimal : CodePoint → Option (Fin 10)
  lower : PyStr → PyStr

section Probe
open PyJson

/-- `json.loads` accepts `NaN` and the infinities, which the hook turns down wherever they are. -/
def decodeProbePayload (nesting : Nat) (stdout : Bytes) : Checked PyJson :=
  match decodeStrict stdout with
  | none => .error invalidMedia
  | some text =>
    match JsonReader.loads ⟨nesting, false⟩ (PyStr.ofChars text) with
    | .error _ => .error invalidMedia
    | .ok payload =>
      if payload.standard && shallow payload uploadValidationProbeMaxNestingDepth then .ok payload
      else .error invalidMedia

variable (tables : UnicodeTables)

def isAttachedPicture (stream : List (PyStr × PyJson)) : Bool :=
  match get stream "disposition" with
  | .obj disposition =>
    match get disposition "attached_pic" with
    | .int n => n = 1
    | .bool b => b
    | .float literal => double literal = some 1
    | .str s => s = PyStr.ofString "1"
    | _ => false
  | _ => false

def isdecimal (s : PyStr) : Bool := !s.isEmpty && s.all fun c => (tables.decimal c).isSome

def decimalValue (s : PyStr) : Nat :=
  s.foldl (fun n c => 10 * n + ((tables.decimal c).elim 0 Fin.val)) 0

def positive (n : Int) : Option Nat := if 0 < n then some n.toNat else none

def positiveInt : PyJson → Option Nat
  | .int n => positive n
  | .float literal => (double literal).bind fun q => if q.den = 1 then positive (PyJson.truncate q) else none
  | .str s =>
    if isdecimal tables s && s.length ≤ uploadValidationMaxNumericStringLength then
      positive (decimalValue tables s)
    else none
  | _ => none

/- `^(?:0|[1-9][0-9]*)(?:\.[0-9]{1,9})?$` -/
def isDecimalSeconds (l : List Char) : Bool :=
  let whole := l.takeWhile (· ≠ '.')
  let fraction := l.dropWhile (· ≠ '.')
  !whole.isEmpty && whole.all JsonReader.isDigit && (whole = ['0'] || whole.head? ≠ some '0') &&
    (fraction.isEmpty ||
      (2 ≤ fraction.length && fraction.length ≤ 10 && fraction.tail.all JsonReader.isDigit))

def boundedDecimalSeconds (s : PyStr) : Option ℚ :=
  if s.length ≤ uploadValidationMaxNumericStringLength then
    (PyStr.chars? s).bind fun l => if isDecimalSeconds l then some (literalValue l) else none
  else none

/- `int(value * 1000)` once a finite number of seconds is known. -/
def secondsToMs (seconds : ℚ) (product : Option ℚ) : Checked (Option Nat) := do
  require (0 ≤ seconds) invalidMedia
  require (seconds ≤ uploadValidationMaxDurationSeconds) mediaPolicyLimit
  match product with
  | some ms => .ok (some (PyJson.truncate ms).toNat)
  | none => .error .undeclared

def durationMs : PyJson → Checked (Option Nat)
  | .null | .bool _ => .ok none
  -- `math.isfinite` converts the integer to a float first.
  | .int n =>
    if overflows n then .error .undeclared else secondsToMs n (some (n * 1000))
  | .float literal =>
    match double literal with
    | none => .error invalidMedia
    | some seconds => secondsToMs seconds (nearest (seconds * 1000))
  | .str s =>
    match boundedDecimalSeconds s with
    | none => .error invalidMedia
    | some seconds => secondsToMs seconds (some (seconds * 1000))
  | .constant _ | .arr _ | .obj _ => .error invalidMedia

def formatNames : PyJson → Checked (List PyStr)
  | .str value => do
    let parts := (value.splitOn (.char ',')).map PyStr.strip
    let names := (parts.filter fun part => !part.isEmpty).map tables.lower
    require (!value.isEmpty) invalidMedia
    require (!names.isEmpty) invalidMedia
    require (names.all fun name => name.length ≤ 64) mediaPolicyLimit
    .ok names
  | _ => .error invalidMedia

def visualStreams (streams : List (List (PyStr × PyJson))) : List (List (PyStr × PyJson)) :=
  streams.filter fun stream =>
    match get stream "codec_type" with
    | .str kind => kind = PyStr.ofString "video" && !isAttachedPicture stream
    | _ => false

def asObject : PyJson → Option (List (PyStr × PyJson))
  | .obj members => some members
  | _ => none

/-- The one stream that shows something. -/
def visualStream (payload : List (PyStr × PyJson)) : Checked (List (PyStr × PyJson)) :=
  match get payload "streams" with
  | .arr streams => do
    let streamDicts := streams.filterMap asObject
    require (streams.length ≤ uploadValidationMaxStreams) mediaPolicyLimit
    require (streamDicts.length = streams.length) invalidMedia
    match visualStreams streamDicts with
    | [] => .error invalidMedia
    | [stream] => .ok stream
    | _ => .error mediaPolicyLimit
  | _ => .error invalidMedia

/- The width, the height and the codec of a stream. -/
def streamVideo (stream : List (PyStr × PyJson)) : Checked (Nat × Nat × PyStr) :=
  match positiveInt tables (get stream "width"), positiveInt tables (get stream "height") with
  | some width, some height => do
    validateDimensions width height
    match get stream "codec_name" with
    | .str codec => do
      require (!codec.isEmpty) invalidMedia
      .ok (width, height, codec)
    | _ => .error invalidMedia
  | _, _ => .error invalidMedia

/- The container's duration where the stream has none. -/
def containerDuration (streamDuration : Option Nat) (block : List (PyStr × PyJson)) :
    Checked (Option Nat) :=
  match streamDuration with
  | some ms => .ok (some ms)
  | none => durationMs (get block "duration")

/- The duration and the names of the format. -/
def formatBlock (payload : List (PyStr × PyJson)) (streamDuration : Option Nat) :
    Checked (Option Nat × List PyStr) :=
  match get payload "format" with
  | .obj block => do
    let duration ← containerDuration streamDuration block
    let names ← formatNames tables (get block "format_name")
    .ok (duration, names)
  | _ => .ok (streamDuration, [])

def mp4AcceptedCodecs : List PyStr := ["av1", "h264", "hevc", "mpeg4", "vp9"].map PyStr.ofString

def probeFromFormats (names : List PyStr) (width height : Nat) (duration : Option Nat)
    (codec : PyStr) : Checked ProbeEvidence :=
  let listed := fun name => names.contains (PyStr.ofString name)
  if listed "gif" then do
    require (names.length = 1 && codec = PyStr.ofString "gif") ambiguousMediaType
    .ok ⟨.gif, .animatedImage, width, height, duration, codec⟩
  else if listed "mp4" then do
    require (!(listed "gif" || listed "matroska" || listed "webm")) ambiguousMediaType
    require (mp4AcceptedCodecs.contains codec) mediaPolicyLimit
    .ok ⟨.mp4, .video, width, height, duration, codec⟩
  else .error unsupportedMediaType

def validateDuration (duration : Option Nat) : Checked Unit :=
  require (duration.all fun ms => ms ≤ uploadValidationMaxDurationMs) mediaPolicyLimit

def parseProbePayload (payload : List (PyStr × PyJson)) : Checked ProbeEvidence := do
  let stream ← visualStream payload
  let video ← streamVideo tables stream
  let streamDuration ← durationMs (get stream "duration")
  let block ← formatBlock tables payload streamDuration
  validateDuration block.1
  probeFromFormats block.2 video.1 video.2.1 block.1 (tables.lower video.2.2)

def ensureSignatureAndProbeAgree (signature : SignatureEvidence) (probe : ProbeEvidence) :
    Checked Unit := do
  require (signature.mediaFormat = probe.mediaFormat) ambiguousMediaType
  require (signature.width.all (· = probe.width)) ambiguousMediaType
  require (signature.height.all (· = probe.height)) ambiguousMediaType

end Probe

section Validate
open PyJson

/-- What a validation relies on besides the content. -/
structure ValidationTools where
  tables : UnicodeTables
  nesting : Nat
  openImage : Bytes → Except ImageFailure Source
  probe : ProbeTool

variable (tools : ValidationTools)

def probe : Checked ProbeEvidence :=
  match tools.probe.outcome with
  | .error .interrupted => .error .interrupted
  | .error (.execution message) => .error (raiseProcessError message)
  | .ok result => do
    require (result.returncode = 0) invalidMedia
    let payload ← decodeProbePayload tools.nesting result.stdout
    match payload with
    | .obj members => parseProbePayload tools.tables members
    | _ => .error invalidMedia

def validate (sizeBytes : Nat) (content : Bytes) : Checked UploadMediaValidationEvidence := do
  let signature ← detectSignature content
  if (stillFormatName signature.mediaFormat).isSome then
    validateStillImage tools.openImage sizeBytes content signature
  else do
    let probed ← probe tools
    ensureSignatureAndProbeAgree signature probed
    .ok ⟨probed.mediaKind, probed.mediaFormat⟩

end Validate

section Rejections
variable {tables : UnicodeTables}

theorem rejects_error {α : Type} (code : String) :
    Raises IsRejected (.error (.rejected code) : Checked α) :=
  Raises.error trivial

theorem rejects_bind {α : Type} {condition : Bool} {code : String} {f : Unit → Checked α}
    (hf : condition = true → Raises IsRejected (f ())) :
    Raises IsRejected (require condition (.rejected code) >>= f) := by
  apply Raises.require_bind
  · trivial
  · exact hf

theorem rejects_require (condition : Bool) (code : String) :
    Raises IsRejected (require condition (.rejected code)) :=
  Raises.require trivial

theorem validateDimensions_rejects (width height : Nat) :
    Raises IsRejected (validateDimensions width height) := by
  apply rejects_bind
  intro _
  exact rejects_require _ _

theorem validateDimensions_ok {width height : Nat} {u : Unit}
    (h : validateDimensions width height = .ok u) :
    width ≤ uploadValidationMaxDimension ∧ height ≤ uploadValidationMaxDimension ∧
      width * height ≤ uploadValidationMaxTotalPixels := by
  obtain ⟨hsides, h⟩ := require_bind_eq_ok.mp h
  have harea := require_eq_ok.mp h
  simp only [Bool.and_eq_true, decide_eq_true_eq] at hsides harea
  exact ⟨hsides.1, hsides.2, harea⟩

theorem detectSignature_rejects (content : Bytes) :
    Raises IsRejected (detectSignature content) := by
  simp only [detectSignature]
  split
  · apply rejects_bind
    intro _
    apply rejects_bind
    intro _
    apply Raises.bind (validateDimensions_rejects _ _)
    intro _ _
    exact Raises.ok _
  · split
    · exact Raises.ok _
    · split
      · exact Raises.ok _
      · split
        · exact Raises.ok _
        · exact rejects_error _

theorem readPayload_rejects (sizeBytes : Nat) (payload rest : Bytes) :
    Raises IsRejected (readPayload sizeBytes payload rest) := by
  induction payload, rest using readPayload.induct sizeBytes with
  | case1 payload h =>
    rw [readPayload, dif_pos rfl, if_pos h]
    exact rejects_error _
  | case2 payload h =>
    rw [readPayload, dif_pos rfl, if_neg h]
    exact Raises.ok _
  | case3 payload rest h next hlarge =>
    rw [readPayload, dif_neg h]
    simp only [next] at hlarge
    rw [if_pos hlarge]
    exact rejects_error _
  | case4 payload rest h next hsmall ih =>
    rw [readPayload, dif_neg h]
    simp only [next] at hsmall ih
    rw [if_neg hsmall]
    exact ih

/-- The image library raises what its documentation names. -/
def Documented (openImage : Bytes → Except ImageFailure Source) : Prop :=
  ∀ payload, openImage payload ≠ .error .undocumented

theorem validateStillImage_rejects {openImage : Bytes → Except ImageFailure Source}
    (h : Documented openImage) (sizeBytes : Nat) (content : Bytes) (signature : SignatureEvidence) :
    Raises IsRejected (validateStillImage openImage sizeBytes content signature) := by
  apply Raises.bind (readPayload_rejects sizeBytes [] content)
  intro payload _
  cases himage : openImage payload with
  | error failure =>
    cases failure with
    | decompressionBomb => exact rejects_error _
    | unreadable => exact rejects_error _
    | undocumented => exact absurd himage (h payload)
  | ok source =>
    simp only
    split
    · exact rejects_error _
    · apply rejects_bind
      intro _
      apply rejects_bind
      intro _
      apply Raises.bind (validateDimensions_rejects _ _)
      intro _ _
      exact Raises.ok _

/-- A still image is evidence of a still image only. -/
theorem validateStillImage_ok {openImage : Bytes → Except ImageFailure Source} {sizeBytes : Nat}
    {content : Bytes} {signature : SignatureEvidence} {evidence : UploadMediaValidationEvidence}
    (h : validateStillImage openImage sizeBytes content signature = .ok evidence) :
    evidence.mediaFormat = signature.mediaFormat := by
  obtain ⟨payload, -, h⟩ := bind_eq_ok.mp h
  cases himage : openImage payload with
  | error failure =>
    rw [himage] at h
    cases failure <;> cases h
  | ok source =>
    rw [himage] at h
    simp only at h
    split at h
    · cases h
    · obtain ⟨-, h⟩ := require_bind_eq_ok.mp h
      obtain ⟨-, h⟩ := require_bind_eq_ok.mp h
      obtain ⟨_, -, h⟩ := bind_eq_ok.mp h
      cases h
      rfl

theorem raiseProcessError_declared (message : String) : raiseProcessError message ≠ .undeclared := by
  simp only [raiseProcessError, toolUnavailable, timeout, outputLimit, internalError]
  split
  · simp
  · split
    · simp
    · split
      · simp
      · split <;> simp

theorem decodeProbePayload_rejects (nesting : Nat) (stdout : Bytes) :
    Raises IsRejected (decodeProbePayload nesting stdout) := by
  unfold decodeProbePayload
  split
  · exact rejects_error _
  · split
    · exact rejects_error _
    · split
      · exact Raises.ok _
      · exact rejects_error _

theorem secondsToMs_rejects {seconds : ℚ} {product : Option ℚ}
    (h : 0 ≤ seconds → seconds ≤ uploadValidationMaxDurationSeconds → product.isSome = true) :
    Raises IsRejected (secondsToMs seconds product) := by
  apply rejects_bind
  intro hlow
  apply rejects_bind
  intro hhigh
  cases product with
  | some ms => exact Raises.ok _
  | none => simpa using h (by simpa using hlow) (by simpa using hhigh)

theorem secondsToMs_some {seconds : ℚ} {product : Option ℚ} {duration : Option Nat}
    (h : secondsToMs seconds product = .ok duration) : duration ≠ none := by
  obtain ⟨-, h⟩ := require_bind_eq_ok.mp h
  obtain ⟨-, h⟩ := require_bind_eq_ok.mp h
  cases product with
  | some ms =>
    cases h
    simp
  | none => cases h

open PyJson

/- An integer that no float comes near. -/
def isHuge : PyJson → Bool
  | .int n => overflows n
  | _ => false

/- A value that stands for no duration. -/
def isAbsent : PyJson → Bool
  | .null | .bool _ => true
  | _ => false

theorem durationMs_rejects {v : PyJson} (h : isHuge v = false) :
    Raises IsRejected (durationMs v) := by
  cases v with
  | null => exact Raises.ok _
  | bool b => exact Raises.ok _
  | int n =>
    have hn : overflows n = false := h
    simp only [durationMs, hn, Bool.false_eq_true, if_false]
    apply secondsToMs_rejects
    intro _ _
    rfl
  | float literal =>
    simp only [durationMs]
    cases hvalue : double literal with
    | none => exact rejects_error _
    | some seconds =>
      apply secondsToMs_rejects
      intro hlow hhigh
      -- Six hours in milliseconds are a finite float.
      have hsmall : |seconds * 1000| ≤ 2 ^ 100 := by
        rw [abs_of_nonneg (by linarith)]
        simp only [uploadValidationMaxDurationSeconds] at hhigh
        push_cast at hhigh
        linarith
      obtain ⟨ms, hms⟩ := nearest_some hsmall
      simp [hms]
  | str s =>
    simp only [durationMs]
    cases boundedDecimalSeconds s with
    | none => exact rejects_error _
    | some seconds =>
      apply secondsToMs_rejects
      intro _ _
      rfl
  | constant name => exact rejects_error _
  | arr items => exact rejects_error _
  | obj members => exact rejects_error _

theorem durationMs_huge {v : PyJson} (h : isHuge v = true) : durationMs v = .error .undeclared := by
  cases v with
  | int n => exact if_pos h
  | _ => cases h

theorem durationMs_absent {v : PyJson} (h : isAbsent v = true) : durationMs v = .ok none := by
  cases v with
  | null => rfl
  | bool b => rfl
  | _ => cases h

theorem isAbsent_of_none {v : PyJson} (h : durationMs v = .ok none) : isAbsent v = true := by
  cases v with
  | null => rfl
  | bool b => rfl
  | int n =>
    simp only [durationMs] at h
    split at h
    · cases h
    · exact absurd rfl (secondsToMs_some h)
  | float literal =>
    simp only [durationMs] at h
    cases hvalue : double literal with
    | none => simp [hvalue] at h
    | some seconds =>
      rw [hvalue] at h
      exact absurd rfl (secondsToMs_some h)
  | str s =>
    simp only [durationMs] at h
    cases hvalue : boundedDecimalSeconds s with
    | none => simp [hvalue] at h
    | some seconds =>
      rw [hvalue] at h
      exact absurd rfl (secondsToMs_some h)
  | _ => cases h

theorem formatNames_rejects (v : PyJson) : Raises IsRejected (formatNames tables v) := by
  cases v with
  | str value =>
    apply rejects_bind
    intro _
    apply rejects_bind
    intro _
    apply rejects_bind
    intro _
    exact Raises.ok _
  | _ => exact rejects_error _

theorem visualStream_rejects (payload : List (PyStr × PyJson)) :
    Raises IsRejected (visualStream payload) := by
  unfold visualStream
  split
  · apply rejects_bind
    intro _
    apply rejects_bind
    intro _
    split
    · exact rejects_error _
    · exact Raises.ok _
    · exact rejects_error _
  · exact rejects_error _

theorem streamVideo_rejects (stream : List (PyStr × PyJson)) :
    Raises IsRejected (streamVideo tables stream) := by
  unfold streamVideo
  split
  · apply Raises.bind (validateDimensions_rejects _ _)
    intro _ _
    split
    · apply rejects_bind
      intro _
      exact Raises.ok _
    · exact rejects_error _
  · exact rejects_error _

theorem probeFromFormats_rejects (names : List PyStr) (width height : Nat) (duration : Option Nat)
    (codec : PyStr) : Raises IsRejected (probeFromFormats names width height duration codec) := by
  simp only [probeFromFormats]
  split
  · apply rejects_bind
    intro _
    exact Raises.ok _
  · split
    · apply rejects_bind
      intro _
      apply rejects_bind
      intro _
      exact Raises.ok _
    · exact rejects_error _

/-- The duration that is read is an integer that no float comes near. -/
def hugeDuration (payload stream : List (PyStr × PyJson)) : Bool :=
  isHuge (get stream "duration") || (isAbsent (get stream "duration") &&
    match get payload "format" with
    | .obj block => isHuge (get block "duration")
    | _ => false)

theorem formatBlock_rejects {payload stream : List (PyStr × PyJson)} {duration : Option Nat}
    (h : hugeDuration payload stream = false)
    (hduration : durationMs (get stream "duration") = .ok duration) :
    Raises IsRejected (formatBlock tables payload duration) := by
  unfold formatBlock
  cases hformat : get payload "format" with
  | obj block =>
    have hcontainer : Raises IsRejected (containerDuration duration block) := by
      cases duration with
      | some ms => exact Raises.ok _
      | none =>
        have habsent := isAbsent_of_none hduration
        apply durationMs_rejects
        simpa [hugeDuration, habsent, hformat] using (Bool.or_eq_false_iff.mp h).2
    apply Raises.bind hcontainer
    intro _ _
    apply Raises.bind (formatNames_rejects _)
    intro _ _
    exact Raises.ok _
  | _ => exact Raises.ok _

theorem parseProbePayload_rejects {payload : List (PyStr × PyJson)}
    (h : ∀ stream video, visualStream payload = .ok stream →
      streamVideo tables stream = .ok video → hugeDuration payload stream = false) :
    Raises IsRejected (parseProbePayload tables payload) := by
  apply Raises.bind (visualStream_rejects _)
  intro stream hstream
  apply Raises.bind (streamVideo_rejects _)
  intro video hvideo
  have hsmall := h stream video hstream hvideo
  apply Raises.bind (durationMs_rejects (Bool.or_eq_false_iff.mp hsmall).1)
  intro duration hduration
  apply Raises.bind (formatBlock_rejects hsmall hduration)
  intro block _
  apply Raises.bind (rejects_require _ _)
  intro _ _
  exact probeFromFormats_rejects _ _ _ _ _

theorem parseProbePayload_huge {payload stream : List (PyStr × PyJson)} {video : Nat × Nat × PyStr}
    (hstream : visualStream payload = .ok stream) (hvideo : streamVideo tables stream = .ok video)
    (h : hugeDuration payload stream = true) :
    parseProbePayload tables payload = .error .undeclared := by
  have hparse : parseProbePayload tables payload =
      (durationMs (get stream "duration") >>= fun duration =>
        formatBlock tables payload duration >>= fun block =>
          validateDuration block.1 >>= fun _ =>
            probeFromFormats block.2 video.1 video.2.1 block.1 (tables.lower video.2.2)) := by
    rw [parseProbePayload, hstream]
    change (streamVideo tables stream >>= _) = _
    rw [hvideo]
    rfl
  rw [hparse]
  cases hown : isHuge (get stream "duration") with
  | true =>
    rw [durationMs_huge hown]
    rfl
  | false =>
    simp only [hugeDuration, hown, Bool.false_or, Bool.and_eq_true] at h
    rw [durationMs_absent h.1]
    cases hformat : get payload "format" with
    | obj block =>
      rw [hformat] at h
      have hblock : formatBlock tables payload none = .error .undeclared := by
        simp only [formatBlock, hformat, containerDuration, durationMs_huge h.2]
        rfl
      change (formatBlock tables payload none >>= _) = _
      rw [hblock]
      rfl
    | _ => simp [hformat] at h

end Rejections

section Evidence
open PyJson

/- The stream's duration or else the container's. -/
def shownDuration (payload stream : List (PyStr × PyJson)) : Checked (Option Nat) := do
  let own ← durationMs (get stream "duration")
  match get payload "format" with
  | .obj block => containerDuration own block
  | _ => .ok own

/-- What GIF and MP4 evidence takes: one picture stream of a few, its codec, its size and its
duration as they must be, and the container's name that of the signature. -/
structure Acceptable (tables : UnicodeTables) (signature : SignatureEvidence)
    (payload : List (PyStr × PyJson)) (evidence : UploadMediaValidationEvidence)
    (streams : List (List (PyStr × PyJson))) (stream : List (PyStr × PyJson)) (width height : Nat)
    (codec : PyStr) (duration : Option Nat) (names : List PyStr) : Prop where
  agrees : signature.mediaFormat = evidence.mediaFormat
  streams_read : get payload "streams" = .arr (streams.map .obj)
  few : streams.length ≤ uploadValidationMaxStreams
  sole : visualStreams streams = [stream]
  width_read : positiveInt tables (get stream "width") = some width
  height_read : positiveInt tables (get stream "height") = some height
  positive : 0 < width ∧ 0 < height
  within : width ≤ uploadValidationMaxDimension ∧ height ≤ uploadValidationMaxDimension ∧
    width * height ≤ uploadValidationMaxTotalPixels
  codec_read : get stream "codec_name" = .str codec
  width_signed : ∀ n, signature.width = some n → n = width
  height_signed : ∀ n, signature.height = some n → n = height
  duration_read : shownDuration payload stream = .ok duration
  short : ∀ ms, duration = some ms → ms ≤ uploadValidationMaxDurationMs
  names_read : ∃ block, get payload "format" = .obj block ∧
    formatNames tables (get block "format_name") = .ok names
  named : (evidence.mediaFormat = .gif ∧ names = [PyStr.ofString "gif"] ∧
      tables.lower codec = PyStr.ofString "gif") ∨
    (evidence.mediaFormat = .mp4 ∧ PyStr.ofString "mp4" ∈ names ∧ PyStr.ofString "gif" ∉ names ∧
      tables.lower codec ∈ mp4AcceptedCodecs)

theorem objects_of_length (items : List PyJson)
    (h : (items.filterMap asObject).length = items.length) :
    items = (items.filterMap asObject).map .obj := by
  have hsome := List.filterMap_length_eq_length.mp h
  clear h
  induction items with
  | nil => rfl
  | cons item items ih =>
    have hrest := ih fun v hv => hsome v (List.mem_cons_of_mem _ hv)
    have hitem := hsome item List.mem_cons_self
    cases item with
    | obj members =>
      change obj members :: items = obj members :: (items.filterMap asObject).map .obj
      rw [← hrest]
    | _ => cases hitem

theorem visualStream_ok {payload stream : List (PyStr × PyJson)}
    (h : visualStream payload = .ok stream) :
    ∃ streams, get payload "streams" = .arr (streams.map .obj) ∧
      streams.length ≤ uploadValidationMaxStreams ∧ visualStreams streams = [stream] := by
  unfold visualStream at h
  cases hlisted : get payload "streams" with
  | arr items =>
    simp only [hlisted] at h
    obtain ⟨hfew, h⟩ := require_bind_eq_ok.mp h
    obtain ⟨hall, h⟩ := require_bind_eq_ok.mp h
    have hmap := objects_of_length items (by simpa using hall)
    have hlength : (items.filterMap asObject).length = items.length := by simpa using hall
    refine ⟨items.filterMap asObject, ?_, ?_, ?_⟩
    · rw [← hmap]
    · rw [hlength]
      simpa using hfew
    · split at h
      · cases h
      · rename_i only honly
        cases h
        exact honly
      · cases h
  | _ => simp [hlisted] at h

theorem positiveInt_pos {tables : UnicodeTables} {v : PyJson} {n : Nat}
    (h : positiveInt tables v = some n) : 0 < n := by
  have hpositive : ∀ {i : Int}, positive i = some n → 0 < n := by
    intro i hi
    unfold positive at hi
    split at hi
    · cases hi
      omega
    · cases hi
  cases v with
  | int i => exact hpositive h
  | float literal =>
    obtain ⟨q, -, hq⟩ := Option.bind_eq_some_iff.mp h
    split at hq
    · exact hpositive hq
    · cases hq
  | str s =>
    simp only [positiveInt] at h
    split at h
    · exact hpositive h
    · cases h
  | _ => cases h

theorem streamVideo_ok {tables : UnicodeTables} {stream : List (PyStr × PyJson)}
    {video : Nat × Nat × PyStr} (h : streamVideo tables stream = .ok video) :
    positiveInt tables (get stream "width") = some video.1 ∧
      positiveInt tables (get stream "height") = some video.2.1 ∧
      get stream "codec_name" = .str video.2.2 ∧
      (video.1 ≤ uploadValidationMaxDimension ∧ video.2.1 ≤ uploadValidationMaxDimension ∧
        video.1 * video.2.1 ≤ uploadValidationMaxTotalPixels) := by
  unfold streamVideo at h
  cases hwidth : positiveInt tables (get stream "width") with
  | none => simp [hwidth] at h
  | some width =>
    cases hheight : positiveInt tables (get stream "height") with
    | none => simp [hwidth, hheight] at h
    | some height =>
      simp only [hwidth, hheight] at h
      obtain ⟨_, hdimensions, h⟩ := bind_eq_ok.mp h
      cases hcodec : get stream "codec_name" with
      | str codec =>
        simp only [hcodec] at h
        obtain ⟨-, h⟩ := require_bind_eq_ok.mp h
        cases h
        exact ⟨rfl, rfl, rfl, validateDimensions_ok hdimensions⟩
      | _ => simp [hcodec] at h

theorem probeFromFormats_ok {names : List PyStr} {width height : Nat} {duration : Option Nat}
    {codec : PyStr} {evidence : ProbeEvidence}
    (h : probeFromFormats names width height duration codec = .ok evidence) :
    evidence.width = width ∧ evidence.height = height ∧
      ((evidence.mediaFormat = .gif ∧ names = [PyStr.ofString "gif"] ∧
          codec = PyStr.ofString "gif") ∨
        (evidence.mediaFormat = .mp4 ∧ PyStr.ofString "mp4" ∈ names ∧
          PyStr.ofString "gif" ∉ names ∧ codec ∈ mp4AcceptedCodecs)) := by
  simp only [probeFromFormats] at h
  split at h
  · rename_i hgif
    obtain ⟨hsole, h⟩ := require_bind_eq_ok.mp h
    cases h
    simp only [Bool.and_eq_true, decide_eq_true_eq] at hsole
    obtain ⟨name, hname⟩ := List.length_eq_one_iff.mp hsole.1
    rw [hname, List.contains_iff_mem, List.mem_singleton] at hgif
    exact ⟨rfl, rfl, Or.inl ⟨rfl, by rw [hname, hgif], hsole.2⟩⟩
  · rename_i hgif
    split at h
    · rename_i hmp4
      obtain ⟨-, h⟩ := require_bind_eq_ok.mp h
      obtain ⟨hcodec, h⟩ := require_bind_eq_ok.mp h
      cases h
      rw [List.contains_iff_mem] at hgif hmp4 hcodec
      exact ⟨rfl, rfl, Or.inr ⟨rfl, hmp4, hgif, hcodec⟩⟩
    · cases h

/-- The payload that a completed probe printed. -/
def ProbeTool.Printed (tool : ProbeTool) (nesting : Nat) (payload : List (PyStr × PyJson)) : Prop :=
  ∃ result, tool.outcome = .ok result ∧ result.returncode = 0 ∧
    decodeProbePayload nesting result.stdout = .ok (.obj payload)

theorem probe_ok {tools : ValidationTools} {evidence : ProbeEvidence}
    (h : probe tools = .ok evidence) :
    ∃ payload, tools.probe.Printed tools.nesting payload ∧
      parseProbePayload tools.tables payload = .ok evidence := by
  unfold probe at h
  cases houtcome : tools.probe.outcome with
  | error failure =>
    rw [houtcome] at h
    cases failure <;> cases h
  | ok result =>
    rw [houtcome] at h
    obtain ⟨hcode, h⟩ := require_bind_eq_ok.mp h
    obtain ⟨payload, hpayload, h⟩ := bind_eq_ok.mp h
    cases payload with
    | obj members => exact ⟨members, ⟨result, houtcome, by simpa using hcode, hpayload⟩, h⟩
    | _ => cases h

theorem formatBlock_ok {tables : UnicodeTables} {payload stream : List (PyStr × PyJson)}
    {own : Option Nat} {block : Option Nat × List PyStr}
    (hown : durationMs (get stream "duration") = .ok own)
    (h : formatBlock tables payload own = .ok block) :
    shownDuration payload stream = .ok block.1 ∧
      (block.2 = [] ∨ ∃ members, get payload "format" = .obj members ∧
        formatNames tables (get members "format_name") = .ok block.2) := by
  have hshown : shownDuration payload stream = (match get payload "format" with
      | .obj members => containerDuration own members
      | _ => .ok own) := by
    rw [shownDuration, hown]
    rfl
  rw [hshown]
  unfold formatBlock at h
  cases hformat : get payload "format" with
  | obj members =>
    simp only [hformat] at h ⊢
    obtain ⟨duration, hduration, h⟩ := bind_eq_ok.mp h
    obtain ⟨names, hnames, h⟩ := bind_eq_ok.mp h
    cases h
    exact ⟨hduration, Or.inr ⟨members, rfl, hnames⟩⟩
  | _ =>
    simp only [hformat] at h ⊢
    cases h
    exact ⟨rfl, Or.inl rfl⟩

/-- Evidence of a picture in motion is what the probe and the signature together say. -/
theorem validate_acceptable {tools : ValidationTools} {sizeBytes : Nat} {content : Bytes}
    {evidence : UploadMediaValidationEvidence} (h : validate tools sizeBytes content = .ok evidence)
    (hmoving : evidence.mediaFormat = .gif ∨ evidence.mediaFormat = .mp4) :
    ∃ signature payload, detectSignature content = .ok signature ∧
      tools.probe.Printed tools.nesting payload ∧
      ∃ streams stream width height codec duration names,
        Acceptable tools.tables signature payload evidence streams stream width height codec
          duration names := by
  obtain ⟨signature, hsignature, h⟩ := bind_eq_ok.mp h
  split at h
  · rename_i hstill
    rw [← validateStillImage_ok h] at hstill
    obtain hgif | hmp4 := hmoving
    · rw [hgif] at hstill
      cases hstill
    · rw [hmp4] at hstill
      cases hstill
  · obtain ⟨probed, hprobe, h⟩ := bind_eq_ok.mp h
    obtain ⟨_, hagree, h⟩ := bind_eq_ok.mp h
    cases h
    obtain ⟨payload, hprinted, hparse⟩ := probe_ok hprobe
    obtain ⟨stream, hstream, h⟩ := bind_eq_ok.mp hparse
    obtain ⟨video, hvideo, h⟩ := bind_eq_ok.mp h
    obtain ⟨own, hown, h⟩ := bind_eq_ok.mp h
    obtain ⟨block, hblock, h⟩ := bind_eq_ok.mp h
    obtain ⟨_, hshort, h⟩ := bind_eq_ok.mp h
    obtain ⟨hwidth, hheight, hnamed⟩ := probeFromFormats_ok h
    obtain ⟨streams, hread, hfew, hsole⟩ := visualStream_ok hstream
    obtain ⟨hwide, hhigh, hcodec, hwithin⟩ := streamVideo_ok hvideo
    obtain ⟨hduration, hnames⟩ := formatBlock_ok hown hblock
    obtain ⟨hformat, hagree⟩ := require_bind_eq_ok.mp hagree
    obtain ⟨hsignedWidth, hsignedHeight⟩ := require_bind_eq_ok.mp hagree
    have hsignedHeight := require_eq_ok.mp hsignedHeight
    refine ⟨signature, payload, hsignature, hprinted, streams, stream, video.1, video.2.1, video.2.2,
      block.1, block.2, ?_⟩
    exact
      { agrees := by simpa using hformat
        streams_read := hread
        few := hfew
        sole := hsole
        width_read := hwide
        height_read := hhigh
        positive := ⟨positiveInt_pos hwide, positiveInt_pos hhigh⟩
        within := hwithin
        codec_read := hcodec
        width_signed := by
          intro n hn
          rw [hn, hwidth] at hsignedWidth
          simpa using hsignedWidth
        height_signed := by
          intro n hn
          rw [hn, hheight] at hsignedHeight
          simpa using hsignedHeight
        duration_read := hduration
        short := by
          intro ms hms
          have hall := require_eq_ok.mp hshort
          rw [hms] at hall
          simpa using hall
        names_read := by
          obtain hnone | hnames := hnames
          · rw [hnone] at hnamed
            simp at hnamed
          · exact hnames
        named := hnamed }

end Evidence

section Declared
open PyJson
variable (tools : ValidationTools) (sizeBytes : Nat) (content : Bytes)

/-- What is asked of a validation: no exception but the declared ones, evidence of a picture in
motion only where it is acceptable, and no fault of the server once a probe has completed. -/
structure Declared : Prop where
  declared : Raises (· ≠ .undeclared) (validate tools sizeBytes content)
  acceptable : ∀ evidence, validate tools sizeBytes content = .ok evidence →
    evidence.mediaFormat = .gif ∨ evidence.mediaFormat = .mp4 →
    ∃ signature payload, detectSignature content = .ok signature ∧
      tools.probe.Printed tools.nesting payload ∧
      ∃ streams stream width height codec duration names,
        Acceptable tools.tables signature payload evidence streams stream width height codec
          duration names
  judged : ∀ result, tools.probe.outcome = .ok result →
    Raises IsRejected (validate tools sizeBytes content)

/-- The content has the signature of a picture in motion, and the probe prints one picture stream
that is fine up to its duration, an integer that no float comes near. -/
def MeetsHugeDuration : Prop :=
  ∃ signature payload stream video, detectSignature content = .ok signature ∧
    stillFormatName signature.mediaFormat = none ∧ tools.probe.Printed tools.nesting payload ∧
    visualStream payload = .ok stream ∧ streamVideo tools.tables stream = .ok video ∧
    hugeDuration payload stream = true

variable {tools sizeBytes content}

theorem probe_huge {payload stream : List (PyStr × PyJson)} {video : Nat × Nat × PyStr}
    (hprinted : tools.probe.Printed tools.nesting payload)
    (hstream : visualStream payload = .ok stream)
    (hvideo : streamVideo tools.tables stream = .ok video)
    (hhuge : hugeDuration payload stream = true) : probe tools = .error .undeclared := by
  obtain ⟨result, houtcome, hcode, hpayload⟩ := hprinted
  rw [probe, houtcome]
  simp only [hcode, decide_true, require_true, hpayload]
  exact parseProbePayload_huge hstream hvideo hhuge

theorem probe_rejects {result : ProcessRunResult} (houtcome : tools.probe.outcome = .ok result)
    (h : ∀ payload stream video, tools.probe.Printed tools.nesting payload →
      visualStream payload = .ok stream → streamVideo tools.tables stream = .ok video →
      hugeDuration payload stream = false) : Raises IsRejected (probe tools) := by
  unfold probe
  rw [houtcome]
  apply rejects_bind
  intro hcode
  apply Raises.bind (decodeProbePayload_rejects _ _)
  intro payload hpayload
  cases payload with
  | obj members =>
    apply parseProbePayload_rejects
    intro stream video
    exact h members stream video ⟨result, houtcome, by simpa using hcode, hpayload⟩
  | _ => exact rejects_error _

theorem ensureSignatureAndProbeAgree_rejects (signature : SignatureEvidence)
    (probed : ProbeEvidence) : Raises IsRejected (ensureSignatureAndProbeAgree signature probed) := by
  apply rejects_bind
  intro _
  apply rejects_bind
  intro _
  exact rejects_require _ _

/-- Whatever the probe may raise, a validation raises nothing else but rejections. -/
theorem validate_raises {P : UploadMediaValidationError → Prop} (himage : Documented tools.openImage)
    (hP : ∀ e, IsRejected e → P e)
    (hprobe : ∀ signature, detectSignature content = .ok signature →
      stillFormatName signature.mediaFormat = none → Raises P (probe tools)) :
    Raises P (validate tools sizeBytes content) := by
  apply Raises.bind ((detectSignature_rejects content).mono hP)
  intro signature hsignature
  split
  · exact (validateStillImage_rejects himage _ _ _).mono hP
  · rename_i hmoving
    apply Raises.bind (hprobe signature hsignature (by simpa using hmoving))
    intro probed _
    apply Raises.bind ((ensureSignatureAndProbeAgree_rejects _ _).mono hP)
    intro _ _
    exact Raises.ok _

/-- Validation fails as declared exactly where no huge duration reaches `math.isfinite`. -/
theorem upload_validation_declared_iff (himage : Documented tools.openImage) :
    Declared tools sizeBytes content ↔ ¬MeetsHugeDuration tools content := by
  constructor
  · rintro h ⟨signature, payload, stream, video, hsignature, hmoving, hprinted, hstream, hvideo,
      hhuge⟩
    apply h.declared .undeclared _ rfl
    rw [validate, hsignature]
    change (if _ then _ else _) = _
    rw [hmoving, if_neg (by simp), probe_huge hprinted hstream hvideo hhuge]
    rfl
  · intro h
    have hcompleted : ∀ result signature, tools.probe.outcome = .ok result →
        detectSignature content = .ok signature → stillFormatName signature.mediaFormat = none →
        Raises IsRejected (probe tools) := by
      intro result signature houtcome hsignature hmoving
      apply probe_rejects houtcome
      intro payload stream video hprinted hstream hvideo
      by_contra hhuge
      exact h ⟨signature, payload, stream, video, hsignature, hmoving, hprinted, hstream, hvideo,
        by simpa using hhuge⟩
    have hrejected : ∀ e, IsRejected e → e ≠ .undeclared := by
      rintro e he rfl
      exact he
    constructor
    · apply validate_raises himage hrejected
      intro signature hsignature hmoving
      cases houtcome : tools.probe.outcome with
      | ok result => exact (hcompleted result signature houtcome hsignature hmoving).mono hrejected
      | error failure =>
        rw [probe, houtcome]
        cases failure with
        | interrupted => exact Raises.error (by simp)
        | execution message => exact Raises.error (raiseProcessError_declared message)
    · intro evidence
      exact validate_acceptable
    · intro result houtcome
      apply validate_raises himage fun _ he => he
      intro signature
      exact hcompleted result signature houtcome

end Declared

section Sample
open PyJson

/- A GIF of one pixel as far as its first bytes tell. -/
def samplePixel : Bytes := ascii "GIF87a" ++ [1, 0, 1, 0]

/- What the probe prints of it when the stream lasts `duration` seconds. -/
def samplePrinted (duration : List Char) : List Char :=
  "\x7b\"streams\":[\x7b\"codec_type\":\"video\",\"width\":1,\"height\":1,".toList ++
    "\"codec_name\":\"gif\",\"duration\":".toList ++ duration ++
    "\x7d],\"format\":\x7b\"format_name\":\"gif\"\x7d\x7d".toList

def sampleValidation (duration : List Char) : ValidationTools where
  tables := {
    decimal := fun c =>
      match c with
      | .char c => if JsonReader.isDigit c then some (Fin.ofNat 10 (c.toNat - 48)) else none
      | .surrogate _ => none
    lower := fun s => s.map fun c =>
      match c with
      | .char c => .char c.toLower
      | .surrogate offset => .surrogate offset }
  nesting := 1000
  openImage := fun _ => .error .unreadable
  probe := {
    ffprobeExecutable := some "/usr/bin/ffprobe"
    resolveFfprobe := .error (.execution toolNotAvailableMessage)
    run := fun _ => .ok ⟨0, (samplePrinted duration).map fun c => c.toNat.toUInt8⟩ }

theorem upload_validation_declared_iff_pixel :
    Declared (sampleValidation ['1']) 10 samplePixel ↔
      ¬MeetsHugeDuration (sampleValidation ['1']) samplePixel :=
  upload_validation_declared_iff fun _ h => by cases h

/- The outcome, without what it carries. -/
def isUndeclared : Checked UploadMediaValidationEvidence → Bool
  | .error .undeclared => true
  | _ => false

/-- A file whose probe reports a duration of 10 ^ 400 seconds is no rejection but a fault. -/
theorem huge_duration_is_undeclared :
    ¬Declared (sampleValidation ('1' :: List.replicate 400 '0')) 10 samplePixel := by
  intro h
  have hundeclared : isUndeclared (validate (sampleValidation ('1' :: List.replicate 400 '0')) 10
      samplePixel) = true := by
    decide +kernel
  cases hresult : validate (sampleValidation ('1' :: List.replicate 400 '0')) 10 samplePixel with
  | ok evidence =>
    rw [hresult] at hundeclared
    cases hundeclared
  | error e =>
    rw [hresult] at hundeclared
    cases e with
    | undeclared => exact h.declared _ hresult rfl
    | _ => cases hundeclared

end Sample
end FrameNest.Uploads
