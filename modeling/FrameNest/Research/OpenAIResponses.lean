import FrameNest.Research.Coordinator

/-! The OpenAI Responses adapter over its JSON transport: what it sends, and how it
reads every reply. -/
namespace FrameNest.Research
open Plain

/- What `json.loads` makes of a body. The adapter asks a float only whether it is zero. -/
inductive Payload where
  | null
  | bool (b : Bool)
  | int (n : Int)
  | float (zero : Bool)
  | str (s : String)
  | arr (items : List Payload)
  | obj (members : List (String × Payload))

namespace Payload

/- `payload.get(key)` of a dict; what is absent reads as None. -/
def get (members : List (String × Payload)) (key : String) : Payload :=
  (members.lookup key).getD .null

/- `bool(value)`. -/
def truthy : Payload → Bool
  | .null => false
  | .bool b => b
  | .int n => n ≠ 0
  | .float zero => !zero
  | .str s => s ≠ ""
  | .arr items => !items.isEmpty
  | .obj members => !members.isEmpty

end Payload

def transportAuthRejectedMessage : String := "Provider authentication was rejected."
def transportRateLimitedMessage : String := "Provider rate limit was reached."
def transportModelUnavailableMessage : String := "Provider model is not available."
def transportUnavailableMessage : String := "Provider is not available."
def transportInvalidResponseMessage : String := "Provider response was invalid."
def transportFailedMessage : String := "Provider request failed."
def transportResponseTooLargeMessage : String := "Provider response exceeded the allowed limit."
def transportRequestTooLargeMessage : String := "Provider request exceeded the allowed limit."
def transportRedirectRejectedMessage : String := "Provider redirect was rejected."

/- The body as `_decode_payload` reads it; `none` where decoding or parsing raises. -/
structure HttpsJsonResponse where
  statusCode : Int
  body : Option Payload

/- A transport call returns a response, raises `HttpsTransportError` with its message,
   or raises anything else. -/
inductive TransportOutcome where
  | response (response : HttpsJsonResponse)
  | transportError (message : String)
  | raised

inductive HttpMethod where
  | post (body : List Char) (maxRequestBytes : Nat)
  | get
  | delete

structure HttpsRequest where
  method : HttpMethod
  url : String
  headers : List (String × String)

/- What one adapter call meets: the key its supplier gives, `none` where it raises or
   gives no text, and the transport. -/
structure Exchange where
  apiKey : Option String
  transport : HttpsRequest → TransportOutcome

namespace HttpsJsonTransport

/- `_read_bounded`: the whole body, more than the limit, or an exception of the socket. -/
inductive BodyRead where
  | bytes (body : Option Payload)
  | tooLarge
  | raised

/- What `urlopen` does; a response it returns and one it raises both have a body. -/
inductive Opening where
  | opened (status : Int) (read : BodyRead)
  | httpError (code : Int) (read : BodyRead)
  | urlError
  | raised

def httpErrorMessage (status : Int) : String :=
  if status = 401 ∨ status = 403 then transportAuthRejectedMessage
  else if status = 429 then transportRateLimitedMessage
  else if status = 404 then transportModelUnavailableMessage
  else if 500 ≤ status then transportUnavailableMessage
  else transportInvalidResponseMessage

/- An exception while the body of an HTTP error is read leaves its `except` clause. -/
def execute : Opening → TransportOutcome
  | .opened status read =>
    if status ∈ [301, 302, 303, 307, 308] then .transportError transportRedirectRejectedMessage
    else match read with
    | .bytes body => .response ⟨status, body⟩
    | .tooLarge => .transportError transportResponseTooLargeMessage
    | .raised => .transportError transportFailedMessage
  | .httpError code read => match read with
    | .bytes _ => .transportError (httpErrorMessage code)
    | .tooLarge => .transportError transportResponseTooLargeMessage
    | .raised => .raised
  | .urlError => .transportError transportUnavailableMessage
  | .raised => .transportError transportFailedMessage

/- `post_json`, `get_json` and `delete_json`. -/
def transport (urlopen : HttpsRequest → Opening) (request : HttpsRequest) : TransportOutcome :=
  match request.method with
  | .post body maxRequestBytes =>
    if maxRequestBytes < (String.ofList body).utf8ByteSize then
      .transportError transportRequestTooLargeMessage
    else execute (urlopen request)
  | .get | .delete => execute (urlopen request)

end HttpsJsonTransport

def transportErrorCode (message : String) : ResearchErrorCode :=
  if message = transportAuthRejectedMessage then .auth
  else if message = transportRateLimitedMessage then .rateLimit
  else if message = transportModelUnavailableMessage then .resultExpired
  else if message = transportResponseTooLargeMessage then .resultTooLarge
  else if message = transportRequestTooLargeMessage ∨ message = transportInvalidResponseMessage then
    .invalidRequest
  else .providerUnavailable

def statusErrorCode (statusCode : Int) : ResearchErrorCode :=
  if statusCode = 401 ∨ statusCode = 403 then .auth
  else if statusCode = 429 then .rateLimit
  else if statusCode = 404 then .resultExpired
  else if 500 ≤ statusCode then .providerUnavailable
  else .invalidRequest

/- A 404 of a creation is the provider's trouble, not an expired result. -/
def submitStatusErrorCode (statusCode : Int) : ResearchErrorCode :=
  if statusCode = 404 then .providerUnavailable else statusErrorCode statusCode

def decodePayload (response : HttpsJsonResponse) : Option (List (String × Payload)) :=
  match response.body with
  | some (.obj members) => some members
  | _ => none

def nonNegativeInt : Payload → Option Nat
  | .int n => if 0 ≤ n then some n.toNat else none
  | _ => none

/- `some none` where the value is absent, `none` where it is invalid. -/
def optionalNonNegativeInt : Payload → Option (Option Nat)
  | .null => some none
  | value => (nonNegativeInt value).map some

/- A details object that is absent reads as empty. -/
def usageDetails : Payload → Option (List (String × Payload))
  | .null => some []
  | .obj members => some members
  | _ => none

/- Usage is never invented: what is missing or invalid makes it unknown. -/
def parseUsage (payload : List (String × Payload)) (webSearchCalls : Nat) : Option ResearchUsage :=
  match Payload.get payload "usage" with
  | .obj usage => do
    let inputTokens ← nonNegativeInt (Payload.get usage "input_tokens")
    let outputTokens ← nonNegativeInt (Payload.get usage "output_tokens")
    let inputDetails ← usageDetails (Payload.get usage "input_tokens_details")
    let outputDetails ← usageDetails (Payload.get usage "output_tokens_details")
    let cached ← optionalNonNegativeInt (Payload.get inputDetails "cached_tokens")
    let reasoning ← optionalNonNegativeInt (Payload.get outputDetails "reasoning_tokens")
    let cacheWrite ← optionalNonNegativeInt (Payload.get inputDetails "cache_write_tokens")
    ResearchUsage.make? inputTokens (cached.getD 0) outputTokens (reasoning.getD 0) webSearchCalls
      cacheWrite
  | _ => none

/- What has been read of the output so far. -/
structure OutputRead where
  textParts : List String := []
  citations : List ResearchCitation := []
  refusal : Bool := false
  webSearchCalls : Nat := 0

/- `none` where a citation's constructor refuses it. -/
def readAnnotation (read : OutputRead) : Payload → Option OutputRead
  | .obj annotation =>
    match Payload.get annotation "type", Payload.get annotation "url",
      Payload.get annotation "title" with
    | .str "url_citation", .str url, .str title => do
      let citation ← ResearchCitation.make? url title
      pure { read with citations := read.citations ++ [citation] }
    | _, _, _ => some read
  | _ => some read

def readPart (read : OutputRead) : Payload → Option OutputRead
  | .obj part =>
    match Payload.get part "type" with
    | .str "refusal" => some { read with refusal := true }
    | .str "output_text" =>
      let read := match Payload.get part "text" with
        | .str text => { read with textParts := read.textParts ++ [text] }
        | _ => read
      match Payload.get part "annotations" with
      | .arr annotations => annotations.foldlM readAnnotation read
      | _ => some read
    | _ => some read
  | _ => some read

def readItem (read : OutputRead) : Payload → Option OutputRead
  | .obj item =>
    match Payload.get item "type" with
    | .str "web_search_call" => some { read with webSearchCalls := read.webSearchCalls + 1 }
    | .str "message" =>
      match Payload.get item "content" with
      | .arr content => content.foldlM readPart read
      | _ => some read
    | _ => some read
  | _ => some read

def parseAnswer (payload : List (String × Payload)) : Option ResearchAnswer := do
  let read ← match Payload.get payload "output" with
    | .arr output => output.foldlM readItem {}
    | _ => some {}
  let text := String.join read.textParts
  let evidence : CompletionEvidence :=
    { providerTerminal := true
      answerComplete := !isBlank text
      webSearchExecuted := 0 < read.webSearchCalls
      refusalMarker := read.refusal
      incompleteMarker := (Payload.get payload "incomplete_details").truthy }
  ResearchAnswer.make? text read.citations evidence (parseUsage payload read.webSearchCalls)

namespace ProviderObservation

def failed (code : ResearchErrorCode) : ProviderObservation := ⟨.failed, none, none, some code, rfl⟩

def ongoing (handle : ProviderHandle) : ProviderObservation :=
  ⟨.running, some handle, none, none, rfl⟩

def withdrawn : ProviderObservation := ⟨.cancelled, none, none, some .cancelled, rfl⟩

/- An answer whose evidence stands is COMPLETE; one that was refused says so. -/
def ofAnswer (handle : ProviderHandle) (answer : ResearchAnswer) : ProviderObservation :=
  match h : completionError answer.evidence with
  | none => ⟨.complete, some handle, some answer, none, by simp [observationShape, h]⟩
  | some error => ⟨if error = .refused then .refused else .failed, none, none, some error,
      by split <;> rfl⟩

end ProviderObservation

def requestOverheadBytes : Nat := 4096

namespace OpenAIResponsesAdapter
variable (endpoint : String)

def authHeaders (apiKey : Option String) : Option (List (String × String)) :=
  match apiKey with
  | none | some "" => none
  | some key => some [("Authorization", "Bearer " ++ key), ("Content-Type", "application/json")]

def submitBody (request : ProviderRequest) : Json :=
  .obj [("model", .str request.profile.modelId),
    ("input", .str request.prompt),
    ("tools", .arr (request.profile.toolAllowlist.map fun tool => .obj [("type", .str tool)])),
    ("tool_choice", .str "required"),
    ("parallel_tool_calls", .bool false),
    ("max_tool_calls", .int request.profile.maxToolCalls),
    ("max_output_tokens", .int request.profile.maxOutputTokens),
    ("reasoning", .obj [("effort",
      .str (if request.profile.highReasoningEffort then "high" else "low"))]),
    ("background", .bool request.profile.background),
    ("store", .bool true)]

def submitRequest (request : ProviderRequest) (headers : List (String × String)) : HttpsRequest :=
  ⟨.post (submitBody request).dumps
    (request.resourceLimits.promptMaxUtf8Bytes + requestOverheadBytes), endpoint, headers⟩

def pollRequest (handle : ProviderHandle) (headers : List (String × String)) : HttpsRequest :=
  ⟨.get, endpoint ++ "/" ++ handle.value, headers⟩

def cancelRequest (handle : ProviderHandle) (headers : List (String × String)) : HttpsRequest :=
  ⟨.post ['\x7b', '\x7d'] 1024, endpoint ++ "/" ++ handle.value ++ "/cancel", headers⟩

def releaseRequest (handle : ProviderHandle) (headers : List (String × String)) : HttpsRequest :=
  ⟨.delete, endpoint ++ "/" ++ handle.value, headers⟩

/- Membership in a set of texts: a list or an object is not hashable and raises. -/
def statusIn (texts : List String) : Payload → Except Failure Bool
  | .str status => .ok (status ∈ texts)
  | .arr _ | .obj _ => .error .other
  | _ => .ok false

/- The handle's constructor refuses a long id and one with white space. -/
def runningHandle (value : String) : Except Failure ProviderObservation :=
  if h : requireToken value 256 = true then .ok (.ongoing ⟨value, h⟩) else .error .other

def readSubmission : TransportOutcome → Except Failure ProviderObservation
  | .raised => .error .other
  | .transportError message => .ok (.failed (transportErrorCode message))
  | .response response =>
    if response.statusCode ∉ [200, 201, 202] then
      .ok (.failed (submitStatusErrorCode response.statusCode))
    else match decodePayload response with
    | none => .ok (.failed .invalidResult)
    | some payload =>
      match Payload.get payload "id" with
      | .str "" => .ok (.failed .invalidResult)
      | .str value => do
        if ← statusIn ["queued", "in_progress", "completed"] (Payload.get payload "status") then
          runningHandle value
        else .ok (.failed .providerUnavailable)
      | _ => .ok (.failed .invalidResult)

def readCompleted (handle : ProviderHandle) (payload : List (String × Payload)) :
    ProviderObservation :=
  match parseAnswer payload with
  | none => .failed .invalidResult
  | some answer => .ofAnswer handle answer

def readPoll (handle : ProviderHandle) : TransportOutcome → Except Failure ProviderObservation
  | .raised => .error .other
  | .transportError message => .ok (.failed (transportErrorCode message))
  | .response response =>
    if response.statusCode ≠ 200 then .ok (.failed (statusErrorCode response.statusCode))
    else match decodePayload response with
    | none => .ok (.failed .invalidResult)
    | some payload => do
      let status := Payload.get payload "status"
      if ← statusIn ["queued", "in_progress"] status then .ok (.ongoing handle)
      else match status with
      | .str "cancelled" => .ok .withdrawn
      | .str "failed" => .ok (.failed .providerUnavailable)
      | .str "completed" => .ok (readCompleted handle payload)
      | _ => .ok (.failed .invalidResult)

def readCancellation : TransportOutcome → Except Failure ProviderObservation
  | .raised => .error .other
  | .transportError message => .ok (.failed (transportErrorCode message))
  | .response response =>
    if response.statusCode ∈ [200, 201, 202] then .ok .withdrawn
    else .ok (.failed (statusErrorCode response.statusCode))

def released : CleanupOutcome := ⟨.deleted, none, deleted_complete, deleted_clean⟩

def unreleased (code : ResearchErrorCode) : CleanupOutcome :=
  ⟨.failed, some code, fun _ => rfl, nofun⟩

/- A response the provider no longer has is a released one. -/
def readRelease : TransportOutcome → Except Failure CleanupOutcome
  | .raised => .error .other
  | .transportError message =>
    if transportErrorCode message = .resultExpired then .ok released
    else .ok (unreleased (transportErrorCode message))
  | .response response =>
    if response.statusCode ∈ [200, 202, 204] ∨ response.statusCode = 404 then .ok released
    else .ok (unreleased (statusErrorCode response.statusCode))

/- Without a key nothing is sent. -/
def submit (x : Exchange) (request : ProviderRequest) : Except Failure ProviderObservation :=
  match authHeaders x.apiKey with
  | none => .ok (.failed .notConfigured)
  | some headers => readSubmission (x.transport (submitRequest endpoint request headers))

def poll (x : Exchange) (handle : ProviderHandle) : Except Failure ProviderObservation :=
  match authHeaders x.apiKey with
  | none => .ok (.failed .notConfigured)
  | some headers => readPoll handle (x.transport (pollRequest endpoint handle headers))

def cancel (x : Exchange) (handle : ProviderHandle) : Except Failure ProviderObservation :=
  match authHeaders x.apiKey with
  | none => .ok (.failed .notConfigured)
  | some headers => readCancellation (x.transport (cancelRequest endpoint handle headers))

def releaseRemote (x : Exchange) (handle : ProviderHandle) : Except Failure CleanupOutcome :=
  match authHeaders x.apiKey with
  | none => .ok (unreleased .notConfigured)
  | some headers => readRelease (x.transport (releaseRequest endpoint handle headers))

end OpenAIResponsesAdapter

/-! The coordinator over the adapter: what the transport does decides what every
provider call answers. -/

def Env.observing (env : Env) : Except Failure ProviderObservation → Env
  | .ok observation => { env with fault := false, observation }
  | .error _ => { env with fault := true }

def Env.releasing (env : Env) : Except Failure CleanupOutcome → Env
  | .ok cleanup => { env with fault := false, cleanup }
  | .error _ => { env with fault := true }

structure AdapterEnv where
  env : Env
  exchange : Exchange

open OpenAIResponsesAdapter in
def AdapterEnv.answering (a : AdapterEnv) (endpoint : String) : Effect → Env
  | .submit request => a.env.observing (submit endpoint a.exchange request)
  | .poll handle => a.env.observing (poll endpoint a.exchange handle)
  | .cancel handle => a.env.observing (cancel endpoint a.exchange handle)
  | .releaseRemote handle => a.env.releasing (releaseRemote endpoint a.exchange handle)
  | _ => a.env

def ResearchRuntime.execOver (rt : ResearchRuntime) (endpoint : String) (a : AdapterEnv)
    (e : Effect) (s : ResearchState) : Except Failure e.Result × ResearchState :=
  rt.exec (a.answering endpoint e) e s

end FrameNest.Research
