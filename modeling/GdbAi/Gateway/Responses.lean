import GdbAi.Config
import GdbAi.Gateway.Contracts
import GdbAi.Gateway.Idempotency
import GdbAi.Gateway.Outcome
import GdbAi.Library.JsonSize
import GdbAi.Store.Artifacts

/-!
# The size of canonical responses

How `dispatch_inner` of `gdb-ai-core/src/gateway.rs` assembles a response: the constructors of
`protocol.rs`, the session that the request created, `bound_response`, and the warning about a
response that could not be stored for retries.  A response that `bound_response` has replaced
keeps the request id, which JSON may write six times as long, and the semantics, of any size; and
the warning is added to a response that was already bounded.  The size of a response is computed
field by field, so the limit is compared with what the response takes exactly.
-/

namespace GdbAi

open Json (fieldSize fieldSize_mk isPlain size_array size_literal size_object size_singleton)

/-! ### The check of a request -/

/-- `Gateway::validate_request`. -/
def validateRequest (request : ApiRequest) : Except Error Unit :=
  if request.apiVersion ≠ "gdb.ai/v1" then
    .error ⟨.unsupported,
      "unsupported api_version " ++ request.apiVersion ++ "; expected gdb.ai/v1", false⟩
  else if request.requestId = "" ∨ byteLength request.requestId.toList > 128 then
    .error ⟨.invalidArgument, "request_id must contain 1 to 128 bytes", false⟩
  else if request.method.asStr = "" ∨ byteLength request.method.asStr.toList > 128 then
    .error ⟨.invalidArgument, "method must contain 1 to 128 bytes", false⟩
  else if request.idempotencyKey.any fun key => key = "" || byteLength key.toList > 256 then
    .error ⟨.invalidArgument, "idempotency_key must contain 1 to 256 bytes", false⟩
  else if request.parameters.asObject = none then
    .error ⟨.invalidArgument, "parameters must be an object", false⟩
  else if request.method.requiresSession ∧ request.sessionId = none then
    .error ⟨.invalidArgument, "method requires session_id", false⟩
  else if request.method = .targetLaunch ∧ request.sessionId = none ∧
      (request.expectedRevision.isSome ∨ (request.parameters.get "lease_id").isSome) then
    .error ⟨.invalidArgument,
      "new-session launch cannot reference an existing revision or lease", false⟩
  else
    match request.method.validateParameters request.parameters with
    | .error error => .error error
    | .ok () =>
      match request.sessionId with
      | some sessionId => (SessionId.parse sessionId).map fun _ => ()
      | none => .ok ()

/-! ### The constructors of a response -/

/-- The part of a result that goes to the envelope: that of `ResultMetadata`, or what `success`
finds in the result. -/
structure ResultMetadata where
  warnings : List Warning := []
  truncated : Bool := false
  continuation : Option Json := none
  artifacts : List String := []
  evidence : List Evidence := []

/-- The session of the operation that a result shows. -/
def operationSession (result : Json) : Option String :=
  let operation := result.get "operation"
  let ofResult := (operation.bind fun record => record.get "result").bind fun response =>
    (response.get "session_id").bind Json.asStr
  ofResult <|> operation.bind fun record => (record.get "session_id").bind Json.asStr

/-- `ApiResponse::success`. -/
def ApiResponse.success (request : ApiRequest) (state : Option SessionState) (result : Json)
    (metadata : ResultMetadata) : ApiResponse :=
  let ofOperation := request.method = .operationGet ∨ request.method = .operationCancel
  let sessionId :=
    if ofOperation then operationSession result
    else (state.map fun state => state.sessionId.text) <|> request.sessionId
  let state :=
    if ofOperation then state.filter fun state => some state.sessionId.text = sessionId else state
  { requestId := request.requestId
    sessionId := sessionId
    revision := state.map SessionState.revision
    state := state
    result := some result
    warnings := metadata.warnings
    truncated := metadata.truncated
    continuation := metadata.continuation
    artifacts := metadata.artifacts
    evidence := metadata.evidence
    error := none }

/-- `ApiResponse::semantic_success`, over the facts with their diagnostics. -/
def ApiResponse.semanticSuccess (request : ApiRequest) (state : Option SessionState)
    (facts semantics : Json) (metadata : ResultMetadata) : ApiResponse where
  requestId := request.requestId
  sessionId := request.sessionId
  revision := state.map SessionState.revision
  state := state
  result := some facts
  semantics := some semantics
  warnings := metadata.warnings
  truncated := metadata.truncated
  continuation := metadata.continuation
  artifacts := metadata.artifacts
  evidence := metadata.evidence
  error := none

/-! ### The response of a dispatch -/

/-- What `dispatch_checked` gives, with the state that `dispatch_inner` adds to an error. -/
inductive Executed where
  | semantic (state : Option SessionState) (facts semantics : Json) (metadata : ResultMetadata)
      (warnings : List Warning)
  | legacy (state : Option SessionState) (result : Json) (metadata : ResultMetadata)
      (warnings : List Warning)
  | failed (state : Option SessionState) (error : ApiError) (evidence : List Evidence)

namespace Executed

/-- The state that comes with the response. -/
def state : Executed → Option SessionState
  | .semantic state _ _ _ _ | .legacy state _ _ _ | .failed state _ _ => state

/-- The session that a result names as that of an operation. -/
def namedSession : Executed → Option String
  | .legacy _ result _ _ => operationSession result
  | _ => none

/-- What holds of every execution: its sessions have ids that were made by `SessionId::new` or
accepted by `SessionId::parse`, and a revision is a `u64`. -/
structure Produced (execution : Executed) : Prop where
  session : ∀ state ∈ execution.state, ∃ id, SessionId.parse state.sessionId.text = .ok id
  named : ∀ text ∈ execution.namedSession, ∃ id, SessionId.parse text = .ok id
  revision : ∀ state ∈ execution.state, state.revision < 2 ^ 64

end Executed

/-- `result["session"] = session`; only an object or null has a place for it. -/
def addSession (session : Json) : Json → Json
  | .object fields => .object (Json.set fields "session" session)
  | .null => .object [("session", session)]
  | result => result

/-- A result with the session that the request created. -/
def ApiResponse.withCreated (created : Option Json) (response : ApiResponse) : ApiResponse :=
  match created with
  | some session => { response with result := response.result.map (addSession session) }
  | none => response

/-- The response of `dispatch_inner` before it is bounded. -/
def executedResponse (setting : DispatchSetting) (request : ApiRequest) : Executed → ApiResponse
  | .semantic state facts semantics metadata warnings =>
    let response := ApiResponse.semanticSuccess request state facts semantics metadata
    ApiResponse.withCreated setting.created
      { response with warnings := response.warnings ++ warnings }
  | .legacy state result metadata warnings =>
    let response := ApiResponse.success request state result metadata
    ApiResponse.withCreated setting.created
      { response with warnings := response.warnings ++ warnings }
  | .failed state error evidence => failureResponse setting request error state evidence

/-- The response of `dispatch_inner` that is not taken from a cache; `stored` is the error of
`put_idempotent_response`, which is called when the request has a key. -/
def dispatchResponse (encode : SessionState → Json) (setting : DispatchSetting)
    (request : ApiRequest) (execution : Executed) (stored : Option ApiError) : ApiResponse :=
  let response := executedResponse setting request execution
  let bounded :=
    match setting.mode with
    | .canonical => boundResponse encode setting.toolResponseBytes setting.publish response
    | .agent => response
  match request.idempotencyKey, stored with
  | some _, some error => bounded.notDurable error
  | _, _ => bounded

/-- The gateway that serves canonical requests under a configuration. -/
def canonicalSetting (config : Config) (publish : Except Error String) (created : Option Json) :
    DispatchSetting where
  mode := .canonical
  toolResponseBytes := config.limits.toolResponseBytes
  publish := publish
  created := created

/-- What storing a response of `size` bytes as an artifact can give. -/
def Publishes (digest : List UInt8 → String) (size : ℕ) (publish : Except Error String) : Prop :=
  ∃ (store : ArtifactStore) (bytes : List UInt8) (sessionId : Option String)
    (limits : ArtifactLimits) (fault : Option PutArtifactFault), bytes.length = size ∧
      (store.putArtifact digest bytes sessionId "protocol-response" limits fault).1 = publish

/-- The text of a SHA-256 digest. -/
def IsHexDigest (text : String) : Prop :=
  text.toList.length = 64 ∧ ∀ c ∈ text.toList, isAsciiHexdigit c = true

/-! ### The size of a response -/

/-- The bytes of a field that is skipped when it has no value. -/
def optionalSize (name : String) (value : Option Json) : ℕ :=
  ((optionalField name value).map fieldSize).sum

variable {request : ApiRequest}

/-- A field without a value takes nothing. -/
lemma optionalSize_none (name : String) : optionalSize name none = 0 := rfl

/-- A field with a value takes its own size. -/
lemma optionalSize_some (name : String) (value : Json) :
    optionalSize name (some value) = fieldSize (name, value) := rfl

variable {response : ApiResponse}

/-- What a response takes: its values, its optional fields, and 91 bytes for the rest. -/
lemma ApiResponse.size_eq (encode : SessionState → Json)
    (hversion : response.apiVersion = "gdb.ai/v1") :
    (response.toJson encode).size = 91 + (Json.string response.requestId).size +
      (Json.array (response.warnings.map Warning.toJson)).size +
      (Json.bool response.truncated).size +
      (Json.array (response.artifacts.map .string)).size +
      (Json.array (response.evidence.map Evidence.toJson)).size +
      optionalSize "session_id" (response.sessionId.map .string) +
      optionalSize "revision" (response.revision.map .unsigned) +
      optionalSize "state" (response.state.map encode) + optionalSize "result" response.result +
      optionalSize "semantics" response.semantics +
      optionalSize "continuation" response.continuation +
      optionalSize "error" (response.error.map ApiError.toJson) := by
  have hapi : fieldSize ("api_version", .string "gdb.ai/v1") = 26 := by decide
  have hid : (Json.string "request_id").size = 12 := size_literal rfl
  have hwarnings : (Json.string "warnings").size = 10 := size_literal rfl
  have htruncated : (Json.string "truncated").size = 11 := size_literal rfl
  have hartifacts : (Json.string "artifacts").size = 11 := size_literal rfl
  have hevidence : (Json.string "evidence").size = 10 := size_literal rfl
  simp only [ApiResponse.toJson, List.cons_append, List.nil_append, size_object,
    List.map_append, List.sum_append, List.map_cons, List.sum_cons, List.map_nil, List.sum_nil,
    hversion, hapi, optionalSize]
  simp only [fieldSize_mk "request_id", fieldSize_mk "warnings",
    fieldSize_mk "truncated", fieldSize_mk "artifacts", fieldSize_mk "evidence",
    hid, hwarnings, htruncated, hartifacts, hevidence]
  omega

/-- The size of an empty array. -/
lemma size_nil : (Json.array []).size = 2 := rfl

/-- The bytes of what `bound_response` keeps of a response: its request id, its session, its
revision and its semantics. -/
def ApiResponse.keptSize (response : ApiResponse) : ℕ :=
  (Json.string response.requestId).size +
    optionalSize "session_id" (response.sessionId.map .string) +
    optionalSize "revision" (response.revision.map .unsigned) +
    optionalSize "semantics" response.semantics

/-- The bytes of what `bound_response` puts in the place of the rest, with the envelope: an error
without an artifact, or an error or a result that names the artifact, named once more in the
envelope, and the size of the response. -/
def substituteSize (publish : Except Error String) (isError : Bool) (size : ℕ) : ℕ :=
  match publish with
  | .error _ => 223
  | .ok uri =>
    (if isError then 232 else 175) + 2 * (Json.string uri).size + (Json.unsigned size).size

/-! ### Replaced responses -/

/-- Only the result of a response can hold its state once more. -/
lemma removeRepeatedState_eq (encode : SessionState → Json) (response : ApiResponse) :
    ∃ result, removeRepeatedState encode response = { response with result := result } := by
  unfold removeRepeatedState
  split
  · split
    · split
      · exact ⟨_, rfl⟩
      · exact ⟨_, rfl⟩
    · exact ⟨_, rfl⟩
  · exact ⟨_, rfl⟩

/-- What is left of a response once its large fields are gone. -/
lemma ApiResponse.size_stripped (encode : SessionState → Json)
    (hversion : response.apiVersion = "gdb.ai/v1") (result : Option Json) (error : Option ApiError)
    (artifacts : List String) :
    (ApiResponse.toJson encode { response with
      state := none, warnings := [], evidence := [], continuation := none, truncated := true
      result := result, error := error, artifacts := artifacts }).size =
        99 + response.keptSize + optionalSize "result" result +
          (Json.array (artifacts.map .string)).size +
          optionalSize "error" (error.map ApiError.toJson) := by
  have htrue : (Json.bool true).size = 4 := rfl
  rw [ApiResponse.size_eq encode (by exact hversion)]
  simp only [List.map_nil, Option.map_none, optionalSize_none, size_nil, htrue,
    ApiResponse.keptSize]
  omega

section

variable (uri : String) (size : ℕ)

/-- The artifact of a response and its size, as fields. -/
lemma size_artifactFields :
    fieldSize ("artifact", .string uri) + fieldSize ("size", .unsigned size) =
      20 + (Json.string uri).size + (Json.unsigned size).size := by
  have hartifact : (Json.string "artifact").size = 10 := size_literal rfl
  have hsize : (Json.string "size").size = 6 := size_literal rfl
  rw [fieldSize_mk, fieldSize_mk, hartifact, hsize]
  omega

/-- The error that stands for a large error, with its artifact. -/
lemma size_limitError : (ApiError.toJson {
      code := .outputLimit
      message := "error response exceeded inline limit"
      details := some (.object [("artifact", .string uri), ("size", .unsigned size)]) }).size =
        122 + (Json.string uri).size + (Json.unsigned size).size := by
  have hfields := size_artifactFields uri size
  have hcode : fieldSize ("code", .string ErrorCode.outputLimit.wire) = 22 := by decide
  have hmessage :
      fieldSize ("message", .string "error response exceeded inline limit") = 49 := by decide
  have hretryable : fieldSize ("retryable", .bool false) = 18 := by decide
  have hname : (Json.string "details").size = 9 := size_literal rfl
  simp only [ApiError.toJson, optionalField, Option.map_some, Option.toList_some,
    List.cons_append, List.nil_append, size_object, List.map_cons, List.map_nil,
    List.sum_cons, List.sum_nil]
  rw [fieldSize_mk "details", hname, size_object]
  simp only [List.map_cons, List.map_nil, List.sum_cons, List.sum_nil]
  omega

/-- The error that stands for a large response without an artifact. -/
lemma size_unstoredError : (ApiError.toJson {
      code := .outputLimit
      message := "response exceeded inline limit and artifact creation failed" }).size = 113 := by
  have hcode : fieldSize ("code", .string ErrorCode.outputLimit.wire) = 22 := by decide
  have hmessage : fieldSize ("message",
      .string "response exceeded inline limit and artifact creation failed") = 72 := by decide
  have hretryable : fieldSize ("retryable", .bool false) = 18 := by decide
  simp only [ApiError.toJson, optionalField, Option.map_none, Option.toList_none, List.append_nil,
    size_object, List.map_cons, List.map_nil, List.sum_cons, List.sum_nil]
  omega

/-- The result that stands for a large result. -/
lemma size_limitResult : (Json.object [("artifact", .string uri), ("size", .unsigned size),
      ("message", .string "response exceeded inline limit")]).size =
        64 + (Json.string uri).size + (Json.unsigned size).size := by
  have hfields := size_artifactFields uri size
  have hmessage : fieldSize ("message", .string "response exceeded inline limit") = 43 := by decide
  simp only [size_object, List.map_cons, List.map_nil, List.sum_cons, List.sum_nil]
  omega

end

/-- What a response that had to be replaced takes. -/
lemma size_boundResponse {encode : SessionState → Json} {limit : ℕ}
    {publish : Except Error String} (hversion : response.apiVersion = "gdb.ai/v1")
    (hlarge : limit < response.serializedSize encode) :
    ((boundResponse encode limit publish response).toJson encode).size = response.keptSize +
      substituteSize publish response.error.isSome (response.serializedSize encode) := by
  obtain ⟨kept, hkept⟩ := removeRepeatedState_eq encode response
  have hname : (Json.string "error").size = 7 := size_literal rfl
  have hresult : (Json.string "result").size = 8 := size_literal rfl
  cases publish with
  | error fault =>
    simp only [boundResponse, hkept, if_neg (not_le.mpr hlarge), substituteSize,
      ApiResponse.size_stripped encode hversion, optionalSize_none, List.map_nil, size_nil,
      Option.map_some, optionalSize_some, fieldSize_mk, hname, size_unstoredError]
    omega
  | ok uri =>
    cases herror : response.error with
    | none =>
      simp only [boundResponse, hkept, if_neg (not_le.mpr hlarge), herror, Option.isSome_none,
        Bool.false_eq_true, if_false, substituteSize, ApiResponse.size_stripped encode hversion,
        Option.map_none, optionalSize_none, optionalSize_some, fieldSize_mk, hresult,
        size_limitResult, List.map_singleton, size_singleton]
      omega
    | some failure =>
      simp only [boundResponse, hkept, if_neg (not_le.mpr hlarge), herror, Option.isSome_some,
        if_true, substituteSize, ApiResponse.size_stripped encode hversion, Option.map_some,
        optionalSize_none, optionalSize_some, fieldSize_mk, hname, size_limitError,
        List.map_singleton, size_singleton]
      omega

/-- Bounding a response keeps its version, and the warnings of one that fits. -/
lemma boundResponse_envelope (encode : SessionState → Json) (limit : ℕ)
    (publish : Except Error String) (response : ApiResponse) :
    (boundResponse encode limit publish response).apiVersion = response.apiVersion ∧
      (boundResponse encode limit publish response).warnings =
        if response.serializedSize encode ≤ limit then response.warnings else [] := by
  obtain ⟨kept, hkept⟩ := removeRepeatedState_eq encode response
  simp only [boundResponse, hkept]
  split
  · exact ⟨rfl, rfl⟩
  · cases publish with
    | error fault => exact ⟨rfl, rfl⟩
    | ok uri =>
      dsimp only
      split <;> exact ⟨rfl, rfl⟩

/-! ### The warning about a response that is not stored -/

/-- The warning of a request with a key whose response could not be stored. -/
def retryWarning (request : ApiRequest) (stored : Option ApiError) : Option Warning :=
  match request.idempotencyKey, stored with
  | some _, some error =>
    some ⟨"IDEMPOTENCY_NOT_DURABLE", error.code.debug ++ ": " ++ error.message⟩
  | _, _ => none

/-- What the warning adds to a response: its own bytes, and a comma behind other warnings. -/
def warningSize (warnings : List Warning) : Option Warning → ℕ
  | some warning => warning.toJson.size + if warnings = [] then 0 else 1
  | none => 0

/-- The warning is added to what a response takes. -/
lemma size_notDurable (encode : SessionState → Json) (error : ApiError)
    (hversion : response.apiVersion = "gdb.ai/v1") :
    ((response.notDurable error).toJson encode).size = (response.toJson encode).size +
      warningSize response.warnings (some ⟨"IDEMPOTENCY_NOT_DURABLE",
        error.code.debug ++ ": " ++ error.message⟩) := by
  have hkept : (response.notDurable error).apiVersion = "gdb.ai/v1" := hversion
  rw [ApiResponse.size_eq encode hversion, ApiResponse.size_eq encode hkept]
  cases hwarnings : response.warnings with
  | nil =>
    simp only [ApiResponse.notDurable, warningSize, hwarnings, List.nil_append, List.map_cons,
      List.map_nil, size_singleton, size_nil, if_true]
    omega
  | cons warning warnings =>
    simp only [ApiResponse.notDurable, warningSize, hwarnings, List.map_append, List.map_cons,
      List.map_nil, List.cons_append, size_array, List.sum_cons, List.sum_append,
      List.sum_nil, reduceCtorEq, if_false]
    omega

/-! ### Responses of executions -/

/-- The created session leaves the version. -/
@[simp] lemma ApiResponse.withCreated_apiVersion (created : Option Json) (response : ApiResponse) :
    (response.withCreated created).apiVersion = response.apiVersion := by
  cases created <;> rfl

/-- Every response has the version of the protocol. -/
lemma executedResponse_apiVersion {setting : DispatchSetting} {execution : Executed} :
    (executedResponse setting request execution).apiVersion = "gdb.ai/v1" := by
  cases execution <;>
    simp [executedResponse, ApiResponse.semanticSuccess, ApiResponse.success, failureResponse,
      ApiResponse.failure]

/-- A canonical request that is executed: the configuration is valid, the request is accepted, and
the state, the result and the artifact of its response are such as can occur. -/
structure Dispatched (encode : SessionState → Json) (digest : List UInt8 → String)
    (config : Config) (publish : Except Error String) (created : Option Json)
    (request : ApiRequest) (execution : Executed) : Prop where
  valid : ∃ pinned, config.validate pinned = .ok ()
  accepted : validateRequest request = .ok ()
  produced : execution.Produced
  hexadecimal : ∀ bytes, IsHexDigest (digest bytes)
  published : Publishes digest ((executedResponse (canonicalSetting config publish created) request
    execution).serializedSize encode) publish

/-- The response to a canonical request before it is bounded. -/
def canonicalResponse (config : Config) (publish : Except Error String) (created : Option Json)
    (request : ApiRequest) (execution : Executed) : ApiResponse :=
  executedResponse (canonicalSetting config publish created) request execution

/-- What the response to a canonical request takes. -/
lemma size_dispatchResponse (encode : SessionState → Json) {config : Config}
    {publish : Except Error String} {created : Option Json} {execution : Executed}
    (hresponse : canonicalResponse config publish created request execution = response)
    (stored : Option ApiError) :
    ((dispatchResponse encode (canonicalSetting config publish created) request execution
      stored).toJson encode).size =
      if response.serializedSize encode ≤ config.limits.toolResponseBytes then
        response.serializedSize encode + warningSize response.warnings (retryWarning request stored)
      else
        response.keptSize +
          substituteSize publish response.error.isSome (response.serializedSize encode) +
          warningSize [] (retryWarning request stored) := by
  subst hresponse
  set response := canonicalResponse config publish created request execution with hresponse
  have hversion : response.apiVersion = "gdb.ai/v1" := executedResponse_apiVersion
  set bounded := boundResponse encode config.limits.toolResponseBytes publish response with hbounded
  obtain ⟨hkept, hwarnings⟩ := boundResponse_envelope encode config.limits.toolResponseBytes publish
    response
  -- the warning comes on top of the bounded response
  have hadded : ((dispatchResponse encode (canonicalSetting config publish created) request
      execution stored).toJson encode).size =
      (bounded.toJson encode).size + warningSize bounded.warnings (retryWarning request stored) := by
    unfold dispatchResponse retryWarning
    cases request.idempotencyKey with
    | none => exact (Nat.add_zero _).symm
    | some key =>
      cases stored with
      | none => exact (Nat.add_zero _).symm
      | some error => exact size_notDurable encode error (hkept.trans hversion)
  rw [hadded, hwarnings]
  split
  · rename_i hfits
    rw [hbounded, boundResponse_fits hfits]
    rfl
  · rename_i hlarge
    rw [size_boundResponse hversion (not_le.mp hlarge)]

/-- The defaults, with the smallest limit. -/
def smallConfig : Config := { limits := { toolResponseBytes := 1024 } }

/-- A digest in hexadecimal. -/
def zeroDigest (_ : List UInt8) : String := String.ofList (List.replicate 64 '0')

/-- The artifact of a response. -/
def zeroUri : String := artifactUri zeroDigest []

/-- The setting of a gateway that can store the artifact. -/
def smallSetting : DispatchSetting := canonicalSetting smallConfig (.ok zeroUri) none

/-- A state as a client that counts revisions sees it. -/
def briefState (state : SessionState) : Json :=
  .object [("session_id", .string state.sessionId.text), ("revision", .unsigned state.revision)]

/-- A request for the sessions. -/
def listRequest (requestId : String) (key : Option String) : ApiRequest where
  requestId := requestId
  sessionId := none
  method := .sessionList
  idempotencyKey := key
  parameters := .object []

/-- A session with an id of `length` characters behind `sess_`. -/
def longSession (length : ℕ) : SessionState :=
  SessionState.creating ⟨String.ofList ("sess_".toList ++ List.replicate length 'a')⟩

/-- The sessions of a caller who has one for each length. -/
def listedSessions (lengths : List ℕ) : Executed :=
  .legacy none (.array (lengths.map fun length => briefState (longSession length))) {} []

/-- A request to continue, which waits for the stop. -/
def resumeRequest : ApiRequest where
  requestId := "r1"
  sessionId := some "sess_1"
  method := .executionControl
  parameters := .object [("action", .string "continue")]

/-- The semantics of a stop in a function. -/
def stopSemantics (function : String) : Json :=
  .object [("state", .object [("status", .string "stopped"),
      ("frame", .object [("function", .string function)])]),
    ("complete", .bool true), ("historical", .bool false), ("projection", .string "detailed")]

/-- A stop in a function with a name of `length` characters. -/
def stoppedIn (length : ℕ) : Executed :=
  .semantic (some (SessionState.creating ⟨"sess_1"⟩)) (.object [("matched", .bool true)])
    (stopSemantics (String.ofList (List.replicate length 'f'))) {} []

/-- The response to an executed request is not within the limit. -/
def Exceeds (request : ApiRequest) (execution : Executed) (stored : Option ApiError) : Prop :=
  Dispatched briefState zeroDigest smallConfig (.ok zeroUri) none request execution ∧
    smallConfig.limits.toolResponseBytes <
      ((dispatchResponse briefState smallSetting request execution stored).toJson briefState).size

/-! ### Their sizes -/

/-- The digest has the form of a SHA-256 digest. -/
lemma zeroDigest_isHexDigest (bytes : List UInt8) : IsHexDigest (zeroDigest bytes) := by
  have htext : (zeroDigest bytes).toList = List.replicate 64 '0' := String.toList_ofList
  refine ⟨by rw [htext, List.length_replicate], ?_⟩
  intro c hc
  rw [htext] at hc
  rw [List.eq_of_mem_replicate hc]
  decide

/-- The size of the artifact's URI. -/
lemma size_zeroUri : (Json.string zeroUri).size = 90 := by decide

/-- A new store takes a response of any size that its limits allow. -/
lemma publishes_zeroUri {size : ℕ} (h : size < 2 ^ 63) :
    Publishes zeroDigest size (.ok zeroUri) := by
  refine ⟨.empty, List.replicate size 0, none, ⟨2 ^ 63, 2 ^ 63, 2 ^ 63⟩, none,
    List.length_replicate, ?_⟩
  have hroom : ArtifactStore.reserve 0 size (2 ^ 63) "global artifact quota exceeded" = .ok () := by
    rw [ArtifactStore.reserve, if_neg (by decide), if_neg]
    rw [saturatingAdd]
    omega
  have hadmission : ArtifactStore.empty.admission ⟨2 ^ 63, 2 ^ 63, 2 ^ 63⟩ zeroUri size none =
      .ok () := hroom
  have hrank : artifactSensitivityRank "protocol-response" = some 4 := by decide
  have huri : artifactUri zeroDigest (List.replicate size 0) = zeroUri := rfl
  simp only [ArtifactStore.putArtifact, hrank, huri, List.length_replicate, hadmission]
  rw [if_neg (not_le.mpr h)]

/-- The dispatch of an accepted request whose response is stored as an artifact. -/
lemma dispatched_small {execution : Executed} (haccepted : validateRequest request = .ok ())
    (hproduced : execution.Produced)
    (hsize : (executedResponse smallSetting request execution).serializedSize briefState < 2 ^ 63) :
    Dispatched briefState zeroDigest smallConfig (.ok zeroUri) none request execution :=
  ⟨⟨fun _ => true, rfl⟩, haccepted, hproduced, zeroDigest_isHexDigest, publishes_zeroUri hsize⟩

variable {requestId : String}

/-- A request for the sessions is accepted with any id and key of the allowed lengths. -/
lemma listRequest_accepted {key : Option String} (hid : requestId ≠ "")
    (hlength : byteLength requestId.toList ≤ 128)
    (hkey : key.any (fun key => key = "" || byteLength key.toList > 256) = false) :
    validateRequest (listRequest requestId key) = .ok () := by
  have hname : ¬ (CanonicalMethod.sessionList.asStr = "" ∨
      byteLength CanonicalMethod.sessionList.asStr.toList > 128) := by decide
  have hcontract : CanonicalMethod.sessionList.validateParameters (.object []) = .ok () := rfl
  have hlong : ¬ (requestId = "" ∨ byteLength requestId.toList > 128) := by
    rintro (hempty | hlong)
    · exact hid hempty
    · omega
  simp [validateRequest, listRequest, hlong, hname, hkey, hcontract, Json.asObject,
    CanonicalMethod.requiresSession]

/-- The size of a session in a listing. -/
lemma size_longSession (length : ℕ) : (briefState (longSession length)).size = length + 35 := by
  have htext : (longSession length).sessionId.text.toList =
      "sess_".toList ++ List.replicate length 'a' := String.toList_ofList
  have hfixed : "sess_".toList.all isPlain = true := by decide
  have hfive : "sess_".toList.length = 5 := by decide
  have hplain : ∀ c ∈ (longSession length).sessionId.text.toList, isPlain c = true := by
    rw [htext, List.forall_mem_append]
    refine ⟨List.all_eq_true.mp hfixed, fun c hc => ?_⟩
    rw [List.eq_of_mem_replicate hc]
    decide
  have hid : (Json.string "session_id").size = 12 := size_literal rfl
  have hrevision : fieldSize ("revision", .unsigned 0) = 13 := by decide
  have hzero : (longSession length).revision = 0 := rfl
  simp only [briefState, hzero, size_object, List.map_cons, List.map_nil, List.sum_cons,
    List.sum_nil, hrevision]
  rw [fieldSize_mk, hid, Json.size_string_of_isPlain hplain, htext, List.length_append,
    hfive, List.length_replicate]
  omega

/-- The envelope of a listing. -/
def listEnvelope (requestId : String) (result : Json) : ApiResponse where
  requestId := requestId
  sessionId := none
  revision := none
  state := none
  result := some result
  error := none

/-- The response to a request for the sessions. -/
lemma executedResponse_listedSessions (requestId : String) (key : Option String) (lengths : List ℕ) :
    executedResponse smallSetting (listRequest requestId key) (listedSessions lengths) =
      listEnvelope requestId
        (.array (lengths.map fun length => briefState (longSession length))) := by
  simp [executedResponse, listedSessions, ApiResponse.success, ApiResponse.withCreated, smallSetting,
    canonicalSetting, listRequest, listEnvelope]

/-- A listing repeats no state. -/
lemma removeRepeatedState_listEnvelope (requestId : String) (result : Json) :
    removeRepeatedState briefState (listEnvelope requestId result) =
      listEnvelope requestId result := by
  simp [removeRepeatedState, listEnvelope]

/-- The size of the envelope with its result. -/
lemma size_listEnvelope (requestId : String) (result : Json) :
    (listEnvelope requestId result).serializedSize briefState =
      112 + (Json.string requestId).size + result.size := by
  have hname : (Json.string "result").size = 8 := size_literal rfl
  have hfalse : (Json.bool false).size = 5 := rfl
  rw [ApiResponse.serializedSize, removeRepeatedState_listEnvelope,
    ApiResponse.size_eq briefState (by rfl)]
  simp only [listEnvelope, Option.map_none, optionalSize_none, optionalSize_some, List.map_nil,
    size_nil, hfalse, fieldSize_mk "result", hname]
  omega

/-- The size of a listing. -/
lemma size_listedSessions (requestId : String) (key : Option String) (length : ℕ) (lengths : List ℕ) :
    (executedResponse smallSetting (listRequest requestId key)
      (listedSessions (length :: lengths))).serializedSize briefState =
        113 + (Json.string requestId).size + ((length :: lengths).map fun n => n + 36).sum := by
  have hlisting : (Json.array ((length :: lengths).map fun n => briefState (longSession n))).size =
      1 + ((length :: lengths).map fun n => n + 36).sum := by
    rw [List.map_cons, size_array, ← List.map_cons (f := fun n => briefState (longSession n)),
      List.map_map]
    simp only [Function.comp_def, size_longSession]
  rw [executedResponse_listedSessions, size_listEnvelope, hlisting]
  omega

/-- A listing can occur. -/
lemma listedSessions_produced (lengths : List ℕ) : (listedSessions lengths).Produced := by
  refine ⟨?_, ?_, ?_⟩ <;>
    simp [listedSessions, Executed.state, Executed.namedSession, operationSession, Json.get]

/-! ### Responses above the limit -/

/-- A request id of 128 control characters. -/
def controlId : String := String.ofList (List.replicate 128 (Char.ofNat 1))

/-- The characters of the request id. -/
lemma controlId_toList : controlId.toList = List.replicate 128 (Char.ofNat 1) :=
  String.toList_ofList

/-- JSON writes each of the characters in six. -/
lemma size_controlId : (Json.string controlId).size = 770 := by
  rw [Json.size_string, controlId_toList]
  decide +kernel

/-- The escaped request id is too long. -/
lemma exceeds_escaped : Exceeds (listRequest controlId none) (listedSessions [251, 251]) none := by
  have haccepted : validateRequest (listRequest controlId none) = .ok () := by
    refine listRequest_accepted ?_ ?_ rfl
    · intro hempty
      have hnil := congrArg String.toList hempty
      rw [controlId_toList] at hnil
      cases hnil
    · rw [controlId_toList]
      decide +kernel
  have hsize := size_listedSessions controlId none 251 [251]
  rw [size_controlId] at hsize
  refine ⟨dispatched_small haccepted (listedSessions_produced _) (hsize ▸ (by decide)), ?_⟩
  have hresponse : canonicalResponse smallConfig (.ok zeroUri) none (listRequest controlId none)
      (listedSessions [251, 251]) = _ := executedResponse_listedSessions controlId none [251, 251]
  rw [executedResponse_listedSessions] at hsize
  rw [smallSetting, size_dispatchResponse _ hresponse, hsize, if_neg (by decide)]
  -- the request id and the artifact, named twice, are too long already
  simp only [ApiResponse.keptSize, substituteSize, listEnvelope, size_controlId, size_zeroUri,
    Option.map_none, optionalSize_none, Option.isSome_none, Bool.false_eq_true, if_false]
  generalize (Json.unsigned _).size = digits
  change 1024 < _
  omega

/-- The semantics hold the name of the function. -/
lemma size_stopSemantics (function : String) :
    (stopSemantics function).size = 111 + (Json.string function).size := by
  have hstate : (Json.string "state").size = 7 := size_literal rfl
  have hframe : (Json.string "frame").size = 7 := size_literal rfl
  have hfunction : (Json.string "function").size = 10 := size_literal rfl
  have hstatus : fieldSize ("status", .string "stopped") = 19 := by decide
  have hcomplete : fieldSize ("complete", .bool true) = 16 := by decide
  have hhistorical : fieldSize ("historical", .bool false) = 19 := by decide
  have hprojection : fieldSize ("projection", .string "detailed") = 24 := by decide
  simp only [stopSemantics, size_object, List.map_cons, List.map_nil, List.sum_cons,
    List.sum_nil, fieldSize_mk "state", fieldSize_mk "frame",
    fieldSize_mk "function", hstate, hframe, hfunction, hstatus, hcomplete, hhistorical,
    hprojection]
  omega

/-- The envelope of a stop. -/
def stopEnvelope (function : String) : ApiResponse where
  requestId := "r1"
  sessionId := some "sess_1"
  revision := some 0
  state := some (SessionState.creating ⟨"sess_1"⟩)
  result := some (.object [("matched", .bool true)])
  semantics := some (stopSemantics function)
  error := none

/-- The response after the stop. -/
lemma executedResponse_stoppedIn (length : ℕ) :
    executedResponse smallSetting resumeRequest (stoppedIn length) =
      stopEnvelope (String.ofList (List.replicate length 'f')) := by
  simp [executedResponse, stoppedIn, ApiResponse.semanticSuccess, ApiResponse.withCreated,
    smallSetting, canonicalSetting, resumeRequest, stopEnvelope, SessionState.creating]

/-- The size of that response. -/
lemma size_stopEnvelope (function : String) :
    (stopEnvelope function).serializedSize briefState =
      336 + (Json.string function).size := by
  have hid : (Json.string "r1").size = 4 := size_literal rfl
  have hsession : fieldSize ("session_id", .string "sess_1") = 22 := by decide
  have hrevision : fieldSize ("revision", .unsigned 0) = 13 := by decide
  have hmatched : fieldSize ("matched", .bool true) = 15 := by decide
  have hstate : (Json.string "state").size = 7 := size_literal rfl
  have hresult : (Json.string "result").size = 8 := size_literal rfl
  have hsemantics : (Json.string "semantics").size = 11 := size_literal rfl
  have hfalse : (Json.bool false).size = 5 := rfl
  have hsame : removeRepeatedState briefState (stopEnvelope function) = stopEnvelope function := by
    simp [removeRepeatedState, stopEnvelope, Json.lookup]
  rw [ApiResponse.serializedSize, hsame, ApiResponse.size_eq briefState (by rfl)]
  simp only [stopEnvelope, briefState, SessionState.creating, Option.map_some, Option.map_none,
    optionalSize_some, optionalSize_none, List.map_nil, List.map_cons, List.sum_cons,
    List.sum_nil, size_nil, hfalse, fieldSize_mk "state", fieldSize_mk "result",
    fieldSize_mk "semantics", size_object, hid, hsession, hrevision, hmatched, hstate,
    hresult, hsemantics, size_stopSemantics]
  omega

/-- The stop can occur. -/
lemma stoppedIn_produced (length : ℕ) : (stoppedIn length).Produced := by
  refine ⟨?_, ?_, ?_⟩
  · rintro state ⟨⟩
    exact ⟨⟨"sess_1"⟩, by decide⟩
  · simp [stoppedIn, Executed.namedSession]
  · rintro state ⟨⟩
    decide

/-- The name of a function that takes the whole limit by itself. -/
def longName : String := String.ofList (List.replicate 1024 'f')

/-- The size of the name. -/
lemma size_longName : (Json.string longName).size = 1026 := by
  have htext : longName.toList = List.replicate 1024 'f' := String.toList_ofList
  have hplain : ∀ c ∈ longName.toList, isPlain c = true := by
    intro c hc
    rw [htext] at hc
    rw [List.eq_of_mem_replicate hc]
    decide
  rw [Json.size_string_of_isPlain hplain, htext, List.length_replicate]

/-- The semantics are too long. -/
lemma exceeds_semantics : Exceeds resumeRequest (stoppedIn 1024) none := by
  have hresponse : canonicalResponse smallConfig (.ok zeroUri) none resumeRequest (stoppedIn 1024) =
      stopEnvelope longName := executedResponse_stoppedIn 1024
  have hsize := size_stopEnvelope longName
  rw [size_longName] at hsize
  have haccepted : validateRequest resumeRequest = .ok () := by decide
  refine ⟨dispatched_small haccepted (stoppedIn_produced _) ?_, ?_⟩
  · exact (congrArg _ hresponse).trans hsize ▸ (by decide)
  rw [smallSetting, size_dispatchResponse _ hresponse, hsize, if_neg (by decide)]
  -- the semantics are too long already
  have hsemantics : optionalSize "semantics" (stopEnvelope longName).semantics =
      (Json.string "semantics").size + (111 + 1026) + 2 := by
    rw [stopEnvelope, optionalSize_some, fieldSize_mk, size_stopSemantics, size_longName]
  have hlimit : smallConfig.limits.toolResponseBytes = 1024 := rfl
  rw [hlimit, ApiResponse.keptSize, hsemantics]
  generalize substituteSize _ _ _ = substitute
  omega

/-- The store is in use by another connection. -/
def lockedError : ApiError where
  code := .internal
  message := "database is locked"

/-- The size of the warning. -/
lemma size_lockedWarning : (Warning.toJson ⟨"IDEMPOTENCY_NOT_DURABLE",
    lockedError.code.debug ++ ": " ++ lockedError.message⟩).size = 75 := by
  have htext : lockedError.code.debug ++ ": " ++ lockedError.message =
      "Internal: database is locked" := by decide
  have hcode : fieldSize ("code", .string "IDEMPOTENCY_NOT_DURABLE") = 33 := by decide
  have hmessage : fieldSize ("message", .string "Internal: database is locked") = 41 := by decide
  rw [htext]
  simp only [Warning.toJson, size_object, List.map_cons, List.map_nil, List.sum_cons,
    List.sum_nil]
  omega

/-- The response fits, but not with the warning. -/
lemma exceeds_notDurable : Exceeds (listRequest "r1" (some "k1")) (listedSessions [251, 251, 251])
    (some lockedError) := by
  have haccepted : validateRequest (listRequest "r1" (some "k1")) = .ok () :=
    listRequest_accepted (by decide) (by decide) (by decide +kernel)
  have hid : (Json.string "r1").size = 4 := size_literal rfl
  have hsize := size_listedSessions "r1" (some "k1") 251 [251, 251]
  rw [hid] at hsize
  refine ⟨dispatched_small haccepted (listedSessions_produced _) (hsize ▸ (by decide)), ?_⟩
  have hresponse : canonicalResponse smallConfig (.ok zeroUri) none (listRequest "r1" (some "k1"))
      (listedSessions [251, 251, 251]) = _ :=
    executedResponse_listedSessions "r1" (some "k1") [251, 251, 251]
  rw [executedResponse_listedSessions] at hsize
  rw [smallSetting, size_dispatchResponse _ hresponse, hsize, if_pos (by decide)]
  have hwarning : warningSize [] (retryWarning (listRequest "r1" (some "k1")) (some lockedError)) =
      75 := congrArg (· + 0) size_lockedWarning
  have hlimit : smallConfig.limits.toolResponseBytes = 1024 := rfl
  have hnone (result : Json) : (listEnvelope "r1" result).warnings = [] := rfl
  rw [hlimit, hnone, hwarning]
  decide

end GdbAi
