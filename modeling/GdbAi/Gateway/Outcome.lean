import GdbAi.Gateway.Protocol

/-!
# From a failed dispatch to the status of its operation

How `dispatch_inner` of `gdb-ai-core/src/gateway.rs` turns an error into a response (the session
it created is added to the details, and in canonical mode `bound_response` replaces a response
that is too large), and how `operation.rs` reads the terminal status of the operation off that
response.  How a session state is serialized is a parameter: only its size matters here.
-/

namespace GdbAi

/-! ### The text of a response -/

/-- `ErrorCode` as serde writes it. -/
def ErrorCode.wire : ErrorCode → String
  | .invalidArgument => "INVALID_ARGUMENT"
  | .invalidState => "INVALID_STATE"
  | .staleRevision => "STALE_REVISION"
  | .staleContext => "STALE_CONTEXT"
  | .notFound => "NOT_FOUND"
  | .alreadyExists => "ALREADY_EXISTS"
  | .conflict => "CONFLICT"
  | .writeLeaseRequired => "WRITE_LEASE_REQUIRED"
  | .writeLeaseExpired => "WRITE_LEASE_EXPIRED"
  | .policyDenied => "POLICY_DENIED"
  | .capabilityMissing => "CAPABILITY_MISSING"
  | .unsupported => "UNSUPPORTED"
  | .targetRunning => "TARGET_RUNNING"
  | .targetStopped => "TARGET_STOPPED"
  | .targetExited => "TARGET_EXITED"
  | .targetDisconnected => "TARGET_DISCONNECTED"
  | .targetUnavailable => "TARGET_UNAVAILABLE"
  | .timeout => "TIMEOUT"
  | .cancelled => "CANCELLED"
  | .eventGap => "EVENT_GAP"
  | .streamClosed => "STREAM_CLOSED"
  | .outputLimit => "OUTPUT_LIMIT"
  | .memoryPreconditionFailed => "MEMORY_PRECONDITION_FAILED"
  | .partialRead => "PARTIAL_READ"
  | .gdbError => "GDB_ERROR"
  | .gdbUnresponsive => "GDB_UNRESPONSIVE"
  | .gdbExited => "GDB_EXITED"
  | .miParseError => "MI_PARSE_ERROR"
  | .miProtocolLimit => "MI_PROTOCOL_LIMIT"
  | .consistencyDirty => "CONSISTENCY_DIRTY"
  | .consistencyLost => "CONSISTENCY_LOST"
  | .internal => "INTERNAL"

/-- A field that is skipped when it has no value. -/
def optionalField (name : String) (value : Option Json) : List (String × Json) :=
  (value.map fun value => (name, value)).toList

def Warning.toJson (warning : Warning) : Json :=
  .object [("code", .string warning.code), ("message", .string warning.message)]

def Evidence.toJson (evidence : Evidence) : Json :=
  .object [("kind", .string evidence.kind), ("uri", .string evidence.uri)]

def ApiError.toJson (error : ApiError) : Json :=
  .object ([("code", .string error.code.wire), ("message", .string error.message),
    ("retryable", .bool error.retryable)] ++ optionalField "details" error.details)

/-- The serialization of a response, given that of a state. -/
def ApiResponse.toJson (encode : SessionState → Json) (response : ApiResponse) : Json :=
  .object ([("api_version", .string response.apiVersion),
      ("request_id", .string response.requestId)] ++
    optionalField "session_id" (response.sessionId.map .string) ++
    optionalField "revision" (response.revision.map .unsigned) ++
    optionalField "state" (response.state.map encode) ++
    optionalField "result" response.result ++
    optionalField "semantics" response.semantics ++
    [("warnings", .array (response.warnings.map Warning.toJson)),
      ("truncated", .bool response.truncated)] ++
    optionalField "continuation" response.continuation ++
    [("artifacts", .array (response.artifacts.map .string)),
      ("evidence", .array (response.evidence.map Evidence.toJson))] ++
    optionalField "error" (response.error.map ApiError.toJson))

/-! ### Bounding a response -/

/-- `remove_repeated_state`: the state within the result goes when it is that of the envelope. -/
def removeRepeatedState (encode : SessionState → Json) (response : ApiResponse) : ApiResponse :=
  match response.state, response.result with
  | some state, some (.object fields) =>
    match Json.lookup fields "state" with
    | some nested =>
      if nested.render = (encode state).render then
        { response with result := some (.object (Json.erase fields "state")) }
      else response
    | none => response
  | _, _ => response

/-- The bytes of a response that `bound_response` compares with the limit. -/
def ApiResponse.serializedSize (encode : SessionState → Json) (response : ApiResponse) : ℕ :=
  ((removeRepeatedState encode response).toJson encode).size

/-- `bound_response`; `publish` is what storing the artifact gives. -/
def boundResponse (encode : SessionState → Json) (limit : ℕ) (publish : Except Error String)
    (response : ApiResponse) : ApiResponse :=
  let size := response.serializedSize encode
  let response := removeRepeatedState encode response
  if size ≤ limit then response
  else
    match publish with
    | .ok uri =>
      let bounded : ApiResponse :=
        { response with
          state := none, warnings := [], evidence := [], continuation := none, artifacts := [uri],
          truncated := true }
      if response.error.isSome then
        { bounded with
          result := none
          error := some {
            code := .outputLimit
            message := "error response exceeded inline limit"
            details := some (.object [("artifact", .string uri), ("size", .unsigned size)]) } }
      else
        { bounded with
          result := some (.object [("artifact", .string uri), ("size", .unsigned size),
            ("message", .string "response exceeded inline limit")])
          error := none }
    | .error _ =>
      { response with
        result := none, state := none, warnings := [], evidence := [], continuation := none,
        artifacts := [], truncated := true
        error := some {
          code := .outputLimit
          message := "response exceeded inline limit and artifact creation failed" } }

/-! ### The response of a failed dispatch -/

/-- The fields of the details to which the created session is added. -/
def detailFields : Option Json → List (String × Json)
  | some (.object fields) => fields
  | some cause => [("cause", cause)]
  | none => []

/-- The session that the request created is added to the details of its error. -/
def annotateCreated (created : Option Json) (error : ApiError) : ApiError :=
  match created with
  | some session =>
    { error with details := some (.object (Json.set (detailFields error.details) "session" session)) }
  | none => error

/-- What surrounds a dispatch: the mode, the limit and the artifact store of the gateway, and the
session that the request created, if it did. -/
structure DispatchSetting where
  mode : RequestMode
  toolResponseBytes : ℕ
  publish : Except Error String
  created : Option Json := none

/-- The response of `dispatch_inner` to a request whose dispatch failed, before it is bounded. -/
def failureResponse (setting : DispatchSetting) (request : ApiRequest) (error : ApiError)
    (state : Option SessionState) (evidence : List Evidence) : ApiResponse :=
  let response := ApiResponse.failure request error state evidence
  { response with error := response.error.map (annotateCreated setting.created) }

/-- The response of `dispatch_inner` to a request whose dispatch failed. -/
def dispatchFailure (encode : SessionState → Json) (setting : DispatchSetting)
    (request : ApiRequest) (error : ApiError) (state : Option SessionState)
    (evidence : List Evidence) : ApiResponse :=
  let response := failureResponse setting request error state evidence
  match setting.mode with
  | .canonical => boundResponse encode setting.toolResponseBytes setting.publish response
  | .agent => response

/-! ### The status of the operation -/

/-- `RequestOperationStatus`. -/
inductive RequestOperationStatus where
  | accepted | running | cancelRequested | succeeded | failed | outcomeUnknown | aborted
  deriving DecidableEq, Repr

/-- `RequestOperationStatus::terminal`. -/
def RequestOperationStatus.terminal : RequestOperationStatus → Bool
  | .succeeded | .failed | .outcomeUnknown | .aborted => true
  | _ => false

/-- The token of a timeout whose outcome is unknown. -/
def unknownToken (response : ApiResponse) : Option ℕ := do
  let error ← response.error
  if error.code = .timeout then
    let details ← error.details
    if (details.get "outcome_unknown").bind Json.asBool = some true then
      (details.get "token").bind Json.asUnsigned
    else none
  else none

/-- `operation_status`. -/
def operationStatus (response : ApiResponse) : RequestOperationStatus :=
  if (unknownToken response).any fun token =>
      response.state.any fun state => state.outcomeUnknownTokens.contains token then
    .outcomeUnknown
  else if response.error.isSome then .failed
  else .succeeded

/-- `completed_status`. -/
def completedStatus (outcome current : RequestOperationStatus)
    (cancellationApplied cooperativelyCancelled : Bool) : RequestOperationStatus :=
  if outcome = .outcomeUnknown then .outcomeUnknown
  else if current = .cancelRequested && (cancellationApplied || cooperativelyCancelled) then .aborted
  else outcome

/-- The terminal status that the task of an operation records for a response. -/
def terminalStatus (response : ApiResponse) (current : RequestOperationStatus)
    (cancellationApplied : Bool) : RequestOperationStatus :=
  completedStatus (operationStatus response) current cancellationApplied
    (response.error.any fun error => error.code = .cancelled)

/-! ### Unknown outcomes -/

/-- A timeout that says that the outcome of a token is unknown. -/
structure ApiError.OutcomeUnknown (error : ApiError) (token : ℕ) : Prop where
  code : error.code = .timeout
  details : ∃ details, error.details = some details ∧
    (details.get "outcome_unknown").bind Json.asBool = some true ∧
    (details.get "token").bind Json.asUnsigned = some token

variable {error : ApiError} {token : ℕ}

/-- The created session does not hide the marks of a timeout. -/
lemma ApiError.OutcomeUnknown.annotate (h : error.OutcomeUnknown token) (created : Option Json) :
    (annotateCreated created error).OutcomeUnknown token := by
  cases created with
  | none => exact h
  | some session =>
    obtain ⟨details, hdetails, hunknown, htoken⟩ := h.details
    cases details with
    | object fields =>
      refine ⟨h.code, _, rfl, ?_, ?_⟩
      · simpa [Json.get, detailFields, hdetails, Json.lookup_set] using hunknown
      · simpa [Json.get, detailFields, hdetails, Json.lookup_set] using htoken
    | _ => simp [Json.get] at hunknown

variable {response : ApiResponse}

lemma unknownToken_of_outcomeUnknown (herror : response.error = some error)
    (h : error.OutcomeUnknown token) : unknownToken response = some token := by
  obtain ⟨details, hdetails, hunknown, htoken⟩ := h.details
  simp [unknownToken, herror, h.code, hdetails, hunknown, htoken]

/-- The operation of such a timeout has an unknown outcome while its token is in the state. -/
lemma operationStatus_of_outcomeUnknown {state : SessionState}
    (herror : response.error = some error) (h : error.OutcomeUnknown token)
    (hstate : response.state = some state) (htoken : state.outcomeUnknownTokens.contains token) :
    operationStatus response = .outcomeUnknown := by
  simp [operationStatus, unknownToken_of_outcomeUnknown herror h, hstate, htoken]

/-- A response without a state never reports an unknown outcome. -/
lemma terminalStatus_ne_outcomeUnknown (hstate : response.state = none)
    (current : RequestOperationStatus) (applied : Bool) :
    terminalStatus response current applied ≠ .outcomeUnknown := by
  have hstatus : operationStatus response ≠ .outcomeUnknown := by
    unfold operationStatus
    rw [hstate]
    intro h
    split at h
    · rename_i hany
      simp at hany
    · split at h <;> cases h
  unfold terminalStatus completedStatus
  rw [if_neg hstatus]
  split
  · intro h
    cases h
  · exact hstatus

lemma boundResponse_fits {encode : SessionState → Json} {limit : ℕ} {publish : Except Error String}
    (h : response.serializedSize encode ≤ limit) :
    boundResponse encode limit publish response = removeRepeatedState encode response := by
  simp [boundResponse, h]

/-- A response that had to be bounded has no state. -/
lemma boundResponse_state {encode : SessionState → Json} {limit : ℕ} {publish : Except Error String}
    (h : ¬ response.serializedSize encode ≤ limit) :
    (boundResponse encode limit publish response).state = none := by
  cases publish with
  | error e => simp [boundResponse, h]
  | ok uri =>
    simp only [boundResponse, if_neg h]
    split <;> rfl

/-- A failed dispatch has no result, so nothing is removed from it. -/
lemma removeRepeatedState_failure (encode : SessionState → Json) (setting : DispatchSetting)
    (request : ApiRequest) (error : ApiError) (state : Option SessionState)
    (evidence : List Evidence) :
    removeRepeatedState encode (failureResponse setting request error state evidence) =
      failureResponse setting request error state evidence := by
  unfold removeRepeatedState
  simp only [failureResponse, ApiResponse.failure]

/-- An operation whose dispatch failed with a timeout of unknown outcome, the token of which is
still in the session state, is recorded with an unknown outcome exactly when the response did not
have to be bounded: in agent mode, or when its serialization fits the limit. -/
theorem unknown_outcome_recorded_iff (encode : SessionState → Json) (setting : DispatchSetting)
    (request : ApiRequest) (error : ApiError) (token : ℕ) (state : SessionState)
    (evidence : List Evidence) (current : RequestOperationStatus) (applied : Bool)
    (herror : error.OutcomeUnknown token)
    (htoken : state.outcomeUnknownTokens.contains token = true) :
    terminalStatus (dispatchFailure encode setting request error (some state) evidence) current
        applied = .outcomeUnknown ↔
      setting.mode = .agent ∨
        (failureResponse setting request error (some state) evidence).serializedSize encode ≤
          setting.toolResponseBytes := by
  have hunbounded : terminalStatus (failureResponse setting request error (some state) evidence)
      current applied = .outcomeUnknown := by
    have hstatus : operationStatus (failureResponse setting request error (some state) evidence) =
        .outcomeUnknown :=
      operationStatus_of_outcomeUnknown rfl (herror.annotate setting.created) rfl htoken
    simp [terminalStatus, completedStatus, hstatus]
  unfold dispatchFailure
  cases hmode : setting.mode with
  | agent => simpa using hunbounded
  | canonical =>
    simp only [reduceCtorEq, false_or]
    constructor
    · intro hrecorded
      by_contra hlarge
      exact terminalStatus_ne_outcomeUnknown (boundResponse_state hlarge) current applied hrecorded
    · intro hfits
      rw [boundResponse_fits hfits, removeRepeatedState_failure]
      exact hunbounded

/-! ### A large session -/

/-- The timeout that a session reports for a command of unknown outcome. -/
def commandTimeout (token : ℕ) : ApiError where
  code := .timeout
  retryable := true
  message := "MI token " ++ toString token ++ " timed out; command completion is unknown"
  details := some (.object [("outcome_unknown", .bool true), ("token", .unsigned token)])

/-- A session with a command of unknown outcome and many limitations. -/
def strainedSession : SessionState :=
  { SessionState.creating ⟨"sess_1"⟩ with
    outcomeUnknownTokens := (∅ : Std.ExtTreeSet ℕ compare).insert 7
    limitations := List.replicate 64 "evidence gap: SQLite state update failed" }

/-- Some of the fields of a serialized state: the whole one is longer. -/
def SessionState.excerpt (state : SessionState) : Json :=
  .object [("outcome_unknown_tokens", .array (state.outcomeUnknownTokens.toList.map .unsigned)),
    ("limitations", .array (state.limitations.map .string))]

def continueRequest : ApiRequest where
  requestId := "req_1"
  sessionId := some "sess_1"
  method := .executionControl
  parameters := .object [("action", .string "continue")]

/-- In agent mode the outcome of the command is recorded as unknown. -/
theorem unknown_outcome_recorded_in_agent_mode :
    terminalStatus (dispatchFailure SessionState.excerpt ⟨.agent, 1024, .ok "gdbai://artifact/a", none⟩
      continueRequest (commandTimeout 7) (some strainedSession) []) .cancelRequested true =
        .outcomeUnknown := by
  have hunknown : (commandTimeout 7).OutcomeUnknown 7 := ⟨rfl, _, rfl, rfl, rfl⟩
  exact (unknown_outcome_recorded_iff SessionState.excerpt ⟨.agent, 1024, .ok "gdbai://artifact/a", none⟩
    continueRequest (commandTimeout 7) 7 strainedSession [] .cancelRequested true hunknown
      (by decide +kernel)).mpr (.inl rfl)

/-- In canonical mode, with the smallest limit that a configuration may have, the response to the
same failure is bounded: the operation is recorded as failed, or as aborted when a cancellation
was applied. -/
theorem bounded_unknown_outcome_recorded_failed :
    (commandTimeout 7).OutcomeUnknown 7 ∧ strainedSession.outcomeUnknownTokens.contains 7 = true ∧
    terminalStatus (dispatchFailure SessionState.excerpt
      ⟨.canonical, 1024, .ok "gdbai://artifact/a", none⟩ continueRequest (commandTimeout 7)
        (some strainedSession) []) .running false = .failed ∧
    terminalStatus (dispatchFailure SessionState.excerpt
      ⟨.canonical, 1024, .ok "gdbai://artifact/a", none⟩ continueRequest (commandTimeout 7)
        (some strainedSession) []) .cancelRequested true = .aborted := by
  refine ⟨⟨rfl, _, rfl, rfl, rfl⟩, ?_, ?_, ?_⟩ <;> decide +kernel

end GdbAi
