import GdbAi.Domain
import GdbAi.Library.Json

/-!
# Requests and responses

The canonical methods, the request and the response of `gdb-ai-core/src/protocol.rs`, and the
principal behind a caller (`gdb-ai-core/src/gateway.rs`).
-/

namespace GdbAi

/-! ### Methods -/

/-- `CanonicalMethod`. -/
inductive CanonicalMethod where
  | sessionCreate | sessionGet | sessionList | sessionClose | sessionForceAbort
  | sessionAcquireWriteLease | sessionReleaseWriteLease | sessionHandoff
  | sessionAttemptRecovery | sessionCapabilities | sessionProviders | sessionTranscript
  | sessionEvent | operationGet | operationCancel | targetLaunch | targetAttach
  | targetConnectRemote | targetOpenCore | targetDetach | targetRestart | targetKill
  | executionControl | executionWait | breakpointCreate | breakpointUpdate | breakpointDelete
  | breakpointList | inspectionGet | inspectionSnapshot | inspectionDiff | inspectionBatch
  | inspectionSnapshotGet | valueEvaluate | valueCreate | valueChildren | valueUpdate
  | valueRelease | memoryRead | memoryWrite | memorySearch | memoryCompare | registerRead
  | registerWrite | disassemblyRead | inferiorIoRead | inferiorIoWrite | inferiorIoCloseStdin
  | inferiorIoSendEof | inferiorIoResize | trackingAddExpression | trackingAddMemory
  | trackingRemove | trackingList | signalGet | signalUpdate | agentHypothesisCheck | agentProbe
  | agentExperiment | kernelInspect | kernelMonitor | artifactGet | eventsWait | rawMi
  | rawConsole
  deriving DecidableEq, Repr

/-- `CanonicalMethod::as_str`. -/
def CanonicalMethod.asStr : CanonicalMethod → String
  | .sessionCreate => "session.create"
  | .sessionGet => "session.get"
  | .sessionList => "session.list"
  | .sessionClose => "session.close"
  | .sessionForceAbort => "session.force_abort"
  | .sessionAcquireWriteLease => "session.acquire_write_lease"
  | .sessionReleaseWriteLease => "session.release_write_lease"
  | .sessionHandoff => "session.handoff"
  | .sessionAttemptRecovery => "session.attempt_recovery"
  | .sessionCapabilities => "session.capabilities"
  | .sessionProviders => "session.providers"
  | .sessionTranscript => "session.transcript"
  | .sessionEvent => "session.event"
  | .operationGet => "operation.get"
  | .operationCancel => "operation.cancel"
  | .targetLaunch => "target.launch"
  | .targetAttach => "target.attach"
  | .targetConnectRemote => "target.connect_remote"
  | .targetOpenCore => "target.open_core"
  | .targetDetach => "target.detach"
  | .targetRestart => "target.restart"
  | .targetKill => "target.kill"
  | .executionControl => "execution.control"
  | .executionWait => "execution.wait"
  | .breakpointCreate => "breakpoint.create"
  | .breakpointUpdate => "breakpoint.update"
  | .breakpointDelete => "breakpoint.delete"
  | .breakpointList => "breakpoint.list"
  | .inspectionGet => "inspection.get"
  | .inspectionSnapshot => "inspection.snapshot"
  | .inspectionDiff => "inspection.diff"
  | .inspectionBatch => "inspection.batch"
  | .inspectionSnapshotGet => "inspection.snapshot_get"
  | .valueEvaluate => "value.evaluate"
  | .valueCreate => "value.create"
  | .valueChildren => "value.children"
  | .valueUpdate => "value.update"
  | .valueRelease => "value.release"
  | .memoryRead => "memory.read"
  | .memoryWrite => "memory.write"
  | .memorySearch => "memory.search"
  | .memoryCompare => "memory.compare"
  | .registerRead => "register.read"
  | .registerWrite => "register.write"
  | .disassemblyRead => "disassembly.read"
  | .inferiorIoRead => "inferior_io.read"
  | .inferiorIoWrite => "inferior_io.write"
  | .inferiorIoCloseStdin => "inferior_io.close_stdin"
  | .inferiorIoSendEof => "inferior_io.send_eof"
  | .inferiorIoResize => "inferior_io.resize"
  | .trackingAddExpression => "tracking.add_expression"
  | .trackingAddMemory => "tracking.add_memory"
  | .trackingRemove => "tracking.remove"
  | .trackingList => "tracking.list"
  | .signalGet => "signal.get"
  | .signalUpdate => "signal.update"
  | .agentHypothesisCheck => "agent.hypothesis_check"
  | .agentProbe => "agent.probe"
  | .agentExperiment => "agent.experiment"
  | .kernelInspect => "kernel.inspect"
  | .kernelMonitor => "kernel.monitor"
  | .artifactGet => "artifact.get"
  | .eventsWait => "events.wait"
  | .rawMi => "raw.mi"
  | .rawConsole => "raw.console"

/-- `CanonicalMethod::ALL`. -/
def CanonicalMethod.all : List CanonicalMethod :=
  [.sessionCreate, .sessionGet, .sessionList, .sessionClose, .sessionForceAbort,
    .sessionAcquireWriteLease, .sessionReleaseWriteLease, .sessionHandoff, .sessionAttemptRecovery,
    .sessionCapabilities, .sessionProviders, .sessionTranscript, .sessionEvent, .operationGet,
    .operationCancel, .targetLaunch, .targetAttach, .targetConnectRemote, .targetOpenCore,
    .targetDetach, .targetRestart, .targetKill, .executionControl, .executionWait,
    .breakpointCreate, .breakpointUpdate, .breakpointDelete, .breakpointList, .inspectionGet,
    .inspectionSnapshot, .inspectionDiff, .inspectionBatch, .inspectionSnapshotGet, .valueEvaluate,
    .valueCreate, .valueChildren, .valueUpdate, .valueRelease, .memoryRead, .memoryWrite,
    .memorySearch, .memoryCompare, .registerRead, .registerWrite, .disassemblyRead,
    .inferiorIoRead, .inferiorIoWrite, .inferiorIoCloseStdin, .inferiorIoSendEof,
    .inferiorIoResize, .trackingAddExpression, .trackingAddMemory, .trackingRemove, .trackingList,
    .signalGet, .signalUpdate, .agentHypothesisCheck, .agentProbe, .agentExperiment,
    .kernelInspect, .kernelMonitor, .artifactGet, .eventsWait, .rawMi, .rawConsole]

/-- `CanonicalMethod::try_from`. -/
def CanonicalMethod.tryFrom (value : String) : Except Error CanonicalMethod :=
  match CanonicalMethod.all.find? fun method => method.asStr = value with
  | some method => .ok method
  | none => .error ⟨.invalidArgument, "unknown canonical method " ++ value, false⟩

/-- The name of a method is read back as that method. -/
lemma CanonicalMethod.tryFrom_asStr (method : CanonicalMethod) :
    CanonicalMethod.tryFrom method.asStr = .ok method := by
  have hall : ∀ method ∈ CanonicalMethod.all,
      (CanonicalMethod.all.find? fun other => other.asStr = method.asStr) = some method := by
    decide +kernel
  have hmem : method ∈ CanonicalMethod.all := by
    cases method <;> decide
  rw [CanonicalMethod.tryFrom, hall method hmem]

lemma CanonicalMethod.asStr_injective : Function.Injective CanonicalMethod.asStr := by
  intro left right h
  have hleft := CanonicalMethod.tryFrom_asStr left
  rw [h, CanonicalMethod.tryFrom_asStr] at hleft
  exact (Except.ok.inj hleft).symm

/-- The name of a method holds no colon. -/
lemma CanonicalMethod.colon_notMem (method : CanonicalMethod) : ':' ∉ method.asStr.toList := by
  cases method <;> decide +kernel

/-- `CanonicalMethod::requires_session`. -/
def CanonicalMethod.requiresSession : CanonicalMethod → Bool
  | .sessionCreate | .sessionList | .targetLaunch | .operationGet | .operationCancel
  | .artifactGet => false
  | _ => true

/-! ### Callers -/

/-- `RequestMode`. -/
inductive RequestMode where
  | canonical | agent
  deriving DecidableEq, Repr

/-- `Caller`. -/
structure Caller where
  identity : String
  admin : Bool := false
  deriving DecidableEq, Repr

/-- The characters before the first occurrence of `separator`, all of them if there is none. -/
def beforeFirst (separator : List Char) : List Char → List Char
  | [] => []
  | c :: cs => if separator.isPrefixOf (c :: cs) then [] else c :: beforeFirst separator cs

/-- `principal_identity`: the name of an MCP client behind `/mcp:` is not part of the principal. -/
def principalIdentity (identity : String) : String :=
  String.ofList (beforeFirst "/mcp:".toList identity.toList)

/-- `same_principal`. -/
def samePrincipal (left right : String) : Bool :=
  principalIdentity left = principalIdentity right

/-! ### Requests -/

/-- `ApiRequest`. -/
structure ApiRequest where
  apiVersion : String := "gdb.ai/v1"
  requestId : String
  sessionId : Option String
  method : CanonicalMethod
  expectedRevision : Option ℕ := none
  idempotencyKey : Option String := none
  parameters : Json

/-! ### Responses -/

/-- `ApiError`, and the error of the gateway it is made from. -/
structure ApiError where
  code : ErrorCode
  message : String
  retryable : Bool := false
  details : Option Json := none

/-- `Warning`. -/
structure Warning where
  code : String
  message : String
  deriving DecidableEq, Repr

/-- `Evidence`. -/
structure Evidence where
  kind : String
  uri : String
  deriving DecidableEq, Repr

/-- `ApiResponse`. -/
structure ApiResponse where
  apiVersion : String := "gdb.ai/v1"
  requestId : String
  sessionId : Option String
  revision : Option ℕ
  state : Option SessionState
  result : Option Json
  semantics : Option Json := none
  warnings : List Warning := []
  truncated : Bool := false
  continuation : Option Json := none
  artifacts : List String := []
  evidence : List Evidence := []
  error : Option ApiError

/-- `ApiResponse::failure`; the evidence is what `response_evidence` finds in the details. -/
def ApiResponse.failure (request : ApiRequest) (error : ApiError) (state : Option SessionState)
    (evidence : List Evidence) : ApiResponse where
  requestId := request.requestId
  sessionId := request.sessionId
  revision := state.map SessionState.revision
  state := state
  result := none
  evidence := evidence
  error := some error

end GdbAi
