import GdbAi.Library.Registry
import GdbAi.Mi.Ast

/-!
# The session domain

The identifiers, the session state and the domain events of `gdb-ai-core/src/domain.rs`.
`u64` counters are natural numbers: no run of a session is long enough to overflow one.
-/

namespace GdbAi

/-! ### Errors -/

/-- `ErrorCode`. -/
inductive ErrorCode where
  | invalidArgument | invalidState | staleRevision | staleContext | notFound | alreadyExists
  | conflict | writeLeaseRequired | writeLeaseExpired | policyDenied | capabilityMissing
  | unsupported | targetRunning | targetStopped | targetExited | targetDisconnected
  | targetUnavailable | timeout | cancelled | eventGap | streamClosed | outputLimit
  | memoryPreconditionFailed | partialRead | gdbError | gdbUnresponsive | gdbExited
  | miParseError | miProtocolLimit | consistencyDirty | consistencyLost | internal
  deriving DecidableEq, Repr

/-- The name of an error code, as `Debug` prints it. -/
def ErrorCode.debug : ErrorCode → String
  | .invalidArgument => "InvalidArgument"
  | .invalidState => "InvalidState"
  | .staleRevision => "StaleRevision"
  | .staleContext => "StaleContext"
  | .notFound => "NotFound"
  | .alreadyExists => "AlreadyExists"
  | .conflict => "Conflict"
  | .writeLeaseRequired => "WriteLeaseRequired"
  | .writeLeaseExpired => "WriteLeaseExpired"
  | .policyDenied => "PolicyDenied"
  | .capabilityMissing => "CapabilityMissing"
  | .unsupported => "Unsupported"
  | .targetRunning => "TargetRunning"
  | .targetStopped => "TargetStopped"
  | .targetExited => "TargetExited"
  | .targetDisconnected => "TargetDisconnected"
  | .targetUnavailable => "TargetUnavailable"
  | .timeout => "Timeout"
  | .cancelled => "Cancelled"
  | .eventGap => "EventGap"
  | .streamClosed => "StreamClosed"
  | .outputLimit => "OutputLimit"
  | .memoryPreconditionFailed => "MemoryPreconditionFailed"
  | .partialRead => "PartialRead"
  | .gdbError => "GdbError"
  | .gdbUnresponsive => "GdbUnresponsive"
  | .gdbExited => "GdbExited"
  | .miParseError => "MiParseError"
  | .miProtocolLimit => "MiProtocolLimit"
  | .consistencyDirty => "ConsistencyDirty"
  | .consistencyLost => "ConsistencyLost"
  | .internal => "Internal"

/-- An error of the session layer. -/
structure Error where
  code : ErrorCode
  message : String
  retryable : Bool := false
  deriving DecidableEq, Repr

/-- `Error::to_string`. -/
def Error.display (error : Error) : String := error.code.debug ++ ": " ++ error.message

/-- `DisplayByte`: what the parser found, as its errors print it. -/
def displayByte : Option UInt8 → String
  | some byte =>
    if 32 ≤ byte && byte ≤ 126 then
      if byte = Byte.apostrophe || byte = Byte.backslash then
        String.ofList ['\'', '\\', Char.ofUInt8 byte, '\'']
      else String.ofList ['\'', Char.ofUInt8 byte, '\'']
    else String.ofList
      ['0', 'x', Nat.digitChar (byte.toNat / 16), Nat.digitChar (byte.toNat % 16)]
  | none => "end of record"

/-- `MiError::to_string`. -/
def MiError.display : MiError → String
  | .empty => "empty MI record"
  | .unexpected offset expected found =>
    "unexpected byte at offset " ++ toString offset ++ ": expected " ++ expected ++ ", found " ++
      displayByte found
  | .invalidToken offset => "invalid numeric token at offset " ++ toString offset
  | .limit kind bound => "MI " ++ kind ++ " exceeds limit " ++ toString bound

/-- The session error of an MI error. -/
def Error.ofMi (error : MiError) : Error :=
  match error with
  | .limit _ _ => ⟨.miProtocolLimit, error.display, false⟩
  | _ => ⟨.miParseError, error.display, false⟩

/-! ### Identifiers -/

/-- The characters of a string from which a prefix is stripped. -/
def stripPrefix (lead : String) (value : String) : Option (List Char) :=
  if lead.toList.isPrefixOf value.toList then some (value.toList.drop lead.toList.length) else none

/-- `str::len`: the number of UTF-8 bytes. -/
def byteLength (chars : List Char) : ℕ := (chars.map Char.utf8Size).sum

/-- A character that `char::is_ascii_alphanumeric` accepts, or `_` or `-`. -/
def isIdCharacter (character : Char) : Bool :=
  character.isAlphanum || character = '_' || character = '-'

structure SessionId where
  text : String
  deriving DecidableEq, Repr

structure BreakpointId where
  text : String
  deriving DecidableEq, Repr

structure StopId where
  text : String
  deriving DecidableEq, Repr

structure InferiorId where
  text : String
  deriving DecidableEq, Repr

structure ThreadId where
  text : String
  deriving DecidableEq, Repr

/-- `SessionId::parse`. -/
def SessionId.parse (value : String) : Except Error SessionId :=
  match stripPrefix "sess_" value with
  | some suffix =>
    if suffix ≠ [] && byteLength suffix ≤ 256 && suffix.all isIdCharacter then .ok ⟨value⟩
    else .error ⟨.invalidArgument, "invalid sess identifier", false⟩
  | none => .error ⟨.invalidArgument, "invalid sess identifier", false⟩

/-- `SessionId::uses_compact_handles`. -/
def SessionId.usesCompactHandles (session : SessionId) : Bool :=
  match stripPrefix "sess_" session.text with
  | some suffix => byteLength suffix = 16
  | none => false

/-- `safe_component`. -/
def safeComponent (value : String) : String :=
  String.ofList (value.toList.map fun character =>
    if isIdCharacter character then character else '_')

/-- `StopId::from_event`. -/
def StopId.fromEvent (session : SessionId) (eventSeq : ℕ) : StopId :=
  if session.usesCompactHandles then ⟨"s" ++ toString eventSeq⟩
  else ⟨"stop_" ++ session.text ++ "_" ++ toString eventSeq⟩

/-- `InferiorId::from_backend`. -/
def InferiorId.fromBackend (session : SessionId) (generation : ℕ) (backendId : String) :
    InferiorId :=
  if session.usesCompactHandles then ⟨"i" ++ toString generation ++ "_" ++ safeComponent backendId⟩
  else ⟨"inf_" ++ session.text ++ "_" ++ toString generation ++ "_" ++ safeComponent backendId⟩

/-- `ThreadId::from_backend`. -/
def ThreadId.fromBackend (inferior : InferiorId) (creationGeneration : ℕ) (backendId : String) :
    ThreadId :=
  if (stripPrefix "inf_" inferior.text).isSome then
    ⟨"thr_" ++ inferior.text ++ "_" ++ toString creationGeneration ++ "_" ++
      safeComponent backendId⟩
  else ⟨"t" ++ toString creationGeneration ++ "_" ++ safeComponent backendId⟩

structure FrameId where
  text : String
  deriving DecidableEq, Repr

/-- `FrameId::new`. -/
def FrameId.new (thread : ThreadId) (stop : StopId) (level : ℕ) : FrameId :=
  if (stripPrefix "thr_" thread.text).isSome || (stripPrefix "stop_" stop.text).isSome then
    ⟨"frm_" ++ thread.text ++ "_" ++ stop.text ++ "_" ++ toString level⟩
  else ⟨"f" ++ thread.text ++ "_" ++ stop.text ++ "_" ++ toString level⟩

/-- The identifier a breakpoint gets when its backend number is first seen. -/
def BreakpointId.fromEvent (session : SessionId) (eventSeq : ℕ) (backendNumber : String) :
    BreakpointId :=
  let number := String.ofList (backendNumber.toList.map fun c => if c = '.' then '_' else c)
  if session.usesCompactHandles then ⟨"b" ++ toString eventSeq ++ "_" ++ number⟩
  else ⟨"bp_" ++ session.text ++ "_" ++ toString eventSeq ++ "_" ++ number⟩

/-! ### State -/

inductive SessionLifecycle where
  | creating | ready | active | closing | closed | failed
  deriving DecidableEq, Repr

inductive BackendHealth where
  | starting | healthy | busy | unresponsive | dead
  deriving DecidableEq, Repr

inductive InferiorStatus where
  | empty | connecting | stopped | running | exited | detached | disconnected | core | unknown
  deriving DecidableEq, Repr

/-- `Exited | Detached | Disconnected`: the inferior has no process any more. -/
def InferiorStatus.isTerminal : InferiorStatus → Bool
  | .exited | .detached | .disconnected => true
  | _ => false

inductive TargetOrigin where
  | unknown | local | attach | remote | core
  deriving DecidableEq, Repr

inductive Consistency where
  | clean | managedDirty | reconciling | tainted | lost
  deriving DecidableEq, Repr

structure FrameSummary where
  level : ℕ
  address : Option String
  function : Option String
  module : Option String
  source : Option String
  line : Option ℕ
  deriving DecidableEq, Repr

inductive StopReason where
  | breakpoint (backendNumber disposition : Option String)
  | watchpoint (backendNumber expression : Option String) (access : String)
  | signal (name meaning : Option String)
  | endSteppingRange
  | functionFinished
  | locationReached
  | interrupt
  | core
  | unknown (rawReason : String)
  deriving DecidableEq, Repr

structure ThreadState where
  id : ThreadId
  backendId : String
  running : Bool
  frame : Option FrameSummary
  deriving DecidableEq, Repr

structure InferiorState where
  id : InferiorId
  backendId : String
  pid : Option ℕ
  generation : ℕ
  status : InferiorStatus
  exitCode : Option String
  threads : Registry ThreadState
  deriving DecidableEq

inductive SnapshotStatus where
  | building | ready | failed
  deriving DecidableEq, Repr

structure SnapshotRef where
  snapshotId : String
  stopId : StopId
  status : SnapshotStatus
  partialRead : Bool
  deriving DecidableEq, Repr

/-- What a stored snapshot carries besides its context. -/
inductive SnapshotBody where
  /-- The bounded stop context the worker captures itself. -/
  | minimal (reason : Option String) (frame : Option FrameSummary) (eventSeq : ℕ)
  | captured (content : String)
  deriving DecidableEq, Repr

/-- A snapshot as the worker stores it. -/
structure Snapshot where
  observationId : String
  stopId : StopId
  capturedRevision : ℕ
  executionEpoch : ℕ
  partialRead : Bool
  body : SnapshotBody
  deriving DecidableEq, Repr

structure BreakpointLocationState where
  id : String
  backendNumber : String
  address : Option String
  function : Option String
  deriving DecidableEq, Repr

structure BreakpointState where
  id : BreakpointId
  backendNumber : String
  enabled : Bool
  pending : Bool
  locations : List BreakpointLocationState
  deriving DecidableEq, Repr

structure ModuleState where
  id : String
  targetName : Option String
  hostName : Option String
  symbolsLoaded : Option Bool
  deriving DecidableEq, Repr

structure SignalPolicyState where
  stop : Bool
  print : Bool
  pass : Bool
  deriving DecidableEq, Repr

/-- `SessionState`. -/
structure SessionState where
  sessionId : SessionId
  lifecycle : SessionLifecycle
  backend : BackendHealth
  consistency : Consistency
  reconciliationRequired : Bool
  eventSeq : ℕ
  revision : ℕ
  executionEpoch : ℕ
  outcomeUnknownTokens : Std.ExtTreeSet ℕ compare
  stopId : Option StopId
  stopReason : Option String
  stopReasonDetail : Option StopReason
  stoppedInferiorId : Option InferiorId
  stoppedThreadId : Option ThreadId
  targetOrigin : TargetOrigin
  inferiors : Registry InferiorState
  breakpoints : Registry BreakpointState
  modules : Registry ModuleState
  signalPolicies : Registry SignalPolicyState
  snapshot : Option SnapshotRef
  limitations : List String
  deriving DecidableEq

namespace SessionState

/-- `SessionState::creating`. -/
def creating (sessionId : SessionId) : SessionState where
  sessionId := sessionId
  lifecycle := .creating
  backend := .starting
  consistency := .clean
  reconciliationRequired := false
  eventSeq := 0
  revision := 0
  executionEpoch := 0
  outcomeUnknownTokens := ∅
  stopId := none
  stopReason := none
  stopReasonDetail := none
  stoppedInferiorId := none
  stoppedThreadId := none
  targetOrigin := .unknown
  inferiors := ∅
  breakpoints := ∅
  modules := ∅
  signalPolicies := ∅
  snapshot := none
  limitations := []

/-- `SessionState::stopped_frame`. -/
def stoppedFrame (s : SessionState) : Option FrameSummary := do
  let inferiorId ← s.stoppedInferiorId
  let threadId ← s.stoppedThreadId
  let (_, inferior) ← s.inferiors.first fun _ inferior => inferior.id = inferiorId
  let (_, thread) ← inferior.threads.first fun _ thread => thread.id = threadId
  thread.frame

/-- `SessionState::attributed_inferior`: a missing backend id is inferred only when there is
exactly one inferior. -/
def attributedInferior (state : SessionState) (backendId : Option String) : Option String :=
  match backendId with
  | some backendId => some backendId
  | none =>
    match state.inferiors.keys with
    | [backendId] => some backendId
    | _ => none

end SessionState

/-! ### Events -/

inductive OutputSource where
  | inferiorPty | miTargetStream | gdbConsoleStream | gdbLogStream | serverDiagnostic
  deriving DecidableEq, Repr

/-- `DomainEvent`. -/
inductive DomainEvent where
  | sessionClosing
  | sessionClosed
  | backendStarted
  | backendExited (status : Option ℤ)
  | targetRunning (backendInferiors : List String)
  | targetStopped (backendInferior backendThread : Option String) (reason : String)
      (reasonDetail : Option StopReason) (frame : Option FrameSummary)
  | inferiorAdded (backendId : String) (pid : Option ℕ)
  | inferiorRemoved (backendId : String)
  | inferiorExited (backendId exitCode : Option String) (fromStopRecord : Bool)
  | threadCreated (backendInferior backendThread : String)
  | threadExited (backendInferior : Option String) (backendThread : String)
  | breakpointCreated (backendNumber : String) (enabled pending : Bool)
  | breakpointModified (backendNumber : String) (enabled pending : Bool)
  | breakpointDeleted (backendNumber : String)
  | breakpointLocations (backendNumber : String) (locations : List BreakpointLocationState)
  | breakpointRebound (id : BreakpointId) (oldBackendNumber newBackendNumber : String)
      (enabled : Bool) (address : Option String)
  | libraryLoaded (id : String) (targetName hostName : Option String)
      (symbolsLoaded : Option Bool)
  | libraryUnloaded (id : String)
  | memoryChanged
  | registerChanged (register : String)
  | controllerChanged (kind : String)
  | evidenceGap (reason : String)
  | signalPolicyChanged (signal : String) (policy : SignalPolicyState)
  | snapshotStarted (stopId : StopId)
  | snapshotReady (stopId : StopId) (snapshotId : Option String) (partialRead : Bool)
  | snapshotFailed (stopId : StopId)
  | commandOutcomeUnknown (token : ℕ)
  | commandOutcomeResolved (token : ℕ)
  | consistencyDirty (reason : String)
  | consistencyReconciling
  | consistencyTainted (reason : String)
  | consistencyRestored (warnings : List String)
  | consistencyLost (reason : String)
  | targetDisconnected
  | targetDetached
  | coreOpened (backendId : String)
  | targetConfigured (origin : TargetOrigin)
  | output (source : OutputSource) (bytes : Bytes)
  | outputAdvanced (source : OutputSource) (offset length droppedBytes : ℕ)
  | unknownBackendEvent (cls : String)
  | unknownBackendNotification (cls : String)
  deriving DecidableEq, Repr

end GdbAi
