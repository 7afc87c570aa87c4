import GdbAi.Mi.Encoder
import GdbAi.Normalize
import GdbAi.Reducer

/-!
# What the session worker exchanges

The commands, requests, controls and backend inputs of `gdb-ai-core/src/session/actor.rs`, and the
pure functions the worker decides with.
-/

namespace GdbAi

/-! ### Commands -/

/-- The name `MiCommand::new` accepts: a dash followed by letters, digits or dashes. -/
def isMiName (name : String) : Bool :=
  match name.toList with
  | '-' :: rest => rest ≠ [] && rest.all fun character => character.isAlphanum || character = '-'
  | _ => false

/-- `MiCommand::new`. -/
def MiCommand.new (name : String) : Except Error MiCommand :=
  if isMiName name then .ok ⟨name, []⟩
  else .error ⟨.invalidArgument,
    "MI command name must be a dash followed by letters, digits, or dashes", false⟩

/-- `u8::is_ascii_whitespace` on a character. -/
def isAsciiSpace (character : Char) : Bool :=
  character = ' ' || character = '\t' || character = '\n' || character = '\x0c' || character = '\r'

/-- `MiCommand::bare`. -/
def MiCommand.bare (command : MiCommand) (value : String) : Except Error MiCommand :=
  if value.toList = [] || value.toList.any isAsciiSpace then
    .error ⟨.invalidArgument, "bare MI argument contains whitespace", false⟩
  else .ok { command with arguments := command.arguments ++ [.bare value] }

/-- `MiCommand::string`. -/
def MiCommand.string (command : MiCommand) (value : Bytes) : MiCommand :=
  { command with arguments := command.arguments ++ [.string value] }

/-- A command with bare arguments. -/
def MiCommand.withBare (name : String) (values : List String) : Except Error MiCommand := do
  values.foldlM MiCommand.bare (← MiCommand.new name)

/-- `command_starts_fresh_inferior`. -/
def commandStartsFreshInferior (command : MiCommand) : Bool :=
  command.name = "-exec-run" ||
    (command.name = "-interpreter-exec" &&
      command.arguments = [.bare "console", .string (utf8 "starti")])

/-- `command_resumes_target`. -/
def commandResumesTarget (command : MiCommand) : Bool :=
  commandStartsFreshInferior command ||
    ["-exec-run", "-exec-continue", "-exec-step", "-exec-next", "-exec-finish",
      "-exec-step-instruction", "-exec-next-instruction", "-exec-until", "-exec-jump",
      "-exec-return"].contains command.name

/-- `CommandReply`. -/
structure CommandReply where
  token : ℕ
  cls : String
  record : MiRecord
  streamRecords : List MiRecord
  streamTruncated : Bool
  evidenceSeq : ℕ

/-- `command_reply`. -/
def commandReply (token : ℕ) (record : MiRecord) (evidenceSeq : ℕ) (streamRecords : List MiRecord)
    (streamTruncated : Bool) : Except Error CommandReply :=
  match record with
  | .result (some resultToken) cls results =>
    if resultToken ≠ token then .error ⟨.internal, "matched MI command token changed", false⟩
    else if cls = "error" then
      .error ⟨.gdbError, (MiResult.findStr results "msg").getD "GDB command failed", false⟩
    else .ok ⟨token, cls, record, streamRecords, streamTruncated, evidenceSeq⟩
  | _ => .error ⟨.internal, "matched MI command record is not a result", false⟩

/-- The token of a result record. -/
def resultToken : MiRecord → Option ℕ
  | .result token _ _ => token
  | _ => none

/-- `stream_len`, for the stream records. -/
def streamLength : MiRecord → Option ℕ
  | .consoleStream bytes | .targetStream bytes | .logStream bytes => some bytes.length
  | _ => none

/-- `command_timeout`. -/
def commandTimeoutError (token : ℕ) : Error :=
  ⟨.timeout, "MI token " ++ toString token ++ " timed out; command completion is unknown", true⟩

/-- `breakpoint_number`. -/
def breakpointNumber (record : MiRecord) : Except Error String :=
  match (MiResult.find record.results "bkpt").bind MiValue.results >>= (text · "number") with
  | some number => .ok number
  | none => .error ⟨.gdbError, "GDB returned no breakpoint number", false⟩

/-- `mi_command_exists`. -/
def miCommandExists (record : MiRecord) : Bool :=
  ((MiResult.find record.results "command").bind MiValue.results >>= (text · "exists")) =
    some "true"

/-- `str::lines`: the pieces between line feeds, without a carriage return before the feed; there
is no empty piece behind the last feed. -/
def textLines (value : String) : List (List Char) :=
  let pieces := value.toList.splitOn '\n'
  pieces.dropLast.map (fun line => if line.getLast? = some '\r' then line.dropLast else line) ++
    (pieces.getLast?.filter fun line => line ≠ []).toList

/-- The number an insertion error reports: `Cannot insert breakpoint N.` -/
def rejectedBreakpoint (message : String) : Option String :=
  (textLines message).findSome? fun line => do
    let rest ← stripPrefix "Cannot insert breakpoint " (String.ofList line)
    match rest.reverse with
    | '.' :: digits =>
      let number ← parseUnsigned (2 ^ 64) (String.ofList digits.reverse)
      if number > 0 then some (toString number) else none
    | _ => none

/-- `ErrorCode::is_independent_read_failure`. -/
def ErrorCode.isIndependentReadFailure : ErrorCode → Bool
  | .invalidArgument | .notFound | .capabilityMissing | .unsupported | .policyDenied
  | .outputLimit | .partialRead | .gdbError => true
  | _ => false

/-! ### Sessions -/

inductive Profile where
  | offlineCore | liveObserver | debugControl | labMutation | rawAdmin
  deriving DecidableEq, Repr

/-- The profiles that may control a target. -/
def Profile.controlsTarget : Profile → Bool
  | .debugControl | .labMutation | .rawAdmin => true
  | _ => false

inductive CapabilityStatus where
  | supported | unsupported | conditional | limited | unknown | temporarilyUnavailable
  deriving DecidableEq, Repr

/-- `safe_evaluation_settings`: the settings to guard, and whether their values are read first. -/
def safeEvaluationSettings : Profile → List String × Bool
  | .rawAdmin => (["may-call-functions", "may-write-memory", "may-write-registers"], true)
  | .debugControl | .labMutation => (["may-write-memory", "may-write-registers"], false)
  | .offlineCore | .liveObserver => ([], false)

/-- The words of a line. -/
def splitWhitespace (line : List Char) : List (List Char) :=
  (line.splitOnP Char.isWhitespace).filter (· ≠ [])

/-- `module_rebinding_status`. -/
def moduleRebindingStatus (output : String) : CapabilityStatus :=
  let major := do
    let line ← (textLines output).find? fun line =>
      (stripPrefix "GNU gdb " (String.ofList line)).isSome
    let version ← (splitWhitespace line).getLast?
    let major ← (version.splitOn '.').head?
    parseUnsigned (2 ^ 32) (String.ofList major)
  match major with
  | some major => if major ≤ 10 then .unsupported else .conditional
  | none => .unknown

/-- An operation a request belongs to. -/
structure ActiveOperation where
  id : String
  deriving DecidableEq, Repr

/-- The part of an `OperationRecord` the worker reads. -/
structure OperationRecord where
  operationId : String
  createdRevision : ℕ
  deriving DecidableEq, Repr

/-- The part of a `ValueBinding` the worker reads. -/
structure ValueBinding where
  valueId : String
  backendName : String
  stopId : StopId
  deriving DecidableEq, Repr

inductive TrackingDefinition where
  | expression (trackingId expression : String) (maxValueBytes : ℕ)
  | memory (trackingId addressExpression : String) (length maxHistory : ℕ)
  deriving DecidableEq, Repr

namespace TrackingDefinition

/-- `TrackingDefinition::id`. -/
def id : TrackingDefinition → String
  | .expression trackingId .. | .memory trackingId .. => trackingId

/-- The memory a definition reserves. -/
def memoryLength : TrackingDefinition → ℕ
  | .expression .. => 0
  | .memory _ _ length _ => length

/-- The longest history of a definition. -/
def maximum : TrackingDefinition → ℕ
  | .expression .. => 32
  | .memory _ _ _ maxHistory => max 1 (min maxHistory 256)

end TrackingDefinition

/-- `PendingModuleBreakpoint`. -/
structure PendingModuleBreakpoint where
  id : BreakpointId
  backendNumber : String
  module : String
  offset : ℕ
  enabled : Bool
  command : MiCommand
  deriving DecidableEq, Repr

/-! ### Requests -/

inductive OperationCancelMode where
  | interruptTarget | closeSession
  deriving DecidableEq, Repr

/-- `WorkerRequest`.  `ReadOutput` and `ResizeInferior` reach neither the journal nor GDB's
input and are left out. -/
inductive WorkerRequest where
  | command (command : MiCommand) (operation : Option ActiveOperation) (deadline : ℕ)
  | transaction (before : List MiCommand) (command : MiCommand) (after : List MiCommand)
      (operation : Option ActiveOperation) (deadline : ℕ)
  | safeEvaluate (commands : List MiCommand) (operation : Option ActiveOperation) (deadline : ℕ)
  | recordEvent (event : DomainEvent)
  | registerPendingModuleBreakpoint (breakpoint : PendingModuleBreakpoint)
  | getOperation (operationId : String)
  | flushJournal
  | refreshTargetCapabilities (operation : Option ActiveOperation) (deadline : ℕ)
  | registerValue (binding : ValueBinding)
  | getValue (valueId : String)
  | removeValue (valueId : String)
  | addTracking (definition : TrackingDefinition)
  | removeTracking (trackingId : String)
  | listTracking
  | recordTracking (observations : List (String × String)) (expectedStopId : StopId)
      (expectedExecutionEpoch : ℕ) (operation : Option ActiveOperation)
  | commitSnapshot (content : String) (expectedStopId : StopId) (expectedExecutionEpoch : ℕ)
      (partialRead publishSnapshot : Bool) (operation : Option ActiveOperation)
  | writeInferior (bytes : Bytes) (eof : Bool) (deadline : ℕ)

/-- `ControlRequest`. -/
inductive ControlRequest where
  | recordOperation (operation : OperationRecord)
  | recordApi (request : String)
  | interrupt (command : MiCommand) (deadline : ℕ)
  | cancelOperation (operationId : String) (mode : OperationCancelMode)
  | close

/-- `BackendInput`. -/
inductive BackendInput where
  | mi (raw : Bytes) (record : MiRecord)
  | protocolError (error : Error)
  | gdbStderr (bytes : Bytes)
  | inferiorPty
  | gdbEof

/-- What the worker takes from its channels and timers, in the order in which it takes it. -/
inductive Arrival where
  /-- The journal's flush interval has passed. -/
  | tick
  /-- A deadline the worker sleeps for has passed. -/
  | wake
  | control (request : Option ControlRequest)
  | request (request : Option WorkerRequest)
  | backend (input : Option BackendInput)

/-- What the worker sends back on the channel of a request or control. -/
inductive Response where
  | done (result : Except Error Unit)
  | reply (result : Except Error CommandReply)
  | replies (result : Except Error (List (Except Error CommandReply)))
  | operation (result : Except Error OperationRecord)
  | value (result : Except Error ValueBinding)
  | tracking (result : Except Error TrackingDefinition)
  | trackings (definitions : List TrackingDefinition)
  | changes (result : Except Error (List (String × String × String)))
  | snapshot (result : Except Error Snapshot)
  | written (result : Except Error ℕ)

end GdbAi
