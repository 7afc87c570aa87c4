import GdbAi.Library.Json
import GdbAi.Session.Protocol

/-!
# The context of a command

`resolve_command_context` of `gdb-ai-core/src/gateway/operations/context.rs`: the public handles
among the parameters of a request select a backend thread and a frame level.  A frame handle is
found by comparing it with the handles of every registered thread at the current stop.
`context_options` and `observation_context` resolve the same selectors, the one for a command, the
other for the response.
-/

namespace GdbAi

/-- The selectors among the parameters of a request. -/
structure ContextParameters where
  inferiorId : Option String := none
  threadId : Option String := none
  frameId : Option String := none
  frameLevel : Option ℕ := none

structure ObservationContext where
  observationId : Option String
  stopId : StopId
  capturedRevision : ℕ
  executionEpoch : ℕ
  inferiorId : Option InferiorId
  threadId : Option ThreadId
  frameId : Option FrameId
  deriving DecidableEq, Repr

structure CommandContext where
  backendThread : Option String
  defaultThread : Option String
  frameLevel : Option ℕ
  observation : Option ObservationContext
  deriving DecidableEq, Repr

/-- What `find_map` does with one thread: the level behind the thread's handle at this stop. -/
def decodeFrame (stop : StopId) (frame : String) (thread : ThreadState) : Option (String × ℕ) :=
  let lead := String.ofList (FrameId.new thread.id stop 0).text.toList.dropLast
  (stripPrefix lead frame).bind fun level =>
    (parseUnsigned (2 ^ 64) (String.ofList level)).map fun level => (thread.backendId, level)

namespace SessionState

/-- The registered threads, in the order of the registries. -/
def allThreads (s : SessionState) : List ThreadState :=
  s.inferiors.toList.flatMap fun entry => entry.2.threads.toList.map Prod.snd

/-- `current_backend_thread`. -/
def currentBackendThread (s : SessionState) (publicThread : String) : Except Error String :=
  match s.allThreads.find? fun thread => thread.id.text = publicThread with
  | some thread => .ok thread.backendId
  | none => .error ⟨.staleContext, "thread handle is not current", false⟩

/-- `ObservationContext::from_state`. -/
def observationContext (s : SessionState) : Option ObservationContext := do
  let stopId ← s.stopId
  return {
    observationId := none
    stopId := stopId
    capturedRevision := s.revision
    executionEpoch := s.executionEpoch
    inferiorId := s.stoppedInferiorId
    threadId := s.stoppedThreadId
    frameId := do return FrameId.new (← s.stoppedThreadId) stopId (← s.stoppedFrame).level }

/-- The thread and the level of the frame handle, with the level that was asked for. -/
def resolveFrame (s : SessionState) (parameters : ContextParameters) :
    Except Error (Option String × Option ℕ) :=
  match parameters.frameId with
  | none => .ok (none, parameters.frameLevel)
  | some frame =>
    match s.stopId with
    | none => .error ⟨.targetRunning, "frame requires a stopped target", false⟩
    | some stop =>
      match s.allThreads.findSome? (decodeFrame stop frame) with
      | none => .error ⟨.staleContext, "frame handle is not current for this stop", false⟩
      | some (backendThread, level) =>
        if parameters.frameLevel.any fun requested => requested ≠ level then
          .error ⟨.staleContext, "frame_id and frame_level disagree", false⟩
        else .ok (some backendThread, some level)

/-- The thread of the stop, or the only thread of the stopped inferior. -/
def resolveDefaultThread (s : SessionState) : Except Error (Option String) :=
  match s.stoppedThreadId with
  | some thread => (s.currentBackendThread thread.text).map some
  | none => .ok do
      let stopped ← s.stoppedInferiorId
      let (_, inferior) ← s.inferiors.first fun _ inferior => inferior.id = stopped
      match inferior.threads.toList with
      | [(_, thread)] => some thread.backendId
      | _ => none

/-- Whether an inferior has a thread of this backend name. -/
def hasThread (inferior : InferiorState) (backendThread : String) : Bool :=
  inferior.threads.anyEntry fun _ thread => thread.backendId = backendThread

/-- The thread that an inferior handle selects, checked against the thread selected before. -/
def selectInferior (s : SessionState) (inferiorId : String)
    (backendThread defaultThread : Option String) : Except Error (Option String) :=
  match s.inferiors.first fun _ inferior => inferior.id.text = inferiorId with
  | none => .error ⟨.staleContext, "inferior handle is not current", false⟩
  | some (_, inferior) =>
    match backendThread with
    | some thread =>
      if hasThread inferior thread then .ok (some thread)
      else .error ⟨.staleContext, "inferior and thread handles disagree", false⟩
    | none =>
      if defaultThread.any (hasThread inferior) then .ok defaultThread
      else match inferior.threads.toList with
        | [(_, thread)] => .ok (some thread.backendId)
        | _ => .error ⟨.staleContext, "inferior selection requires an explicit thread", false⟩

/-- The selected thread, with the inferior handle taken into account. -/
def selectThread (s : SessionState) (parameters : ContextParameters)
    (backendThread defaultThread : Option String) : Except Error (Option String) :=
  match parameters.inferiorId with
  | none => .ok backendThread
  | some inferiorId => s.selectInferior inferiorId backendThread defaultThread

/-- The first thread of a backend name, with its inferior. -/
def findThread (s : SessionState) (backendThread : String) :
    Option (InferiorState × ThreadState) :=
  s.inferiors.toList.findSome? fun entry =>
    (entry.2.threads.first fun _ thread => thread.backendId = backendThread).map fun thread =>
      (entry.2, thread.2)

/-- The context of the observation, with the handles of what is selected. -/
def observationOf (s : SessionState) (selected : Option String) (level : ℕ) :
    Option ObservationContext :=
  match s.observationContext, selected.bind s.findThread with
  | some context, some (inferior, thread) => some { context with
      inferiorId := some inferior.id
      threadId := some thread.id
      frameId := some (FrameId.new thread.id context.stopId level) }
  | context, _ => context

/-- The thread of the thread handle. -/
def requestedThread (s : SessionState) (parameters : ContextParameters) :
    Except Error (Option String) :=
  match parameters.threadId with
  | none => .ok none
  | some thread => (s.currentBackendThread thread).map some

/-- The thread and the frame handle name one thread. -/
def requireOneThread (requestedThread frameThread : Option String) : Except Error Unit :=
  match requestedThread, frameThread with
  | some requested, some frame =>
    if requested ≠ frame then
      .error ⟨.staleContext, "thread and frame handles refer to different threads", false⟩
    else .ok ()
  | _, _ => .ok ()

/-- The level as a `u32`. -/
def requireLevel (frameLevel : Option ℕ) : Except Error ℕ :=
  if frameLevel.getD 0 < 2 ^ 32 then .ok (frameLevel.getD 0)
  else .error ⟨.invalidArgument, "frame_level exceeds the supported frame range", false⟩

/-- `resolve_command_context`, without the cache of an observation scope. -/
def resolveCommandContext (s : SessionState) (parameters : ContextParameters) :
    Except Error CommandContext := do
  let requestedThread ← s.requestedThread parameters
  let (frameThread, frameLevel) ← s.resolveFrame parameters
  requireOneThread requestedThread frameThread
  let defaultThread ← s.resolveDefaultThread
  let backendThread ← s.selectThread parameters (requestedThread <|> frameThread) defaultThread
  let level ← requireLevel frameLevel
  return {
    backendThread := backendThread
    defaultThread := defaultThread
    frameLevel := frameLevel
    observation := s.observationOf (backendThread <|> defaultThread) level }

end SessionState

/-! ### The options of a command -/

/-- The selectors among the parameters of a request. -/
def ContextParameters.ofJson (parameters : Json) : ContextParameters where
  inferiorId := (parameters.get "inferior_id").bind Json.asStr
  threadId := (parameters.get "thread_id").bind Json.asStr
  frameId := (parameters.get "frame_id").bind Json.asStr
  frameLevel := (parameters.get "frame_level").bind Json.asUnsigned

/-- `command_uses_stop_focus`. -/
def commandUsesStopFocus (command : String) : Bool :=
  ["-exec-step", "-exec-next", "-exec-finish", "-exec-step-instruction", "-exec-next-instruction",
    "-exec-until", "-stack-info-frame", "-stack-list-frames", "-stack-list-variables",
    "-stack-list-arguments", "-data-evaluate-expression", "-interpreter-exec",
    "-data-list-register-values", "-var-create"].contains command

/-- `command_uses_top_frame`. -/
def commandUsesTopFrame (command : String) : Bool :=
  ["-stack-info-frame", "-stack-list-variables", "-data-evaluate-expression", "-interpreter-exec",
    "-data-list-register-values", "-var-create"].contains command

/-- Two bare arguments, if there is a value for the option. -/
def MiCommand.bareOption (command : MiCommand) (option : String) :
    Option String → Except Error MiCommand
  | none => .ok command
  | some value => do
    let command ← command.bare option
    command.bare value

/-- The thread a command is run in. -/
def CommandContext.threadFor (context : CommandContext) (command : String) : Option String :=
  context.backendThread <|> if commandUsesStopFocus command then context.defaultThread else none

/-- The level of the frame a command is run in. -/
def CommandContext.levelFor (context : CommandContext) (command : String) : Option ℕ :=
  context.frameLevel <|> if commandUsesTopFrame command then some 0 else none

/-- A command with the options of the context in front of its arguments. -/
def CommandContext.options (context : CommandContext) (command : MiCommand) :
    Except Error MiCommand := do
  let contextual ← MiCommand.new command.name
  let contextual ← contextual.bareOption "--thread" (context.threadFor command.name)
  let contextual ← contextual.bareOption "--frame" ((context.levelFor command.name).map toString)
  return { contextual with arguments := contextual.arguments ++ command.arguments }

namespace SessionState

/-- `SessionState::require_stop`. -/
def requireStop (s : SessionState) (stop : StopId) : Except Error Unit :=
  if s.stopId = some stop then .ok ()
  else
    let current := match s.stopId with
      | some current => "Some(StopId(\"" ++ current.text ++ "\"))"
      | none => "None"
    .error ⟨.staleContext, "context belongs to " ++ stop.text ++ ", current stop is " ++ current,
      false⟩

/-- The stop among the parameters, if there is one, is the current one. -/
def requireRequestedStop (s : SessionState) (parameters : Json) : Except Error Unit :=
  match (parameters.get "stop_id").bind Json.asStr with
  | some stop => s.requireStop ⟨stop⟩
  | none => .ok ()

/-- `context_options`. -/
def contextOptions (s : SessionState) (command : MiCommand) (parameters : Json) :
    Except Error MiCommand := do
  s.requireRequestedStop parameters
  let context ← s.resolveCommandContext (.ofJson parameters)
  context.options command

/-- `observation_context`. -/
def requestObservation (s : SessionState) (parameters : Json) :
    Except Error (Option ObservationContext) := do
  let context ← s.resolveCommandContext (.ofJson parameters)
  return context.observation

end SessionState

end GdbAi
