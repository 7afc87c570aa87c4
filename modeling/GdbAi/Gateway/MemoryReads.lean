import GdbAi.Gateway.CommandContext
import GdbAi.Gateway.Policy
import GdbAi.Library.Procedure

/-!
# The routes of a memory read

Every way in which a request makes the gateway read memory of the target: `memory.read`,
`memory.compare` and the precondition of `memory.write` (`gateway/operations/memory.rs`),
inspection views and plans with the tracked memory (`inspection.rs`), and the captures of a probe
(`agent.rs`).  A request runs against a host that answers every evaluation and every read, and that
may change between any two of its steps; what the request evaluates, classifies and reads is
recorded in order.
-/

namespace GdbAi

open Procedure

/-! ### The host of a request -/

/-- One step of a request. -/
inductive MemoryAccess where
  /-- An expression was evaluated. -/
  | evaluated (expression : String)
  /-- `classify_memory_range` gave the effect of a range. -/
  | classified (start length : ℕ) (effect : MemoryRangeEffect)
  /-- A range was read, at an address of the request or computed from it. -/
  | read (start length : ℕ)
  /-- A range was read at an address that was found in the image of a kernel. -/
  | readImage (start length : ℕ)
  /-- A step that reads no memory: a lookup, a fence, a command, a wait or a record. -/
  | other
  deriving DecidableEq, Repr

/-- What does not change while a request runs. -/
structure MemoryLimits where
  /-- The profile of the session. -/
  profile : Profile
  /-- `limits.memory_read_bytes`. -/
  maximum : ℕ
  /-- `limits.stack_frames`. -/
  stackFrames : ℕ
  /-- `limits.tool_response_bytes`. -/
  responseBytes : ℕ

/-- What a request runs against.  The answers may depend on all steps made so far. -/
structure MemoryHost extends MemoryLimits where
  /-- The state of the session. -/
  state : List MemoryAccess → SessionState
  /-- The text of `/proc/{pid}/maps`. -/
  maps : List MemoryAccess → ℕ → Option String
  /-- The field `value` of the reply to an evaluation. -/
  value : List MemoryAccess → Except Error (Option String)
  /-- The outcome of a read. -/
  contents : List MemoryAccess → Except Error Unit
  /-- The definitions of the session. -/
  tracking : List MemoryAccess → List TrackingDefinition
  /-- The number of bytes that `input_bytes` finds among the parameters of a write. -/
  inputBytes : Json → Except Error ℕ
  /-- The banners that a search of the kernel image finds. -/
  banners : List MemoryAccess → List (ℕ × ℕ)
  /-- The outcome of a step that reads no memory. -/
  proceeds : List MemoryAccess → Except Error Unit

/-- A part of a request. -/
abbrev Access := Procedure MemoryHost (List MemoryAccess) Error

namespace Access

/-- A step is recorded. -/
def record (step : MemoryAccess) : Access Unit := update (· ++ [step])

/-- A step that reads no memory. -/
def step : Access Unit := do
  record .other
  ofExcept (← reads MemoryHost.proceeds)

/-- The state of the session at this moment. -/
def sessionState : Access SessionState := reads MemoryHost.state

/-! ### Texts of addresses -/

/-- A word without the parentheses and commas around it. -/
def trimWord (word : List Char) : List Char :=
  let keeps := fun c : Char => c = '(' || c = ')' || c = ','
  ((word.dropWhile keeps).reverse.dropWhile keeps).reverse

/-- The number of a word with the lead `0x`. -/
def hexWord (word : List Char) : Option ℕ :=
  match trimWord word with
  | '0' :: 'x' :: digits => fromStrRadix 16 digits
  | _ => none

/-- `parse_address`. -/
def parseAddress (value : String) : Except Error ℕ :=
  let words := splitWords value.toList
  let first := trimWord (words.headD value.toList)
  let number := match first with
    | '0' :: 'x' :: digits => fromStrRadix 16 digits
    | digits => fromStrRadix 10 digits
  let found := number <|>
    if first.head? = some '{' then words.tail.findSome? hexWord else none
  match found with
  | some number => .ok number
  | none => .error { code := .gdbError, message := "invalid GDB address: " ++ value }

/-- `format!("0x{address:x}")`. -/
def addressText (address : ℕ) : String := "0x" ++ String.ofList (Nat.toDigits 16 address)

/-! ### Fields of the parameters -/

/-- `string` of `request.rs`. -/
def requiredString (parameters : Json) (name : String) : Except Error String :=
  match (parameters.get name).bind Json.asStr with
  | some text =>
    if text ≠ "" then .ok text
    else .error { code := .invalidArgument, message := name ++ " is required" }
  | none => .error { code := .invalidArgument, message := name ++ " is required" }

/-- `unsigned` of `request.rs`. -/
def requiredUnsigned (parameters : Json) (name : String) : Except Error ℕ :=
  match (parameters.get name).bind Json.asUnsigned with
  | some number => .ok number
  | none => .error { code := .invalidArgument, message := name ++ " must be unsigned" }

/-- `bounded_limit`. -/
def boundedLimit (parameters : Json) (default maximum : ℕ) : Except Error ℕ := do
  let limit := ((parameters.get "limit").bind Json.asUnsigned).getD default
  ensure (limit ≠ 0 && limit ≤ maximum) ("limit must be between 1 and " ++ toString maximum)
  .ok limit

/-- The error for a target that is not stopped. -/
def notStopped (state : SessionState) : Error :=
  let inferiors := state.inferiors.toList.map Prod.snd
  if inferiors ≠ [] && inferiors.all fun inferior => inferior.status = .exited then
    { code := .targetExited, message := "inspection target has exited" }
  else { code := .targetRunning, message := "inspection requires stopped target" }

/-- `require_stopped_context`. -/
def requireStoppedContext (parameters : Json) (state : SessionState) : Except Error Unit :=
  match state.stopId with
  | none => .error (notStopped state)
  | some stop =>
    match (parameters.get "stop_id").bind Json.asStr with
    | some expected =>
      if stop.text = expected then .ok ()
      else .error { code := .staleContext,
                    message := "context belongs to " ++ expected ++ ", current stop is Some(StopId(\""
                      ++ stop.text ++ "\"))" }
    | none =>
      if (parameters.get "accept_current_stop").bind Json.asBool = some true then .ok ()
      else .error { code := .staleContext,
                    message := "inspection requires stop_id (current is " ++ stop.text ++ ")" }

/-- The session is stopped as the parameters say; the state it was found in. -/
def stoppedState (parameters : Json) : Access SessionState := do
  let state ← sessionState
  ofExcept (requireStoppedContext parameters state)
  return state

/-- `observation_context` resolves the selectors of the parameters. -/
def resolveContext (parameters : Json) : Access Unit := do
  let state ← sessionState
  let _ ← ofExcept (state.requestObservation parameters)

/-- The command that evaluates an expression in the context of the parameters. -/
def evaluationCommand (state : SessionState) (parameters : Json) (expression : String) :
    Except Error MiCommand := do
  let command ← MiCommand.new "-data-evaluate-expression"
  state.contextOptions (command.string (utf8 expression)) parameters

/-! ### Classification and reading -/

/-- `classify_memory_range` for the session. -/
def classifyMemoryRange (parameters : Json) (addressField : String) :
    Access MemoryRangeEffect := do
  let (start, length) ← ofExcept (memoryRange parameters addressField)
  let state ← sessionState
  let pid := (state.inferiors.toList.map Prod.snd).findSome? InferiorState.pid
  let maps ← reads MemoryHost.maps
  let effect := rangeEffect state.targetOrigin pid maps start length
  record (.classified start length effect)
  return effect

/-- `authorize_observation_memory`. -/
def authorizeObservationMemory (parameters : Json) : Access Unit := do
  let effect ← classifyMemoryRange parameters "address"
  let profile ← reads fun host _ => host.profile
  onlyIf (effect ≠ .ordinary)
    (ofExcept (profile.authorizeMethod .memoryRead .volatileTargetRead))

/-- `read_memory_bytes`: the range is checked before the first chunk. -/
def readMemoryBytes (start length : ℕ) : Access Unit := do
  ofExcept (ensure (start + (length - 1) < 2 ^ 64) "memory range overflows address space")
  record (.read start length)
  ofExcept (← reads MemoryHost.contents)

/-- An expression evaluated to an address; `missing` is the error for a reply without a value. -/
def evaluateAddress (expression missing : String) : Access ℕ := do
  record (.evaluated expression)
  match ← ofExcept (← reads MemoryHost.value) with
  | some value => ofExcept (parseAddress value)
  | none => fail { code := .gdbError, message := missing }

/-- The encoding of a read is one of the two. -/
def checkEncoding (parameters : Json) : Except Error Unit :=
  match parameters.get "encoding" with
  | none | some (.string "hex") | some (.string "base64") => .ok ()
  | some _ => .error { code := .invalidArgument, message := "memory encoding must be hex or base64" }

/-- `memory_read`. -/
def memoryRead (parameters : Json) : Access Unit := do
  ofExcept (checkEncoding parameters)
  step
  let state ← stoppedState parameters
  let length ← ofExcept (requiredUnsigned parameters "length")
  let maximum ← reads fun host _ => host.maximum
  ofExcept (ensure (length ≠ 0 && length ≤ maximum)
    ("memory length must be between 1 and " ++ toString maximum))
  step
  let address ← match (parameters.get "address_expression").bind Json.asStr with
    | some expression => do
      ofExcept (validateExpression expression)
      let _ ← ofExcept (evaluationCommand state parameters expression)
      evaluateAddress expression "address expression returned no value"
    | none => do
      let text ← ofExcept (requiredString parameters "address")
      ofExcept (Address.parse text)
  readMemoryBytes address length
  step

/-- `memory_compare`. -/
def memoryCompare (parameters : Json) : Access Unit := do
  step
  let _ ← stoppedState parameters
  let text ← ofExcept (requiredString parameters "address")
  let address ← ofExcept (Address.parse text)
  let length ← ofExcept (requiredUnsigned parameters "length")
  let maximum ← reads fun host _ => host.maximum
  ofExcept (ensure (length ≠ 0 && length ≤ maximum)
    "memory comparison length is outside configured limits")
  readMemoryBytes address length
  step

/-- `memory_write`, which reads as many bytes as it writes. -/
def memoryWrite (parameters : Json) : Access Unit := do
  step
  let _ ← stoppedState parameters
  let text ← ofExcept (requiredString parameters "address")
  let address ← ofExcept (Address.parse text)
  let bytes ← ofExcept (← reads fun host _ => host.inputBytes parameters)
  ofExcept (ensure (bytes ≠ 0 && bytes ≤ 64 * 1024) "memory writes must contain 1 to 65536 bytes")
  step
  readMemoryBytes address bytes
  step

/-! ### Observations -/

/-- The parameters with the address in place of the expression. -/
def withAddress (parameters : Json) (address : ℕ) : Json :=
  .object (Json.set (Json.erase (parameters.asObject.getD []) "address_expression") "address"
    (.string (addressText address)))

/-- The parameters with their expression evaluated. -/
def resolveAddress (state : SessionState) (parameters : Json) : Access Json :=
  match (parameters.get "address_expression").bind Json.asStr with
  | some expression => do
    let _ ← ofExcept (evaluationCommand state parameters expression)
    let address ← evaluateAddress expression "address expression returned no value"
    return withAddress parameters address
  | none => return parameters

/-- `observation_memory_read_with_entry`. -/
def observationMemoryRead (parameters : Json) : Access Unit := do
  let state ← stoppedState parameters
  step
  let resolved ← resolveAddress state parameters
  authorizeObservationMemory resolved
  memoryRead resolved

/-- An independent failure of a read is kept beside the others; any other error ends them all. -/
def tolerate (m : Access Unit) : Access Unit := do
  match ← attempt m with
  | .ok () => pure ()
  | .error error => if error.code.isIndependentReadFailure then pure () else fail error

/-- The capture of one definition. -/
def captureDefinition : TrackingDefinition → Access Unit
  | .expression _ expression _ => do
    tolerate do
      record (.evaluated expression)
      let _ ← ofExcept (← reads MemoryHost.value)
    step
  | .memory _ addressExpression length _ => do
    tolerate do
      let address ← evaluateAddress addressExpression
        "tracked address expression returned no value"
      authorizeObservationMemory (.object
        [("address", .string (addressText address)), ("length", .unsigned length)])
      readMemoryBytes address length
    step

/-- `capture_tracking`. -/
def captureTracking : Access Unit := do
  step
  forEach (← reads MemoryHost.tracking) captureDefinition
  step

/-- `inspection_tracking`. -/
def inspectionTracking (parameters : Json) : Access Unit := do
  let _ ← stoppedState parameters
  step
  captureTracking

section Capture

-- `inspection_result` captures a plan itself for the view `crash`.
variable (inspectionResult : Json → Access Unit)

/-- `execute_observation`. -/
def executeObservation (request : ObservationRequest) : Access Unit :=
  match request.kind with
  | .inspection => inspectionResult request.parameters
  | .memory => do
    step
    resolveContext request.parameters
    observationMemoryRead request.parameters
  | .evaluate | .disassembly | .diff => step

/-- The loop of `capture_observations`; `cache` holds the keys of the outcomes so far. -/
def captureRequests : List ObservationRequest → List String → Access Unit
  | [], _ => step
  | request :: requests, cache => do
    step
    if request.cacheable && cache.contains request.cacheKey then captureRequests requests cache
    else do
      tolerate (executeObservation inspectionResult request)
      captureRequests requests
        (if request.cacheable then request.cacheKey :: cache else cache)

/-- `capture_observations` at the stop of `baseline`. -/
def captureObservations (parent : Json) (baseline : SessionState) (items : Json) :
    Access Unit := do
  match baseline.stopId with
  | none => fail { code := .targetRunning, message := "observation requires stopped target" }
  | some stopId =>
    let maximum ← reads fun host _ => host.maximum
    let requests ← ofExcept (parseObservationRequests items stopId maximum parent)
    step
    captureRequests inspectionResult requests []
    step

/-- The item of a view in the plan of a profile. -/
def profileItem (view : String) (fields : List (String × Json)) : Json :=
  .object ([("view", .string view)] ++ fields ++ [("name", .string ("@snapshot." ++ view))])

/-- The fields among `names` that the parameters have. -/
def givenFields (parameters : Json) (names : List String) : List (String × Json) :=
  names.filterMap fun name => (parameters.get name).map fun value => (name, value)

/-- What the profile `brief` adds to the disassembly. -/
def briefFields (fields : List (String × Json)) : List (String × Json) :=
  let around := if Json.hasField fields "around" || Json.hasField fields "range" then [] else
    [("around", Json.object [("expression", .string "$pc"), ("before_instructions", .unsigned 4),
      ("after_instructions", .unsigned 4)])]
  let source := if Json.hasField fields "include_source" then [] else
    [("include_source", Json.bool false)]
  fields ++ around ++ source

/-- `snapshot_requests`. -/
def snapshotRequests (parameters : Json) (profile : String) (frames : ℕ) : Json :=
  let disassembly := givenFields parameters ["around", "range", "include_bytes", "include_source"]
  let details := if profile = "minimal" then [] else [
    profileItem "locals" [],
    profileItem "registers" (("profile", .string profile) :: givenFields parameters ["roles"]),
    profileItem "disassembly" (if profile = "brief" then briefFields disassembly else disassembly)]
  let planned := if profile = "custom" then [] else
    [profileItem "stack" [("limit", .unsigned frames)]] ++ details ++ [profileItem "tracked" []]
  .array (planned ++ ((parameters.get "inspect").bind Json.asArray).getD [])

/-- The profile of a snapshot. -/
def snapshotProfile (parameters : Json) : String :=
  ((parameters.get "profile").bind Json.asStr).getD
    (if (parameters.get "inspect").isSome then "custom" else "standard")

/-- The frames a profile captures. -/
def snapshotFrames (parameters : Json) (stackFrames : ℕ) : String → Except Error ℕ
  | "minimal" => .ok 1
  | "brief" => .ok 3
  | "standard" => .ok 8
  | "custom" => .ok 0
  | "deep" => boundedLimit parameters 8 stackFrames
  | _ => .error { code := .invalidArgument, message := "unknown snapshot profile" }

/-- `inspection_snapshot`. -/
def inspectionSnapshot (parameters : Json) : Access Unit := do
  step
  let state ← stoppedState parameters
  let host ← reads fun host _ => host
  let profile := snapshotProfile parameters
  let frames ← ofExcept (snapshotFrames parameters host.stackFrames profile)
  let requests := snapshotRequests parameters profile frames
  ofExcept (validateObservationRequests requests host.maximum)
  step
  match ← attempt (captureObservations inspectionResult parameters state requests) with
  | .ok () => step
  | .error error => do
    step
    fail error

/-- `inspection_batch`. -/
def inspectionBatch (parameters : Json) : Access Unit := do
  step
  let baseline ← stoppedState parameters
  match parameters.get "requests" with
  | none => fail { code := .invalidArgument, message := "batch requests are required" }
  | some requests => captureObservations inspectionResult parameters baseline requests

/-- `append_stop_observations`: an error is reported beside the result of the turn. -/
def appendStopObservations (parameters : Json) : Access Unit := do
  match parameters.get "inspect" with
  | none => pure ()
  | some requests => do
    let state ← sessionState
    if state.stopId.isSome then do
      let _ ← attempt do
        step
        captureObservations inspectionResult parameters state requests
    else pure ()

end Capture

/-- A view; `crash` is the one that captures a plan. -/
def inspectionView (crash : Access Unit) (parameters : Json) (view : String) : Access Unit :=
  if view = "crash" then crash
  else if view = "memory" then observationMemoryRead parameters
  else if view = "tracked" then inspectionTracking parameters
  else step

/-- `inspection_result`.  An item of a plan has no field `inspect`, so a crash view inside a plan
captures the plan of its profile only, which has no crash view: a depth of two is never used up. -/
def inspectionResult : ℕ → Json → Access Unit
  | 0, parameters => do
    let view ← ofExcept (requiredString parameters "view")
    inspectionView step parameters view
  | depth + 1, parameters => do
    let view ← ofExcept (requiredString parameters "view")
    inspectionView (inspectionSnapshot (inspectionResult depth) parameters) parameters view

/-! ### Probes -/

/-- The fields of `ObservationBudget` that the captures read. -/
structure ProbeBudget where
  maxCalls : ℕ := 32
  maxValues : ℕ := 16
  maxMemoryBytes : ℕ := 64 * 1024
  deriving DecidableEq, Repr

/-- A field of the budget. -/
def budgetField (parameters : Json) (name : String) (default : ℕ) : ℕ :=
  (((parameters.get "budget").bind fun budget => budget.get name).bind Json.asUnsigned).getD default

/-- The budget of a request and `ObservationBudget::validate`. -/
def probeBudget (parameters : Json) (limits : MemoryLimits) : Except Error ProbeBudget := do
  let within := fun (name : String) (default maximum : ℕ) =>
    let value := budgetField parameters name default
    value ≠ 0 && value ≤ maximum
  ensure (within "max_calls" 32 256 && within "max_frames" 16 limits.stackFrames &&
      within "max_values" 16 1000 && within "max_memory_bytes" (64 * 1024) limits.maximum &&
      within "max_instructions" 64 1024 &&
      within "max_context_bytes" (64 * 1024) limits.responseBytes &&
      within "wall_time_ms" 10000 60000)
    "observation budget is outside configured limits"
  .ok { maxCalls := budgetField parameters "max_calls" 32
        maxValues := budgetField parameters "max_values" 16
        maxMemoryBytes := budgetField parameters "max_memory_bytes" (64 * 1024) }

/-- The error of a probe that has used up its calls. -/
def callsExhausted : Error where
  code := .outputLimit
  message := "probe exhausted its debugger-call budget"

/-- The capture of memory at a hit: no range is classified here. -/
def captureProbeMemory (budget : ProbeBudget) (memory : Json) (calls : ℕ) : Access ℕ := do
  let expression ← ofExcept (requiredString memory "address_expression")
  ofExcept (validateExpression expression)
  let length ← ofExcept (requiredUnsigned memory "length")
  if length = 0 || length > budget.maxMemoryBytes then
    fail { code := .outputLimit, message := "probe memory capture exceeds max_memory_bytes" }
  else do
    let readCalls := (length + (64 * 1024 - 1)) / (64 * 1024)
    if calls + (1 + readCalls) > budget.maxCalls then fail callsExhausted
    else do
      let address ← evaluateAddress expression "probe address expression returned no value"
      readMemoryBytes address length
      return calls + 1 + readCalls

/-- One item of a capture; `calls` debugger calls have been made. -/
def captureProbeItem (budget : ProbeBudget) (item : Json) (calls : ℕ) : Access ℕ :=
  if calls ≥ budget.maxCalls then fail callsExhausted
  else match (item.get "expression").bind Json.asStr, item.get "stack", item.get "memory" with
    | some expression, _, _ => do
      ofExcept (validateExpression expression)
      record (.evaluated expression)
      let _ ← ofExcept (← reads MemoryHost.value)
      return calls + 1
    | none, some _, _ => do
      step
      return calls + 1
    | none, none, some memory => captureProbeMemory budget memory calls
    | none, none, none =>
      fail { code := .invalidArgument,
             message := "capture items require expression, stack, or memory" }

/-- The loop of `capture_probe_observation`. -/
def captureProbeItems (budget : ProbeBudget) : List Json → ℕ → Access ℕ
  | [], calls => return calls
  | item :: items, calls => do
    let calls ← captureProbeItem budget item calls
    captureProbeItems budget items calls

/-- The items of a capture. -/
def captureItems (parameters : Json) : List Json :=
  ((parameters.get "capture").bind Json.asArray).getD
    [.object [("stack", .object [("limit", .unsigned 4)])]]

/-- `capture_probe_observation`. -/
def captureProbeObservation (parameters : Json) (budget : ProbeBudget) (calls : ℕ) :
    Access ℕ := do
  let items := captureItems parameters
  if items.length > budget.maxValues then
    fail { code := .outputLimit, message := "probe capture plan exceeds max_values" }
  else captureProbeItems budget items calls

/-- The hits of a probe: each is resumed to, if the target is not running already, and captured. -/
def probeHits (parameters : Json) (budget : ProbeBudget) (onCondition : Bool) :
    ℕ → ℕ → Access Unit
  | 0, _ => return ()
  | hits + 1, calls => do
    let baseline ← sessionState
    let running := (baseline.inferiors.toList.map Prod.snd).any fun inferior =>
      inferior.status = .running
    if !running && calls ≥ budget.maxCalls then fail callsExhausted
    else do
      step
      let calls ← captureProbeObservation parameters budget (if running then calls else calls + 1)
      if onCondition then return () else probeHits parameters budget onCondition hits calls

/-- A plan among the parameters is checked before the target is touched. -/
def validateInspect (parameters : Json) (maximum : ℕ) : Except Error Unit :=
  match parameters.get "inspect" with
  | some inspect => validateObservationRequests inspect maximum
  | none => .ok ()

/-- The policies of a probe. -/
def stopPolicies : List String := ["on_condition", "continue_after_capture", "continue_to_stop"]

/-- The policy of the probe. -/
def probeStopPolicy (parameters : Json) : String :=
  ((parameters.get "stop_policy").bind Json.asStr).getD "on_condition"

/-- `agent_probe`. -/
def agentProbe (parameters : Json) : Access Unit := do
  let limits ← reads fun host _ => host.toMemoryLimits
  ofExcept (validateInspect parameters limits.maximum)
  step
  let budget ← ofExcept (probeBudget parameters limits)
  let maxHits := max 1 (min 100 (((parameters.get "max_hits").bind Json.asUnsigned).getD 1))
  let stopPolicy := probeStopPolicy parameters
  ofExcept (ensure (stopPolicy ∈ stopPolicies)
    "stop_policy must be on_condition, continue_after_capture, or continue_to_stop")
  step
  let outcome ← attempt do
    probeHits parameters budget (stopPolicy = "on_condition") maxHits 1
    onlyIf (stopPolicy ≠ "continue_to_stop")
      (appendStopObservations (inspectionResult 2) parameters)
  step
  ofExcept outcome
  onlyIf (stopPolicy = "continue_to_stop") do
    step
    appendStopObservations (inspectionResult 2) (.object (givenFields parameters ["inspect"]))
  step

/-! ### Requests -/

/-- `kernel_inspect`: the version is read where a search finds its banner in the kernel image. -/
def kernelInspect (parameters : Json) : Access Unit := do
  step
  let _ ← stoppedState parameters
  step
  forEach (← reads MemoryHost.banners) fun (start, length) => do
    record (.readImage start length)
    ofExcept (← reads MemoryHost.contents)
  step

/-- A read whose result is attributed to the context of the request. -/
def attributed (m : Access Unit) (parameters : Json) : Access Unit := do
  m
  step
  resolveContext parameters

/-- The operation of a method, as far as it reads memory. -/
def operation (request : ApiRequest) : Access Unit :=
  match request.method with
  | .memoryRead => attributed (memoryRead request.parameters) request.parameters
  | .memoryCompare => attributed (memoryCompare request.parameters) request.parameters
  | .memoryWrite => memoryWrite request.parameters
  | .inspectionGet => inspectionResult 2 request.parameters
  | .inspectionSnapshot => inspectionSnapshot (inspectionResult 2) request.parameters
  | .inspectionBatch => inspectionBatch (inspectionResult 2) request.parameters
  | .targetLaunch | .targetRestart | .executionControl | .executionWait => do
    step
    appendStopObservations (inspectionResult 2) request.parameters
  | .agentProbe | .agentExperiment => agentProbe request.parameters
  | .kernelInspect => kernelInspect request.parameters
  | _ => step

/-- The effect of a request, with the range of a read classified for the profiles that may not
read volatile memory. -/
def admittedEffect (request : ApiRequest) : Access Effect := do
  let profile ← reads fun host _ => host.profile
  let classifies := request.method = .memoryRead || request.method = .memorySearch ||
    request.method = .memoryCompare
  if classifies && profile ≠ .labMutation && profile ≠ .rawAdmin then do
    let effect ← classifyMemoryRange request.parameters
      (if request.method = .memorySearch then "start" else "address")
    return if effect ≠ .ordinary then .volatileTargetRead else effectForRequest request
  else return effectForRequest request

/-- `dispatch_checked`: a request is validated, classified and authorized before it runs. -/
def dispatch (request : ApiRequest) (caller : Caller) : Access Unit := do
  ofExcept (request.method.validateParameters request.parameters)
  step
  let effect ← admittedEffect request
  let profile ← reads fun host _ => host.profile
  if profile = .rawAdmin && !caller.admin then
    fail { code := .policyDenied,
           message := "raw_admin requires an authenticated administrative caller" }
  else do
    ofExcept (profile.authorizeMethod request.method effect)
    step
    operation request

end Access

/-- The steps of a request, in order. -/
def ApiRequest.accesses (request : ApiRequest) (caller : Caller) (host : MemoryHost) :
    List MemoryAccess :=
  (Access.dispatch request caller host []).2

end GdbAi
