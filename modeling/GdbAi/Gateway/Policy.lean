import GdbAi.Gateway.Observation
import GdbAi.Session.Protocol

/-!
# Profiles, effects and memory ranges

`gdb-ai-core/src/policy.rs`: what a session of a profile may do, and the effect of each method; and
from `gdb-ai-core/src/gateway.rs` the classification of a memory range by the mappings of the
process (`classify_memory_range`).
-/

namespace GdbAi

/-! ### Effects -/

/-- `Effect`. -/
inductive Effect where
  | read | volatileTargetRead | control | targetMutation | hostMutation | network | raw
  deriving DecidableEq, Repr

/-- The debug text of an effect. -/
def Effect.debug : Effect → String
  | .read => "Read"
  | .volatileTargetRead => "VolatileTargetRead"
  | .control => "Control"
  | .targetMutation => "TargetMutation"
  | .hostMutation => "HostMutation"
  | .network => "Network"
  | .raw => "Raw"

/-- The debug text of a profile. -/
def Profile.debug : Profile → String
  | .offlineCore => "OfflineCore"
  | .liveObserver => "LiveObserver"
  | .debugControl => "DebugControl"
  | .labMutation => "LabMutation"
  | .rawAdmin => "RawAdmin"

/-- The effects a profile permits. -/
def Profile.permits : Profile → Effect → Bool
  | .offlineCore, effect | .liveObserver, effect => effect = .read
  | .debugControl, effect => effect = .read || effect = .control
  | .labMutation, effect =>
    effect = .read || effect = .volatileTargetRead || effect = .control ||
      effect = .targetMutation || effect = .network
  | .rawAdmin, _ => true

/-- `Profile::authorize`. -/
def Profile.authorize (profile : Profile) (effect : Effect) : Except Error Unit :=
  if profile.permits effect then .ok ()
  else .error { code := .policyDenied,
                message := "profile " ++ profile.debug ++ " does not permit effect " ++
                  effect.debug }

/-- The methods every profile may call. -/
def CanonicalMethod.unrestricted : CanonicalMethod → Bool
  | .sessionCreate | .sessionClose | .sessionForceAbort | .sessionAcquireWriteLease
  | .sessionReleaseWriteLease | .sessionHandoff | .sessionAttemptRecovery | .operationCancel =>
    true
  | _ => false

/-- `Profile::authorize_method`. -/
def Profile.authorizeMethod (profile : Profile) (method : CanonicalMethod) (effect : Effect) :
    Except Error Unit :=
  if method.unrestricted || (profile = .offlineCore && method = .targetOpenCore) then .ok ()
  else profile.authorize effect

/-- `effect_for_method`. -/
def effectForMethod : CanonicalMethod → Effect
  | .sessionGet | .sessionList | .sessionCapabilities | .sessionProviders | .sessionTranscript
  | .sessionEvent | .operationGet | .inspectionGet | .inspectionSnapshot | .inspectionDiff
  | .inspectionBatch | .inspectionSnapshotGet | .valueEvaluate | .valueChildren | .valueUpdate
  | .memoryRead | .memorySearch | .memoryCompare | .registerRead | .disassemblyRead
  | .inferiorIoRead | .executionWait | .trackingList | .breakpointList | .signalGet
  | .agentHypothesisCheck | .kernelInspect | .artifactGet | .eventsWait => .read
  | .operationCancel => .control
  | .targetConnectRemote => .network
  | .memoryWrite | .registerWrite | .inferiorIoWrite | .inferiorIoCloseStdin | .inferiorIoSendEof
  | .inferiorIoResize => .targetMutation
  | .rawMi | .rawConsole | .kernelMonitor => .raw
  | .targetLaunch | .targetAttach | .targetOpenCore | .targetDetach | .targetRestart | .targetKill
  | .executionControl | .breakpointCreate | .breakpointUpdate | .breakpointDelete
  | .trackingAddExpression | .trackingAddMemory | .trackingRemove | .signalUpdate | .agentProbe
  | .agentExperiment | .valueCreate | .valueRelease => .control
  | .sessionCreate | .sessionClose | .sessionForceAbort | .sessionAcquireWriteLease
  | .sessionReleaseWriteLease | .sessionHandoff | .sessionAttemptRecovery => .control

/-- The methods that may carry input for the inferior. -/
def CanonicalMethod.takesInput : CanonicalMethod → Bool
  | .executionControl | .executionWait | .agentProbe | .agentExperiment => true
  | _ => false

/-- `effect_for_request`. -/
def effectForRequest (request : ApiRequest) : Effect :=
  if request.method = .valueEvaluate &&
      (request.parameters.get "side_effects").bind Json.asStr = some "allow" then .targetMutation
  else if request.method.takesInput && (request.parameters.get "input").isSome then
    .targetMutation
  else effectForMethod request.method

/-! ### Numbers in texts -/

/-- `u64::from_str_radix` for a radix of at most sixteen. -/
def fromStrRadix (radix : ℕ) (value : List Char) : Option ℕ :=
  let digits := match value with
    | '+' :: rest => rest
    | characters => characters
  if digits ≠ [] && digits.all fun c => (hexDigitValue c).any fun digit => digit < radix then
    let number := digits.foldl (fun number c => number * radix + (hexDigitValue c).getD 0) 0
    if number < 2 ^ 64 then some number else none
  else none

/-- `str::split_whitespace`. -/
def splitWords (value : List Char) : List (List Char) :=
  (value.splitOnP isWhiteSpace).filter (· ≠ [])

/-! ### Memory ranges -/

/-- `MemoryRangeEffect`. -/
inductive MemoryRangeEffect where
  | ordinary | volatile | unknown
  deriving DecidableEq, Repr

/-- One line of the mappings of a process. -/
structure Mapping where
  first : ℕ
  last : ℕ
  device : Bool
  deriving DecidableEq, Repr

/-- The mapping on a line, `start-end perms offset dev inode path`; `last` is its exclusive end. -/
def Mapping.ofLine (line : List Char) : Option Mapping :=
  match splitWords line with
  | [] => none
  | range :: fields =>
    match range.span (· ≠ '-') with
    | (_, []) => none
    | (first, _ :: last) => do
      let first ← fromStrRadix 16 first
      let last ← fromStrRadix 16 last
      some ⟨first, last, "/dev/".toList.isPrefixOf ((fields.drop 4).headD [])⟩

/-- The loop of `classify_linux_maps`: `next` is the first address not covered so far. -/
def classifyMappings (last : ℕ) : List Mapping → ℕ → MemoryRangeEffect → MemoryRangeEffect
  | [], _, _ => .unknown
  | mapping :: mappings, next, effect =>
    if mapping.last ≤ next then classifyMappings last mappings next effect
    else if mapping.first > next then .unknown
    else
      let effect := if mapping.device then .volatile else effect
      if last < mapping.last then effect else classifyMappings last mappings mapping.last effect

/-- `classify_linux_maps`. -/
def classifyLinuxMaps (maps : String) (start last : ℕ) : MemoryRangeEffect :=
  classifyMappings last ((textLines maps).filterMap Mapping.ofLine) start .ordinary

/-- The range among the parameters: the address in a field, and the length. -/
def memoryRange (parameters : Json) (addressField : String) : Except Error (ℕ × ℕ) :=
  match (parameters.get addressField).bind Json.asStr with
  | none => .error { code := .invalidArgument, message := "memory address is required" }
  | some address => do
    let start ← Address.parse address
    match (parameters.get "length").bind Json.asUnsigned with
    | none => .error { code := .invalidArgument, message := "memory length is required" }
    | some length => do
      ensure (start + (length - 1) < 2 ^ 64) "memory range overflows"
      .ok (start, length)

/-- The effect of a range; `maps` are the mappings of a process, if they can be read. -/
def rangeEffect (origin : TargetOrigin) (pid : Option ℕ) (maps : ℕ → Option String)
    (start length : ℕ) : MemoryRangeEffect :=
  match origin with
  | .core => .ordinary
  | .remote | .unknown => .unknown
  | .local | .attach =>
    match pid.bind maps with
    | none => .unknown
    | some text => classifyLinuxMaps text start (start + (length - 1))

/-! ### Volatile reads -/

/-- A profile that does not permit volatile reads lets no method through that has this effect and
reads memory. -/
lemma Profile.authorizeMethod_volatile {profile : Profile} {method : CanonicalMethod}
    (hprofile : profile.permits .volatileTargetRead = false)
    (hmethod : method = .memoryRead ∨ method = .memorySearch ∨ method = .memoryCompare) :
    profile.authorizeMethod method .volatileTargetRead ≠ .ok () := by
  have hrestricted : method.unrestricted = false := by
    rcases hmethod with rfl | rfl | rfl <;> decide
  have hcore : (method = .targetOpenCore) = False := by
    rcases hmethod with rfl | rfl | rfl <;> simp
  simp [authorizeMethod, authorize, hprofile, hrestricted, hcore]

end GdbAi
