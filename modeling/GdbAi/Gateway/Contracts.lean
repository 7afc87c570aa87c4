import GdbAi.Gateway.Protocol

/-!
# Parameter contracts

`gdb-ai-core/src/contracts.rs`: the kinds of parameters, the contract of each method, and the
check of a parameters object against a contract.  `validate_ok_iff` says what an accepted object
is, and `Accepted.extend` when more fields keep it accepted.
-/

namespace GdbAi

/-! ### Kinds -/

/-- `ParameterField`, over the type of kinds. -/
structure FieldOf (κ : Type) where
  name : String
  kind : κ
  required : Bool

/-- `ObjectContract`, over the type of kinds. -/
structure ObjectOf (κ : Type) where
  fields : List (FieldOf κ)
  minProperties : ℕ := 0
  exactlyOneOf : List String := []

/-- `ParameterKind`. -/
inductive ParameterKind where
  | string
  | boolean
  | unsigned
  | positive
  | stringArray
  | shape (contract : ObjectOf ParameterKind)
  | arrayOf (kind : ParameterKind)
  | boundedArray (kind : ParameterKind) (maximum : ℕ)
  | mapOf (kind : ParameterKind)
  | oneOf (kinds : List ParameterKind)
  | booleanOrEnum (values : List String)
  | enum (values : List String)

/-- `ParameterField`. -/
abbrev ParameterField := FieldOf ParameterKind

/-- `ObjectContract`. -/
abbrev ObjectContract := ObjectOf ParameterKind

def optional (name : String) (kind : ParameterKind) : ParameterField := ⟨name, kind, false⟩

def required (name : String) (kind : ParameterKind) : ParameterField := ⟨name, kind, true⟩

mutual

/-- `ParameterKind::accepts`. -/
def ParameterKind.accepts : ParameterKind → Json → Bool
  | .string, value => value.asStr.isSome
  | .boolean, value => value.asBool.isSome
  | .unsigned, value => value.asUnsigned.isSome
  | .positive, value => value.asUnsigned.any fun number => 0 < number
  | .stringArray, value => value.asArray.any fun items => items.all fun item => item.asStr.isSome
  | .shape contract, value => acceptsObject contract value
  | .arrayOf kind, value => value.asArray.any fun items => items.all fun item => kind.accepts item
  | .boundedArray kind maximum, value =>
    value.asArray.any fun items =>
      items.length ≤ maximum && items.all fun item => kind.accepts item
  | .mapOf kind, value =>
    value.asObject.any fun object => object.all fun field => kind.accepts field.2
  | .oneOf kinds, value => countAccepting kinds value = 1
  | .booleanOrEnum values, value =>
    value.asBool.isSome || value.asStr.any fun text => text ∈ values
  | .enum values, value => value.asStr.any fun text => text ∈ values

/-- `ObjectContract::accepts`. -/
def acceptsObject : ObjectContract → Json → Bool
  | ⟨fields, minProperties, exactlyOneOf⟩, value =>
    value.asObject.any fun object =>
      minProperties ≤ object.length &&
      (fields.all fun field => !field.required || Json.hasField object field.name) &&
      (exactlyOneOf.isEmpty || (exactlyOneOf.countP fun name => Json.hasField object name) = 1) &&
      object.all fun field => acceptsNamed fields field.1 field.2

/-- The first of the fields called `name` accepts the value. -/
def acceptsNamed : List ParameterField → String → Json → Bool
  | [], _, _ => false
  | field :: fields, name, value =>
    if field.name = name then acceptsField field value else acceptsNamed fields name value

def acceptsField : ParameterField → Json → Bool
  | ⟨_, kind, _⟩, value => kind.accepts value

/-- The number of kinds that accept the value. -/
def countAccepting : List ParameterKind → Json → ℕ
  | [], _ => 0
  | kind :: kinds, value => (if kind.accepts value then 1 else 0) + countAccepting kinds value

end

/-- `ParameterKind::description`. -/
def ParameterKind.description : ParameterKind → String
  | .string => "a string"
  | .boolean => "a boolean"
  | .unsigned => "an unsigned integer"
  | .positive => "a positive integer"
  | .stringArray => "an array of strings"
  | .shape _ => "a supported object"
  | .arrayOf _ => "an array of supported values"
  | .boundedArray _ maximum =>
    "an array of at most " ++ toString maximum ++ " supported values"
  | .mapOf _ => "an object with supported values"
  | .oneOf _ => "one supported shape"
  | .booleanOrEnum values => "a boolean or one of " ++ ", ".intercalate values
  | .enum values => "one of " ++ ", ".intercalate values

/-! ### Nested contracts -/

namespace ParameterKind

def wait : ParameterKind := .shape
  { fields := [
      required "until"
        (.enum ["accepted", "running", "stopped", "settled", "snapshot", "exited"]),
      optional "timeout_ms" .positive] }

def inferiorInput : ParameterKind := .shape
  { fields := [optional "text" .string, optional "data_base64" .string]
    exactlyOneOf := ["text", "data_base64"] }

def probeTrigger : ParameterKind := .shape
  { fields := [required "command" .stringArray, optional "cwd" .string] }

def ioWriteSteps : ParameterKind := .arrayOf (.shape
  { fields := [optional "wait_for" .string, optional "text" .string,
      optional "data_base64" .string]
    exactlyOneOf := ["text", "data_base64"] })

def endpoint : ParameterKind := .oneOf [.string, .shape
  { fields := [required "host" .string, required "port" .positive] }]

def source : ParameterKind := .shape
  { fields := [required "path" .string, required "line" .positive] }

def moduleOffset : ParameterKind := .shape
  { fields := [required "module" .string, required "offset" .string] }

def kernelModuleOffset : ParameterKind := .shape
  { fields := [required "module" .string, required "offset" .string] }

def location : ParameterKind := .shape
  { fields := [optional "function" .string, optional "address" .string,
      optional "expression" .string, optional "source" source,
      optional "module_offset" moduleOffset]
    minProperties := 1
    exactlyOneOf := ["function", "address", "expression", "source", "module_offset"] }

def around : ParameterKind := .shape
  { fields := [optional "expression" .string, optional "before_instructions" .unsigned,
      optional "after_instructions" .unsigned] }

def range : ParameterKind := .shape
  { fields := [required "start" .string, required "end" .string] }

def expected : ParameterKind := .shape
  { fields := [optional "bytes_base64" .string, optional "sha256" .string]
    minProperties := 1
    exactlyOneOf := ["bytes_base64", "sha256"] }

def pattern : ParameterKind := .shape
  { fields := [optional "kind" (.enum ["bytes", "text"]), optional "hex" .string,
      optional "data_base64" .string, optional "text" .string]
    minProperties := 1
    exactlyOneOf := ["hex", "data_base64", "text"] }

def budget : ParameterKind := .shape
  { fields := [optional "max_calls" .positive, optional "max_frames" .positive,
      optional "max_values" .positive, optional "max_memory_bytes" .positive,
      optional "max_instructions" .positive, optional "max_context_bytes" .positive,
      optional "wall_time_ms" .positive] }

def capture : ParameterKind := .arrayOf (.oneOf [
  .shape { fields := [required "expression" .string] },
  .shape { fields := [required "stack" (.shape { fields := [optional "limit" .positive] })] },
  .shape { fields := [required "memory" (.shape
    { fields := [required "address_expression" .string, required "length" .positive] })] }])

def environment : ParameterKind := .mapOf .string

/-- `INSPECTION_VIEWS`. -/
def inspectionViews : List String :=
  ["stop_context", "target", "capabilities", "providers", "crash", "threads", "stack", "frame",
   "locals", "arguments", "registers", "modules", "breakpoints", "symbols", "source", "mappings",
   "signals", "evaluate", "memory", "disassembly", "tracked", "diff"]

/-- The fields that inspections and the items of a batch share. -/
def inspectionFields : List ParameterField := [
  optional "limit" .unsigned,
  optional "stack_depth" .positive,
  optional "include_locals" .boolean,
  optional "offset" .unsigned,
  optional "roles" .stringArray,
  optional "query" .string,
  optional "kind" (.enum ["functions", "types", "variables"]),
  optional "type_layout" .string,
  optional "path" .string,
  optional "line" .positive,
  optional "before_lines" .unsigned,
  optional "after_lines" .unsigned,
  optional "profile" (.enum ["minimal", "brief", "standard", "deep"]),
  optional "around" around,
  optional "range" range,
  optional "include_bytes" .boolean,
  optional "include_source" .boolean,
  optional "expression" .string,
  optional "expressions" .stringArray,
  optional "address" .string,
  optional "address_expression" .string,
  optional "length" .positive,
  optional "allow_partial" .boolean,
  optional "encoding" (.enum ["hex", "base64"]),
  optional "before_snapshot_id" .string,
  optional "after_snapshot_id" .string]

def inspectionBatch : ParameterKind := .arrayOf (.shape
  { fields := [
      optional "name" .string,
      required "view" (.enum inspectionViews),
      optional "inferior_id" .string,
      optional "thread_id" .string,
      optional "frame_id" .string,
      optional "frame_level" .unsigned] ++ inspectionFields })

def turnInspection : ParameterKind := inspectionBatch

def signals : ParameterKind := .mapOf (.shape
  { fields := [required "stop" .boolean, required "print" .boolean, required "pass" .boolean] })

def rawMiArguments : ParameterKind := .arrayOf (.oneOf [.string, .shape
  { fields := [optional "kind" (.enum ["bare", "string"]), required "value" .string] }])

end ParameterKind

/-! ### Method contracts -/

/-- `COMMON_FIELDS`. -/
def commonFields : List ParameterField :=
  [optional "accept_latest_revision" .boolean, optional "lease_id" .string]

/-- `CONTEXT_FIELDS`. -/
def contextFields : List ParameterField := [
  optional "stop_id" .string,
  optional "accept_current_stop" .boolean,
  optional "inferior_id" .string,
  optional "thread_id" .string,
  optional "frame_id" .string,
  optional "frame_level" .unsigned]

/-- `MethodContract`; `own` are the fields of the method itself. -/
structure MethodContract where
  own : List ParameterField
  context : Bool
  exactlyOneOf : List (List String) := []

namespace MethodContract

def plain (fields : List ParameterField) : MethodContract := ⟨fields, false, []⟩

def contextual (fields : List ParameterField) : MethodContract := ⟨fields, true, []⟩

def exactlyOne (contract : MethodContract) (fields : List String) : MethodContract :=
  { contract with exactlyOneOf := contract.exactlyOneOf ++ [fields] }

/-- `MethodContract::fields`. -/
def fields (contract : MethodContract) : List ParameterField :=
  commonFields ++ (if contract.context then contextFields else []) ++ contract.own

/-- The field that a parameter is checked against. -/
def field (contract : MethodContract) (name : String) : Option ParameterField :=
  contract.fields.find? fun field => field.name = name

/-- An `INVALID_ARGUMENT`. -/
def invalid (message : String) : Error := { code := .invalidArgument, message := message }

/-- The first loop of `validate`: every parameter is known and of its kind. -/
def checkKinds (contract : MethodContract) : List (String × Json) → Except Error Unit
  | [] => .ok ()
  | (name, value) :: rest =>
    match contract.field name with
    | none => .error (invalid ("unknown parameter " ++ name))
    | some field =>
      if field.kind.accepts value then contract.checkKinds rest
      else .error (invalid ("parameter " ++ name ++ " must be " ++ field.kind.description))

/-- The second loop: what is required is there. -/
def checkRequired (object : List (String × Json)) : List ParameterField → Except Error Unit
  | [] => .ok ()
  | field :: rest =>
    if field.required && !Json.hasField object field.name then
      .error (invalid (field.name ++ " is required"))
    else checkRequired object rest

/-- The third loop: one of each group is there. -/
def checkGroups (object : List (String × Json)) : List (List String) → Except Error Unit
  | [] => .ok ()
  | group :: rest =>
    if group.countP (fun name => Json.hasField object name) ≠ 1 then
      .error (invalid ("exactly one of " ++ ", ".intercalate group ++ " is required"))
    else checkGroups object rest

/-- `MethodContract::validate`. -/
def validate (contract : MethodContract) (parameters : Json) : Except Error Unit :=
  match parameters.asObject with
  | none => .error (invalid "parameters must be an object")
  | some object => do
    contract.checkKinds object
    checkRequired object contract.fields
    checkGroups object contract.exactlyOneOf

end MethodContract

open MethodContract ParameterKind in
/-- `CanonicalMethod::contract`. -/
def CanonicalMethod.contract : CanonicalMethod → MethodContract
  | .sessionCreate => plain [optional "profile"
      (.enum ["offline_core", "live_observer", "debug_control", "lab_mutation", "raw_admin"])]
  | .sessionGet | .sessionList | .sessionClose | .sessionForceAbort | .sessionReleaseWriteLease
  | .sessionAttemptRecovery | .sessionCapabilities | .sessionProviders | .targetDetach
  | .breakpointList | .inferiorIoCloseStdin | .inferiorIoSendEof | .trackingList
  | .signalGet => plain []
  | .sessionHandoff => plain [required "to" .string]
  | .sessionAcquireWriteLease => plain [optional "force" .boolean]
  | .sessionTranscript => plain [optional "offset" .unsigned, optional "max_bytes" .unsigned]
  | .sessionEvent =>
    (plain [optional "event_seq" .positive,
      optional "event_seqs" (.boundedArray .positive 64)]).exactlyOne ["event_seq", "event_seqs"]
  | .operationGet => plain [required "operation_id" .string]
  | .operationCancel => plain [
      required "operation_id" .string,
      required "mode" (.enum ["interrupt_target", "close_session"])]
  | .targetLaunch => plain [
      required "program" .string,
      optional "argv" .stringArray,
      optional "cwd" .string,
      optional "environment" environment,
      optional "environment_mode" (.enum ["clean", "inherited"]),
      optional "aslr" (.enum ["preserve", "disable"]),
      optional "stop" (.enum ["first_instruction", "main", "none", "entry"]),
      optional "follow_fork" (.enum ["parent", "child"]),
      optional "detach_on_fork" .boolean,
      optional "follow_exec" (.enum ["same-inferior"]),
      optional "wait" wait,
      optional "inspect" turnInspection,
      optional "breakpoints" (.boundedArray location 16)]
  | .targetAttach => plain [
      required "pid" .unsigned,
      optional "executable" .string,
      optional "wait" wait]
  | .targetConnectRemote => plain [
      optional "mode" (.enum ["remote", "extended-remote"]),
      required "endpoint" endpoint,
      optional "executable" .string,
      optional "wait" wait]
  | .targetOpenCore => plain [required "executable" .string, required "core" .string]
  | .targetRestart => plain [
      optional "stop" (.enum ["first_instruction", "main", "none", "entry"]),
      optional "stop_at_entry" .boolean,
      optional "wait" wait,
      optional "inspect" turnInspection]
  | .targetKill => plain [optional "wait" wait]
  | .executionControl => contextual [
      required "action" (.enum ["continue", "interrupt", "step", "next", "finish",
        "step_instruction", "next_instruction", "until"]),
      optional "location" .string,
      optional "wait" wait,
      optional "input" inferiorInput,
      optional "inspect" turnInspection]
  | .executionWait => plain [
      optional "operation_id" .string,
      required "wait" wait,
      optional "input" inferiorInput,
      optional "inspect" turnInspection]
  | .breakpointCreate => (plain [
      optional "kind" (.enum ["software", "hardware", "temporary", "instruction", "watchpoint",
        "read_watchpoint", "access_watchpoint", "catchpoint"]),
      optional "location" location,
      optional "function" .string,
      optional "address" .string,
      optional "expression" .string,
      optional "source" source,
      optional "module_offset" moduleOffset,
      optional "catch" .string,
      optional "temporary" .boolean,
      optional "hardware" (.booleanOrEnum ["auto", "required"]),
      optional "pending" .boolean,
      optional "condition" .string,
      optional "ignore_count" .unsigned,
      optional "thread_id" .string,
      optional "inferior_id" .string]).exactlyOne
      ["location", "function", "address", "expression", "source", "module_offset", "catch"]
  | .breakpointUpdate => plain [
      optional "breakpoint_id" .string,
      optional "backend_number" .string,
      optional "enabled" .boolean,
      optional "condition" .string,
      optional "ignore_count" .unsigned]
  | .breakpointDelete => plain [optional "breakpoint_id" .string, optional "backend_number" .string]
  | .inspectionGet => contextual (required "view" (.enum inspectionViews) :: inspectionFields)
  | .inspectionSnapshot => contextual [
      optional "profile" (.enum ["minimal", "brief", "standard", "deep"]),
      optional "limit" .unsigned,
      optional "roles" .stringArray,
      optional "around" around,
      optional "range" range,
      optional "include_bytes" .boolean,
      optional "include_source" .boolean,
      optional "inspect" turnInspection]
  | .inspectionDiff => plain [
      required "before_snapshot_id" .string, required "after_snapshot_id" .string]
  | .inspectionBatch => contextual [required "requests" ParameterKind.inspectionBatch]
  | .inspectionSnapshotGet => plain [required "snapshot_id" .string]
  | .valueEvaluate => (contextual [
      optional "expression" .string,
      optional "expressions" .stringArray,
      optional "side_effects" (.enum ["deny", "allow"])]).exactlyOne ["expression", "expressions"]
  | .valueCreate => contextual [required "expression" .string]
  | .valueChildren => contextual [
      required "value_id" .string, optional "offset" .unsigned, optional "limit" .unsigned]
  | .valueUpdate | .valueRelease => contextual [required "value_id" .string]
  | .memoryRead => (contextual [
      optional "address" .string,
      optional "address_expression" .string,
      required "length" .unsigned,
      optional "allow_partial" .boolean,
      optional "encoding" (.enum ["hex", "base64"]),
      optional "acknowledge_target_effects" .boolean,
      optional "volatile" .boolean]).exactlyOne ["address", "address_expression"]
  | .memoryWrite => (contextual [
      required "address" .string,
      optional "text" .string,
      optional "data_base64" .string,
      required "expected" expected]).exactlyOne ["text", "data_base64"]
  | .memorySearch => contextual [
      required "start" .string,
      required "length" .unsigned,
      required "pattern" pattern,
      optional "max_results" .unsigned,
      optional "acknowledge_target_effects" .boolean,
      optional "volatile" .boolean]
  | .memoryCompare => contextual [
      required "address" .string,
      required "length" .unsigned,
      required "expected" expected,
      optional "acknowledge_target_effects" .boolean,
      optional "volatile" .boolean]
  | .registerRead => contextual [optional "roles" .stringArray]
  | .registerWrite => contextual [
      required "register" .string, required "value" .string, required "reason" .string]
  | .disassemblyRead => contextual [
      optional "around" around,
      optional "range" range,
      optional "include_bytes" .boolean,
      optional "include_source" .boolean]
  | .inferiorIoRead => plain [
      optional "stream" (.enum ["pty", "target", "console", "log"]),
      optional "after_offset" .unsigned,
      optional "max_bytes" .unsigned]
  | .inferiorIoWrite => (plain [
      optional "text" .string,
      optional "data_base64" .string,
      optional "steps" ioWriteSteps,
      optional "timeout_ms" .positive]).exactlyOne ["text", "data_base64", "steps"]
  | .inferiorIoResize => plain [required "rows" .unsigned, required "columns" .unsigned]
  | .trackingAddExpression => plain [
      required "expression" .string, optional "max_value_bytes" .unsigned]
  | .trackingAddMemory => plain [
      required "address_expression" .string,
      required "length" .unsigned,
      optional "max_history" .unsigned]
  | .trackingRemove => plain [required "tracking_id" .string]
  | .signalUpdate => plain [required "signals" signals]
  | .agentHypothesisCheck => contextual [
      optional "claim" .string,
      required "expression" .string,
      optional "operator"
        (.enum ["equals", "not_equals", "contains", "greater_than", "less_than"]),
      required "expected" .string]
  | .agentProbe | .agentExperiment => (contextual [
      optional "location" location,
      optional "function" .string,
      optional "address" .string,
      optional "expression" .string,
      optional "source" source,
      optional "module_offset" moduleOffset,
      optional "kernel_module_offset" kernelModuleOffset,
      optional "condition" .string,
      optional "ignore_count" .unsigned,
      optional "restart" .boolean,
      optional "input" inferiorInput,
      optional "trigger" probeTrigger,
      optional "capture" capture,
      optional "max_hits" .unsigned,
      optional "stop_policy" (.enum ["on_condition", "continue_after_capture", "continue_to_stop"]),
      optional "inspect" turnInspection,
      optional "budget" budget]).exactlyOne
      ["location", "function", "address", "expression", "source", "module_offset",
        "kernel_module_offset"]
  | .kernelInspect => contextual [
      required "view" (.enum ["bootstrap", "capabilities", "version", "base", "page_table",
        "symbols", "current_task", "init_task", "tasks", "modules", "dmesg", "stack", "panic"]),
      optional "limit" .unsigned,
      optional "offset" .unsigned,
      optional "address_expression" .string,
      optional "names" .stringArray,
      optional "roles" .stringArray,
      optional "around" around,
      optional "range" range,
      optional "include_bytes" .boolean,
      optional "include_source" .boolean]
  | .kernelMonitor => plain [required "command" .string]
  | .artifactGet => plain [
      required "uri" .string, optional "offset" .unsigned, optional "max_bytes" .unsigned]
  | .eventsWait => plain [optional "after_event_seq" .unsigned, optional "timeout_ms" .unsigned]
  | .rawMi => plain [
      required "command" .string,
      optional "arguments" rawMiArguments,
      optional "timeout_ms" .unsigned]
  | .rawConsole => plain [required "command" .string, optional "timeout_ms" .unsigned]

/-- `CanonicalMethod::validate_parameters`. -/
def CanonicalMethod.validateParameters (method : CanonicalMethod) (parameters : Json) :
    Except Error Unit :=
  method.contract.validate parameters

/-! ### What an accepted object is -/

namespace MethodContract

variable {contract : MethodContract}

/-- Every parameter is known and of its kind, what is required is there, and one of each group. -/
structure Accepted (contract : MethodContract) (object : List (String × Json)) : Prop where
  kinds : ∀ entry ∈ object, ∃ field, contract.field entry.1 = some field ∧
    field.kind.accepts entry.2 = true
  required : ∀ field ∈ contract.fields, field.required = true →
    Json.hasField object field.name = true
  groups : ∀ group ∈ contract.exactlyOneOf,
    group.countP (fun name => Json.hasField object name) = 1

lemma checkKinds_ok_iff {object : List (String × Json)} :
    contract.checkKinds object = .ok () ↔ ∀ entry ∈ object, ∃ field,
      contract.field entry.1 = some field ∧ field.kind.accepts entry.2 = true := by
  induction object with
  | nil => simp [checkKinds]
  | cons entry object ih =>
    obtain ⟨name, value⟩ := entry
    rw [checkKinds, List.forall_mem_cons]
    cases hfield : contract.field name with
    | none => simp
    | some field =>
      by_cases haccepts : field.kind.accepts value = true
      · simp [haccepts, ih]
      · simp [haccepts]

lemma checkRequired_ok_iff {object : List (String × Json)} {fields : List ParameterField} :
    checkRequired object fields = .ok () ↔ ∀ field ∈ fields, field.required = true →
      Json.hasField object field.name = true := by
  induction fields with
  | nil => simp [checkRequired]
  | cons field fields ih =>
    rw [checkRequired, List.forall_mem_cons]
    cases hrequired : field.required <;> cases hfield : Json.hasField object field.name <;>
      simp [ih]

lemma checkGroups_ok_iff {object : List (String × Json)} {groups : List (List String)} :
    checkGroups object groups = .ok () ↔ ∀ group ∈ groups,
      group.countP (fun name => Json.hasField object name) = 1 := by
  induction groups with
  | nil => simp [checkGroups]
  | cons group groups ih =>
    rw [checkGroups, List.forall_mem_cons]
    split
    · rename_i hcount
      simp [hcount]
    · rename_i hcount
      simp [not_not.mp hcount, ih]

/-- A contract accepts exactly the objects that satisfy it. -/
theorem validate_ok_iff {parameters : Json} :
    contract.validate parameters = .ok () ↔
      ∃ object, parameters = .object object ∧ contract.Accepted object := by
  unfold validate
  cases parameters with
  | object object =>
    simp only [Json.asObject, Json.object.injEq, exists_eq_left']
    constructor
    · intro h
      cases hkinds : contract.checkKinds object with
      | error error =>
        rw [hkinds] at h
        cases h
      | ok =>
        rw [hkinds] at h
        cases hrequired : checkRequired object contract.fields with
        | error error =>
          simp only [hrequired] at h
          cases h
        | ok =>
          simp only [hrequired] at h
          exact ⟨checkKinds_ok_iff.mp hkinds, checkRequired_ok_iff.mp hrequired,
            checkGroups_ok_iff.mp h⟩
    · intro h
      rw [checkKinds_ok_iff.mpr h.kinds, checkRequired_ok_iff.mpr h.required]
      exact checkGroups_ok_iff.mpr h.groups
  | null | bool _ | unsigned _ | negative _ | decimal _ | string _ | array _ =>
    simp [Json.asObject]

/-- An object with more fields of the right kinds, none of which belongs to a group, is accepted
too. -/
lemma Accepted.extend {object object' : List (String × Json)} (h : contract.Accepted object)
    (hnew : ∀ entry ∈ object', entry ∈ object ∨ ∃ field, contract.field entry.1 = some field ∧
      field.kind.accepts entry.2 = true)
    (hkept : ∀ name, Json.hasField object name = true → Json.hasField object' name = true)
    (hgroups : ∀ group ∈ contract.exactlyOneOf, ∀ name ∈ group,
      Json.hasField object' name = Json.hasField object name) : contract.Accepted object' where
  kinds := by
    intro entry hentry
    rcases hnew entry hentry with hold | hnew
    · exact h.kinds entry hold
    · exact hnew
  required := fun field hfield hrequired => hkept _ (h.required field hfield hrequired)
  groups := by
    intro group hgroup
    rw [← h.groups group hgroup]
    refine List.countP_congr fun name hname => ?_
    rw [hgroups group hgroup name hname]

end MethodContract

end GdbAi
