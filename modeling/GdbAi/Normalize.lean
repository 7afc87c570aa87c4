import GdbAi.Domain

/-!
# Domain events from MI records

`normalize` of `gdb-ai-core/src/normalize.rs` turns the asynchronous and stream records of GDB
into domain events.
-/

namespace GdbAi

/-- `str::parse` for an unsigned integer below `bound`: an optional `+` and decimal digits. -/
def parseUnsigned (bound : ℕ) (value : String) : Option ℕ :=
  let digits := match value.toList with
    | '+' :: rest => rest
    | characters => characters
  if digits ≠ [] && digits.all Char.isDigit then
    let number := digits.foldl (fun number digit => number * 10 + (digit.toNat - 48)) 0
    if number < bound then some number else none
  else none

/-- `text`. -/
def text (results : List MiResult) (name : String) : Option String := MiResult.findStr results name

/-- `frame_summary_fields`. -/
def frameSummaryFields (fields : List MiResult) : FrameSummary where
  level := ((MiResult.findStr fields "level").bind (parseUnsigned (2 ^ 32))).getD 0
  address := text fields "addr"
  function := text fields "func"
  module := text fields "from"
  source := (text fields "fullname").or (text fields "file")
  line := (MiResult.findStr fields "line").bind (parseUnsigned (2 ^ 32))

/-- `stop_reason`. -/
def stopReason (results : List MiResult) (rawReason : String) : StopReason :=
  if rawReason = "breakpoint-hit" then .breakpoint (text results "bkptno") (text results "disp")
  else if rawReason = "watchpoint-trigger" ∨ rawReason = "read-watchpoint-trigger" ∨
      rawReason = "access-watchpoint-trigger" then
    let fields := ["wpt", "hw-rwpt", "hw-awpt"].findSome? fun name =>
      (MiResult.find results name).bind MiValue.results
    .watchpoint (fields.bind fun fields => text fields "number")
      (fields.bind fun fields => text fields "exp") rawReason
  else if rawReason = "signal-received" then
    .signal (text results "signal-name") (text results "signal-meaning")
  else if rawReason = "end-stepping-range" then .endSteppingRange
  else if rawReason = "function-finished" then .functionFinished
  else if rawReason = "location-reached" then .locationReached
  else if rawReason = "interrupt" then .interrupt
  else .unknown rawReason

/-- `stopped`. -/
def stopped (results : List MiResult) : DomainEvent :=
  let rawReason := (MiResult.findStr results "reason").getD "unknown"
  let backendInferior := MiResult.findStr results "thread-group"
  if (stripPrefix "exited" rawReason).isSome then
    .inferiorExited backendInferior (MiResult.findStr results "exit-code") true
  else
    .targetStopped backendInferior (MiResult.findStr results "thread-id") rawReason
      (some (stopReason results rawReason))
      (((MiResult.find results "frame").bind MiValue.results).map frameSummaryFields)

/-- `breakpoint`. -/
def breakpoint (results : List MiResult) (modified : Bool) : Option DomainEvent := do
  let fields ← (← MiResult.find results "bkpt").results
  let backendNumber ← text fields "number"
  let enabled := (text fields "enabled").all (· = "y")
  let pending := (text fields "pending").any (· = "y") || text fields "addr" = some "<PENDING>"
  if modified then some (.breakpointModified backendNumber enabled pending)
  else some (.breakpointCreated backendNumber enabled pending)

/-- `notification`. -/
def notification (cls : String) (results : List MiResult) : Option DomainEvent :=
  if cls = "thread-group-added" ∨ cls = "thread-group-started" then
    some (.inferiorAdded ((text results "id").getD "i1")
      ((MiResult.findStr results "pid").bind (parseUnsigned (2 ^ 64))))
  else if cls = "thread-group-removed" then (text results "id").map .inferiorRemoved
  else if cls = "thread-group-exited" then
    (text results "id").map fun id => .inferiorExited (some id) (text results "exit-code") false
  else if cls = "thread-created" then
    (text results "id").map (.threadCreated ((text results "group-id").getD "i1"))
  else if cls = "thread-exited" then (text results "id").map (.threadExited (text results "group-id"))
  else if cls = "breakpoint-created" then breakpoint results false
  else if cls = "breakpoint-modified" then breakpoint results true
  else if cls = "breakpoint-deleted" then (text results "id").map .breakpointDeleted
  else if cls = "library-loaded" then
    (text results "id").map fun id =>
      .libraryLoaded id (text results "target-name") (text results "host-name")
        ((text results "symbols-loaded").map fun value => decide (value = "1"))
  else if cls = "library-unloaded" then (text results "id").map .libraryUnloaded
  else if cls = "memory-changed" then some .memoryChanged
  else if cls = "thread-selected" ∨ cls = "cmd-param-changed" then none
  else some (.unknownBackendNotification ("notify:" ++ cls))

/-- `normalize`. -/
def normalize : MiRecord → Option DomainEvent
  | .execAsync _ cls results =>
    if cls = "running" then
      some (.targetRunning (MiResult.findStr results "thread-group").toList)
    else if cls = "stopped" then some (stopped results)
    else some (.unknownBackendEvent ("exec:" ++ cls))
  | .notifyAsync _ cls results => notification cls results
  | .consoleStream bytes => some (.output .gdbConsoleStream bytes)
  | .targetStream bytes => some (.output .miTargetStream bytes)
  | .logStream bytes => some (.output .gdbLogStream bytes)
  | .result .. | .statusAsync .. | .prompt => none

end GdbAi
