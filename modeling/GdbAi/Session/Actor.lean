import GdbAi.Session.Requests

/-!
# The session worker

A session starts GDB, waits for its prompt, configures it and then serves its channels until it is
closed or fails; `session` is the whole of it, from the first entry of the journal to the last
flush.
-/

namespace GdbAi

open Procedure

/-- What a session is started with. -/
structure Configuration where
  sessionId : SessionId
  profile : Profile
  durability : JournalDurability
  journalBytes : ℕ
  preferredMi : String
  fallbackMi : String
  /-- The console command that loads the trusted extension, once its file has been checked. -/
  extension : Except Error (Option Bytes)
  ptyPath : Bytes
  streamLimit : ℕ
  commandTimeout : ℕ
  memoryReadBytes : ℕ
  maxSnapshots : ℕ
  maxOperations : ℕ

/-- The world before the first entry of the journal. -/
def World.initial (config : Configuration) (arrivals : List Arrival) : World where
  journal := .create config.durability config.journalBytes
  state :=
    let creating := SessionState.creating config.sessionId
    ⟨creating, if config.durability = .durable then some creating else none⟩
  profile := config.profile
  moduleOffsetRebinding := .unknown
  controlsOpen := true
  inferiorOutputOffset := 0
  inferiorOutputDropped := 0
  outputEvidenceFinalized := false
  nextToken := 1
  timedOutTokens := []
  interruptFallbackAt := none
  streamLimit := config.streamLimit
  commandTimeout := config.commandTimeout
  values := ∅
  tracking := ∅
  trackingHistory := ∅
  snapshots := []
  staleBackendValues := []
  deferredRestoration := []
  pendingModuleBreakpoints := ∅
  activeResumeOperation := none
  moduleRebindNeeded := false
  replacingModuleBreakpoint := false
  deferredSnapshotReady := none
  trackingMemoryLimit := config.memoryReadBytes
  snapshotLimit := config.maxSnapshots
  operationLimit := config.maxOperations
  stateDirty := false
  operations := ∅
  dirtyOperations := []
  journalGapReported := false
  storeFailed := false
  fatal := false
  arrivals := arrivals

/-! ### Startup -/

/-- The event of an MI record before the prompt; the worker does not exist yet. -/
def promptEvent : Option DomainEvent → Action Unit
  | some event => do let _ ← journalEvent event
  | none => pure ()

/-- The loop of `wait_for_prompt` ends behind the prompt. -/
def afterPrompt : MiRecord → Unit ⊕ Unit
  | .prompt => .inr ()
  | _ => .inl ()

/-- One input before the prompt. -/
def promptInput : BackendInput → Action (Unit ⊕ Unit)
  | .mi raw record => do
    let _ ← appendJournal (.miOutput raw)
    promptEvent (normalize record)
    pure (afterPrompt record)
  | .gdbStderr bytes => do
    let _ ← appendJournal (.gdbStderr bytes)
    pure (.inl ())
  | .protocolError error => fail error
  | .gdbEof => fail ⟨.gdbExited, "GDB exited", false⟩
  | .inferiorPty => pure (.inl ())

/-- One turn of the loop of `wait_for_prompt`. -/
def promptTurn (_ : Unit) : Action (Unit ⊕ Unit) := do
  match ← nextArrival with
  | .wake => fail ⟨.gdbUnresponsive, "GDB startup timed out", false⟩
  | .backend none => fail ⟨.gdbExited, "GDB startup channel closed", false⟩
  | .backend (some input) => promptInput input
  -- nothing else is polled before the prompt
  | .tick | .control _ | .request _ => wait

/-- `wait_for_prompt`. -/
def waitForPrompt : Action Unit := do
  loop (← observe fun w => w.arrivals.length + 1) promptTurn ()

/-- GDB is started with the first MI version that reaches a prompt. -/
def startBackend : List String → Option Error → Action String
  | [], lastError => fail (lastError.getD ⟨.gdbExited, "GDB startup failed", false⟩)
  | version :: versions, _ => do
    require Environment.spawn
    match ← attempt waitForPrompt with
    | .ok () => pure version
    | .error error =>
      let _ ← ask Environment.shutdown
      startBackend versions (some error)

/-- A command of the handshake. -/
def handshakeCommand (command : Except Error MiCommand) : Action CommandReply := do
  execute .handshake (← ofExcept command)

/-- The probe for a command of GDB. -/
def probeCommand (name : String) : Action CommandReply :=
  handshakeCommand ((MiCommand.new "-info-gdb-mi-command").map fun command =>
    command.string (utf8 name))

/-- GDB's own correction of the breakpoint scripts of MI3, where it has one. -/
def fixBreakpointScripts : Action Unit := do
  let reply ← probeCommand "-fix-breakpoint-script-output"
  onlyIf (miCommandExists reply.record) (do
    let _ ← handshakeCommand (MiCommand.new "-fix-breakpoint-script-output"))

/-- The settings every session starts with. -/
def handshakeSettings : List (List String) :=
  [["mi-async", "on"], ["non-stop", "off"], ["pagination", "off"], ["confirm", "off"],
    ["style", "enabled", "off"], ["print", "elements", "200"], ["may-call-functions", "off"]]

/-- The settings that follow the profile's control of the target. -/
def controlSettings : List String :=
  ["may-write-memory", "may-write-registers", "may-insert-breakpoints", "may-interrupt"]

/-- The commands whose support decides on capabilities. -/
def probedCommands : List String :=
  ["-data-read-memory-bytes", "-data-write-memory-bytes", "-data-disassemble", "-break-watch",
    "-thread-info"]

/-- `char::is_control`. -/
def isControl (character : Char) : Bool :=
  character.toNat < 0x20 || (0x7f ≤ character.toNat && character.toNat ≤ 0x9f)

/-- The console stream of a reply, if it is readable text. -/
def consoleText (records : List MiRecord) : String :=
  let bytes := records.flatMap fun
    | .consoleStream bytes => bytes
    | _ => []
  match String.fromUTF8? ⟨bytes.toArray⟩ with
  | some value =>
    if value.toList.all fun c => !isControl c || ['\n', '\r', '\t'].contains c then value else ""
  | none => ""

/-- `SessionWorker::handshake`. -/
def handshake (version : String) (ptyPath : Bytes) : Action Unit := do
  onlyIf (version = "mi3") fixBreakpointScripts
  forEach handshakeSettings fun setting => do
    let _ ← handshakeCommand (MiCommand.withBare "-gdb-set" setting)
  let enabled ← observe fun w => if w.profile.controlsTarget then "on" else "off"
  forEach controlSettings fun setting => do
    let _ ← handshakeCommand (MiCommand.withBare "-gdb-set" [setting, enabled])
  let _ ← handshakeCommand (MiCommand.new "-list-features")
  let reply ← handshakeCommand (MiCommand.new "-gdb-version")
  update fun w =>
    { w with moduleOffsetRebinding := moduleRebindingStatus (consoleText reply.streamRecords) }
  forEach probedCommands fun name => do
    let _ ← probeCommand name
  let _ ← handshakeCommand ((MiCommand.new "-inferior-tty-set").map fun command =>
    command.string ptyPath)

/-- `SessionWorker::load_extension`. -/
def loadExtension (extension : Except Error (Option Bytes)) : Action Unit := do
  match ← ofExcept extension with
  | none => pure ()
  | some source =>
    let command ← ofExcept (MiCommand.withBare "-interpreter-exec" ["console"])
    match ← attempt (execute .extension (command.string source)) with
    | .error _ => pure ()
    | .ok _ =>
      let probe ← ofExcept (MiCommand.new "-gdb-ai-capabilities")
      let _ ← attempt (execute .extension probe)

/-- `SessionWorker::bootstrap`. -/
def bootstrap (config : Configuration) : Action Unit := do
  let versions :=
    if config.fallbackMi = config.preferredMi then [config.preferredMi]
    else [config.preferredMi, config.fallbackMi]
  let version ← startBackend versions none
  applyEvent .backendStarted
  handshake version config.ptyPath
  loadExtension config.extension
  checkpoint applyEvent true

/-! ### The idle loop -/

/-- Breakpoints are rebound between two arrivals. -/
def rebindWhenNeeded : Action Unit := do
  if ← observe fun w => w.moduleRebindNeeded && w.timedOutTokens.isEmpty &&
      !w.live.reconciliationRequired then
    update fun w => { w with moduleRebindNeeded := false }
    let _ ← attempt rebindPendingModuleBreakpoints

/-- The flush interval has passed: whether the worker stops. -/
def idleTick : Action Bool := do
  match ← attempt flushCheckpoint with
  | .ok () => pure false
  | .error _ =>
    markFailed
    let _ ← ask Environment.shutdown
    pure true

/-- GDB's input channel has closed: the worker stops. -/
def idleChannelClosed : Action Bool := do
  let _ ← attempt (applyEvent (.backendExited none))
  markFailed
  let _ ← ask Environment.shutdown
  pure true

/-- A record that no command waits for. -/
def idleRecord : Except Error (Option (MiRecord × ℕ)) → Action Unit
  | .ok (some (record, _)) => do
    match ← takeDelayedToken record with
    | some token => do let _ ← attempt (applyEvent (.commandOutcomeResolved token))
    | none => do let _ ← attempt (handleUnmatchedResult record)
  | _ => pure ()

/-- An input from GDB between two commands: whether the worker stops. -/
def idleInput (input : BackendInput) : Action Bool := do
  idleRecord (← attempt (processInput input))
  finishRequest

/-- The grace period of an acknowledged interrupt is over. -/
def idleWake : Action Unit := do
  match ← attempt escalateAcknowledgedInterrupt with
  | .ok () => pure ()
  | .error _ => markFailed

/-- What the worker does with an arrival between two commands: whether it stops. -/
def idleArrival : Arrival → Action Bool
  | .tick => idleTick
  | .control request => do
    if ← observe fun w => w.controlsOpen then
      match request with
      | some control => handleControl control
      | none => do
        update fun w => { w with controlsOpen := false }
        pure false
    else wait
  | .request none => do
    let _ ← attempt close
    pure true
  | .request (some request) => handleRequest request
  | .backend none => idleChannelClosed
  | .backend (some input) => idleInput input
  | .wake => do
    if ← observe fun w => w.interruptFallbackAt.isSome then
      idleWake
      pure false
    else wait

/-- One turn of the loop of `SessionWorker::run`. -/
def idleTurn (_ : Unit) : Action (Unit ⊕ Unit) := do
  rebindWhenNeeded
  let stops ← idleArrival (← nextArrival)
  pure (if stops then .inr () else .inl ())

/-- The evidence of a session that was not closed. -/
def finalizeLate : Action Unit := do
  let _ ← ask Environment.shutdown
  match ← attempt finalizeOutputEvidence with
  | .ok () => pure ()
  | .error _ => markFailed

/-- The last checkpoint; the journal of a failed worker gets none. -/
def finalCheckpoint : Action Unit := do
  if ← observe fun w => w.fatal then
    let _ ← ask Environment.store
  else
    let _ ← attempt (checkpoint applyEvent false)

/-- `SessionWorker::run`, behind the loop. -/
def shutdownTail : Action Unit := do
  onlyIf (← observe fun w => !w.outputEvidenceFinalized) finalizeLate
  finalCheckpoint
  let _ ← attempt flushJournal

/-- `SessionWorker::run`. -/
def run : Action Unit := do
  loop (← observe fun w => w.arrivals.length + 1) idleTurn ()
  shutdownTail

/-- A whole session: `SessionHandle::start` and the task it spawns. -/
def session (config : Configuration) : Action Unit := do
  let _ ← appendJournal (.sessionCreated config.sessionId.text (some normalizationVersion))
  bootstrap config
  run

/-- The world a session reaches once it has taken what arrives. -/
def World.after (env : Environment) (config : Configuration) (arrivals : List Arrival) : World :=
  (session config env (World.initial config arrivals)).2

/-! ### A session in which no I/O fails -/

/-- Every I/O succeeds, and time passes with the questions asked. -/
def Environment.smooth : Environment where
  length _ := 1
  journal _ := .ok
  clock question := question
  spawn _ := .ok ()
  send _ := .ok ()
  shutdown _ := .ok ()
  signalInterrupt _ := .ok ()
  tryWait _ := .ok none
  store _ := .ok ()
  evidence _ := .ok "output"
  inferiorPosition _ := (0, 0)
  flushInferiorInput _ := .ok ()
  writeInferior _ := .ok 0
  cancelled _ := false
  moduleOffset _ := .ok none
  observationId question := toString question

/-- A session that controls its target. -/
def Configuration.plain (durability : JournalDurability) : Configuration where
  sessionId := ⟨"sess_1"⟩
  profile := .debugControl
  durability := durability
  journalBytes := 1000000
  preferredMi := "mi2"
  fallbackMi := "mi2"
  extension := .ok none
  ptyPath := []
  streamLimit := 100
  commandTimeout := 1000000
  memoryReadBytes := 100
  maxSnapshots := 10
  maxOperations := 10

/-- A record of GDB. -/
def Arrival.mi (record : MiRecord) : Arrival := .backend (some (.mi [] record))

/-- GDB answers a token. -/
def Arrival.done (token : ℕ) : Arrival := .mi (.result (some token) "done" [])

/-- The prompt, and the answers to the nineteen commands of the handshake. -/
def startup : List Arrival := .mi .prompt :: (List.range' 1 19).map .done

end GdbAi
