import GdbAi.Session.Execution

/-!
# Requests and controls

What the worker does with the requests and controls it takes while no command is in flight.  A
request may execute several commands: settings left over from an earlier request, module
breakpoints parked before a fresh run, the commands around a transaction, the guards of a safe
evaluation, and behind the response the deletion of one stale value.
-/

namespace GdbAi

open Procedure

/-! ### Restoration -/

/-- `SessionWorker::run_restoration`. -/
def runRestoration (site : Site) (commands : List MiCommand) (deadline : ℕ) : Action Unit :=
  forEach commands fun command => do
    let _ ← executeUntil site command deadline

/-- `SessionWorker::restore_deferred_commands`. -/
def restoreDeferredCommands (site : Site) (deadline : ℕ) : Action Unit := do
  let commands ← observe fun w => w.deferredRestoration
  if commands = [] then pure ()
  else
    match ← attempt (runRestoration site commands deadline) with
    | .error error =>
      fail ⟨.consistencyDirty, "deferred GDB setting restoration failed: " ++ error.display, false⟩
    | .ok () => update fun w => { w with deferredRestoration := [] }

/-- `SessionWorker::cleanup_one_stale_value`. -/
def cleanupOneStaleValue : Action Unit := do
  if ← observe World.staleDue then
    match ← observe fun w => w.staleBackendValues.getLast? with
    | none => pure ()
    | some backendName =>
      update fun w => { w with staleBackendValues := w.staleBackendValues.dropLast }
      match MiCommand.withBare "-var-delete" [backendName] with
      | .error _ => pure ()
      | .ok command =>
        let deadline := (← ask Environment.clock) + 250
        match ← attempt (executeUntil .staleValue command deadline) with
        | .ok _ => pure ()
        | .error error =>
          if error.code = .timeout ∨ error.code = .gdbUnresponsive then
            update fun w => { w with staleBackendValues := w.staleBackendValues ++ [backendName] }

/-! ### Module breakpoints -/

/-- The breakpoint has moved to another number. -/
def World.moveBreakpoint (w : World) (breakpoint : PendingModuleBreakpoint) (number : String)
    (enabled : Bool) : World :=
  { w with
    pendingModuleBreakpoints :=
      (w.pendingModuleBreakpoints.erase breakpoint.backendNumber).insert number
        { breakpoint with backendNumber := number, enabled := enabled } }

/-- GDB is asked to disable a breakpoint. -/
def disableBreakpoint (site : Site) (number : String) (deadline : ℕ) : Action Unit := do
  let command ← ofExcept (MiCommand.withBare "-break-disable" [number])
  let _ ← executeUntil site command deadline

/-- The commands of `replace_module_breakpoint`. -/
def moveModuleBreakpoint (site : Site) (breakpoint : PendingModuleBreakpoint) (enabled : Bool)
    (command : MiCommand) (address : Option String) (deadline : ℕ) : Action Unit := do
  let oldNumber := breakpoint.backendNumber
  let reply ← executeUntil site command deadline
  let newNumber ← ofExcept (breakpointNumber reply.record)
  onlyIf (!enabled) (disableBreakpoint site newNumber deadline)
  applyEvent (.breakpointRebound breakpoint.id oldNumber newNumber enabled address)
  update fun w => w.moveBreakpoint breakpoint newNumber enabled
  let command ← ofExcept (MiCommand.withBare "-break-delete" [oldNumber])
  match ← attempt (executeUntil site command deadline) with
  | .ok _ => pure ()
  | .error error =>
    applyEvent (.consistencyDirty ("module breakpoint moved to " ++ newNumber ++
      ", but old breakpoint " ++ oldNumber ++ " could not be deleted: " ++ error.display))
    fail error

/-- The event of a snapshot that waited for a replacement. -/
def publishDeferredSnapshot (succeeded : Bool) : Action Unit := do
  let deferred ← observe fun w => w.deferredSnapshotReady
  update fun w => { w with deferredSnapshotReady := none }
  match deferred with
  | none => pure ()
  | some (stopId, snapshotId, partialRead) =>
    if ← observe fun w => !w.fatal && decide (w.live.stopId = some stopId) then
      applyEvent (if succeeded then .snapshotReady stopId (some snapshotId) partialRead
        else .snapshotFailed stopId)

/-- `SessionWorker::replace_module_breakpoint`. -/
def replaceModuleBreakpoint (site : Site) (breakpoint : PendingModuleBreakpoint) (enabled : Bool)
    (command : MiCommand) (address : Option String) (deadline : ℕ) : Action Unit := do
  update fun w => { w with replacingModuleBreakpoint := true }
  let result ← attempt (moveModuleBreakpoint site breakpoint enabled command address deadline)
  update fun w => { w with replacingModuleBreakpoint := false }
  let published ← attempt (publishDeferredSnapshot result.isOk)
  ofExcept result
  ofExcept published

/-- The module breakpoints that GDB still holds as pending, or no longer does, and whether they
are enabled there. -/
def World.moduleBreakpoints (w : World) (pending : Bool) :
    List (PendingModuleBreakpoint × Bool) :=
  w.pendingModuleBreakpoints.toList.filterMap fun entry => do
    let state ← w.live.breakpoints[entry.2.backendNumber]?
    if state.pending = pending then some (entry.2, state.enabled) else none

/-- `SessionWorker::rebind_pending_module_breakpoints`. -/
def rebindPendingModuleBreakpoints : Action Unit := do
  if ← observe fun w => w.targetRunning && decide (w.moduleOffsetRebinding = .unsupported) then
    pure ()
  else
    forEach (← observe fun w => w.moduleBreakpoints true) fun (breakpoint, _) => do
      match ← require Environment.moduleOffset with
      | none => pure ()
      | some address =>
        let command := breakpoint.command.string (utf8 ("*" ++ address))
        replaceModuleBreakpoint .rebind breakpoint breakpoint.enabled command (some address)
          (← commandDeadline)

/-- `SessionWorker::park_module_breakpoints`. -/
def parkModuleBreakpoints (deadline : ℕ) : Action Unit := do
  forEach (← observe fun w => w.moduleBreakpoints false) fun (breakpoint, enabled) => do
    let command ← ofExcept (MiCommand.withBare "-break-insert" ["-f"])
    let placeholder := "__gdb_ai_pending_" ++ breakpoint.id.text
    replaceModuleBreakpoint .park breakpoint enabled (command.string (utf8 placeholder)) none
      deadline
  update fun w =>
    { w with moduleRebindNeeded := w.moduleRebindNeeded || !w.pendingModuleBreakpoints.isEmpty }

/-! ### Safe evaluation -/

section SafeEvaluation

variable (operation : Option ActiveOperation)

/-- The values of the settings. -/
def readSettings (deadline : ℕ) : List String → Action (List (String × String))
  | [] => pure []
  | setting :: settings => do
    requireActive operation
    let command ← ofExcept (MiCommand.withBare "-gdb-show" [setting])
    let reply ← executeUntil .evaluateShow command deadline
    match text reply.record.results "value" with
    | none => fail ⟨.gdbError, "GDB setting has no value", false⟩
    | some value => do pure ((setting, value) :: (← readSettings deadline settings))

/-- The values to restore: those of GDB, or those of the handshake. -/
def originalSettings (deadline : ℕ) (settings : List String) (inspectOriginals : Bool) :
    Action (List (String × String)) :=
  if inspectOriginals then readSettings operation deadline settings
  else pure (settings.map fun setting => (setting, "on"))

/-- The settings are switched off.  The result has those that were, and the error that stopped
the setup. -/
def guardSettings (deadline : ℕ) :
    List String → List String → Action (List String × Option Error)
  | [], guarded => pure (guarded, none)
  | setting :: settings, guarded => do
    match ← attempt (requireActive operation) with
    | .error error => pure (guarded, some error)
    | .ok () =>
      let command ← ofExcept (MiCommand.withBare "-gdb-set" [setting, "off"])
      match ← attempt (executeUntil (.evaluateGuard guarded) command deadline) with
      | .ok _ => guardSettings deadline settings (guarded ++ [setting])
      | .error error =>
        if setting = "may-write-registers" ∧ error.code = .gdbError then
          guardSettings deadline settings guarded
        else pure (guarded, some error)

/-- The replies of a safe evaluation. -/
abbrev Replies := Except Error (List (Except Error CommandReply))

/-- The first command has the deadline of the request, the others one of their own. -/
def evaluationDeadline (first : Bool) (deadline : ℕ) : Action ℕ :=
  if first then pure deadline else commandDeadline

/-- The commands are evaluated; independent read failures do not stop the others.  The result has
the replies and the last deadline. -/
def evaluateCommands (guarded : List String) :
    List MiCommand → (first : Bool) → (deadline : ℕ) → Action (Replies × ℕ)
  | [], _, deadline => pure (.ok [], deadline)
  | command :: commands, first, deadline => do
    match ← attempt (do
        requireActive operation
        requireKnownOutcome command.name) with
    | .error error => pure (.error error, deadline)
    | .ok () =>
      let deadline ← evaluationDeadline first deadline
      match ← attempt (executeUntil (.evaluate guarded) command deadline) with
      | .ok reply => do
        let (replies, deadline) ← evaluateCommands guarded commands false deadline
        pure (replies.map (.ok reply :: ·), deadline)
      | .error error =>
        if error.code.isIndependentReadFailure then do
          let (replies, deadline) ← evaluateCommands guarded commands false deadline
          pure (replies.map (.error error :: ·), deadline)
        else pure (.error error, deadline)

/-- The evaluation between the guards and their restoration. -/
def evaluateGuarded (commands : List MiCommand) (deadline : ℕ) (guarded : List String) :
    Option Error → Action (Replies × ℕ)
  | some error => pure (.error error, deadline)
  | none => evaluateCommands operation guarded commands true deadline

/-- The commands that restore the guarded settings. -/
def restorationCommands (originals : List (String × String)) (guarded : List String) :
    Except Error (List MiCommand) :=
  (originals.filter fun original => guarded.contains original.1).mapM fun original =>
    MiCommand.withBare "-gdb-set" [original.1, original.2]

/-- The guarded settings are restored, or their restoration is deferred. -/
def restoreSettings (restoration : List MiCommand) (deadline : ℕ) : Action Unit := do
  if ← observe fun w => !w.timedOutTokens.isEmpty then
    update fun w => { w with deferredRestoration := restoration }
    applyEvent (.consistencyDirty "safe-evaluation settings await a known command outcome")
  else
    match ← attempt (runRestoration .evaluateRestore restoration deadline) with
    | .ok () => pure ()
    | .error error =>
      applyEvent (.consistencyDirty
        ("failed to restore safe-evaluation settings: " ++ error.display))
      fail ⟨.consistencyDirty, "safe-evaluation settings could not be restored", false⟩

/-- `SessionWorker::execute_safe`. -/
def executeSafe (commands : List MiCommand) (deadline : ℕ) :
    Action (List (Except Error CommandReply)) := do
  let (settings, inspectOriginals) ← observe fun w => safeEvaluationSettings w.profile
  let originals ← originalSettings operation deadline settings inspectOriginals
  let (guarded, setupError) ← guardSettings operation deadline settings []
  let (result, deadline) ← evaluateGuarded operation commands deadline guarded setupError
  -- settings whose restoration cannot be encoded stay switched off
  let restoration ← ofExcept (restorationCommands originals guarded)
  restoreSettings restoration deadline
  ofExcept result

end SafeEvaluation

/-! ### Requests that execute commands -/

/-- The end of `handle_request`: whether the worker stops. -/
def finishRequest : Action Bool := do
  onlyIf (← observe fun w => w.fatal) (do let _ ← ask Environment.shutdown)
  observe fun w => w.fatal

/-- What precedes the commands of a request. -/
def prepareCommand (command : MiCommand) (deadline : ℕ) : Action Unit := do
  requireKnownOutcome command.name
  restoreDeferredCommands .deferred deadline
  if commandStartsFreshInferior command then parkModuleBreakpoints deadline

/-- `handle_request`, branch `Command`. -/
def handleCommand (command : MiCommand) (operation : Option ActiveOperation) (deadline : ℕ) :
    Action Bool := do
  match ← attempt (prepareCommand command deadline) with
  | .error error =>
    respond (.reply (.error error))
    pure false
  | .ok () =>
    respond (.reply (← attempt (executeOperationUntil .command command operation deadline)))
    cleanupOneStaleValue
    finishRequest

/-- The commands of a transaction up to its own. -/
def executeTransaction (before : List MiCommand) (command : MiCommand) (after : List MiCommand)
    (operation : Option ActiveOperation) (deadline : ℕ) : Action CommandReply := do
  forEach before fun command => do
    requireActive operation
    let _ ← executeUntil (.transaction after) command deadline
  executeOperationUntil (.transaction after) command operation deadline

/-- The commands a transaction owes, and its response. -/
def finishTransaction (after : List MiCommand) (deadline : ℕ) (result : Except Error CommandReply) :
    Action Unit := do
  if after ≠ [] ∧ (← observe fun w => w.timedOutTokens) ≠ [] then
    update fun w => { w with deferredRestoration := after }
    match ← attempt (applyEvent (.consistencyDirty
        "temporary GDB settings await a known command outcome")) with
    | .ok () => respond (.reply result)
    | .error error => respond (.reply (.error error))
  else
    match ← attempt (runRestoration .transactionAfter after deadline) with
    | .ok () => respond (.reply result)
    | .error error =>
      let _ ← attempt (applyEvent (.consistencyDirty
        ("failed to restore temporary GDB settings: " ++ error.display)))
      respond (.reply (.error
        ⟨.consistencyDirty, "temporary GDB settings could not be restored", false⟩))

/-- `handle_request`, branch `Transaction`. -/
def handleTransaction (before : List MiCommand) (command : MiCommand) (after : List MiCommand)
    (operation : Option ActiveOperation) (deadline : ℕ) : Action Bool := do
  match ← attempt (prepareCommand command deadline) with
  | .error error =>
    respond (.reply (.error error))
    pure false
  | .ok () =>
    let result ← attempt (executeTransaction before command after operation deadline)
    finishTransaction after deadline result
    cleanupOneStaleValue
    finishRequest

/-- `handle_request`, branch `SafeEvaluate`. -/
def handleSafeEvaluate (commands : List MiCommand) (operation : Option ActiveOperation)
    (deadline : ℕ) : Action Bool := do
  match ← attempt (do
      forEach commands fun command => requireKnownOutcome command.name
      restoreDeferredCommands .deferred deadline) with
  | .error error =>
    respond (.replies (.error error))
    pure false
  | .ok () =>
    respond (.replies (← attempt (executeSafe operation commands deadline)))
    cleanupOneStaleValue
    finishRequest

/-- `SessionWorker::refresh_target_capabilities`, without the capabilities. -/
def refreshTargetCapabilities (operation : Option ActiveOperation) (deadline : ℕ) :
    Action Unit := do
  let command ← ofExcept (MiCommand.new "-list-target-features")
  let _ ← executeOperationUntil .refresh command operation deadline

/-- `handle_request`, branch `RefreshTargetCapabilities`. -/
def handleRefresh (operation : Option ActiveOperation) (deadline : ℕ) : Action Bool := do
  let result ← attempt (do
    requireKnownOutcome "-list-target-features"
    restoreDeferredCommands .refreshDeferred deadline
    refreshTargetCapabilities operation deadline)
  respond (.done result)
  cleanupOneStaleValue
  finishRequest

/-! ### Requests on the worker's own data -/

/-- A checkpoint and a flush of the journal. -/
def flushCheckpoint : Action Unit := do
  journalResult applyEvent (← attempt (do
    checkpoint applyEvent false
    flushJournal))

/-- `handle_request`, branch `RegisterPendingModuleBreakpoint`. -/
def registerPendingModuleBreakpoint (breakpoint : PendingModuleBreakpoint) : Action Unit := do
  let refused ← observe fun w =>
    decide (w.moduleOffsetRebinding = .unsupported) &&
      (w.live.breakpoints[breakpoint.backendNumber]?).any fun state => state.pending
  if refused then
    fail ⟨.capabilityMissing, "GDB 9/10 require the module to be mapped at a stopped target",
      false⟩
  else
    update fun w =>
      { w with
        pendingModuleBreakpoints :=
          w.pendingModuleBreakpoints.insert breakpoint.backendNumber breakpoint
        moduleRebindNeeded := true }

/-- `handle_request`, branch `RegisterValue`. -/
def registerValue (binding : ValueBinding) : Action Unit := do
  let values ← observe fun w => w.values
  if values.size ≥ 1024 then
    fail ⟨.outputLimit, "session value-object limit reached", false⟩
  else if values.contains binding.valueId then
    fail ⟨.alreadyExists, "value object already exists", false⟩
  else update fun w => { w with values := w.values.insert binding.valueId binding }

/-- `handle_request`, branch `GetValue`. -/
def getValue (valueId : String) : Action ValueBinding := do
  match ← observe fun w => w.values[valueId]? with
  | some binding => pure binding
  | none =>
    let current ← observe fun w => w.live.stopId
    if valueId.toList.head? = some 'v' ∧
        ∀ stop ∈ current, ¬ stop.text.toList <:+: valueId.toList then
      fail ⟨.staleContext, "value object belongs to an earlier stop", false⟩
    else fail ⟨.notFound, "value object not found", false⟩

/-- `handle_request`, branch `RemoveValue`. -/
def removeValue (valueId : String) : Action ValueBinding := do
  match ← observe fun w => w.values[valueId]? with
  | some binding =>
    update fun w => { w with values := w.values.erase valueId }
    pure binding
  | none => fail ⟨.notFound, "value object not found", false⟩

/-- `handle_request`, branch `AddTracking`. -/
def addTracking (definition : TrackingDefinition) : Action Unit := do
  let (tracking, limit) ← observe fun w => (w.tracking, w.trackingMemoryLimit)
  let tracked := (tracking.toList.map fun entry => entry.2.memoryLength).sum
  if tracked + definition.memoryLength > limit then
    fail ⟨.outputLimit, "tracked memory exceeds the session memory budget", false⟩
  else if tracking.size ≥ 128 then
    fail ⟨.outputLimit, "session tracking-definition limit reached", false⟩
  else if tracking.contains definition.id then
    fail ⟨.alreadyExists, "tracking definition already exists", false⟩
  else
    storeUnlessFailed applyEvent
    update fun w => { w with tracking := w.tracking.insert definition.id definition }

/-- `handle_request`, branch `RemoveTracking`. -/
def removeTracking (trackingId : String) : Action TrackingDefinition := do
  match ← observe fun w => w.tracking[trackingId]? with
  | none => fail ⟨.notFound, "tracking definition not found", false⟩
  | some definition =>
    storeUnlessFailed applyEvent
    update fun w =>
      { w with
        tracking := w.tracking.erase trackingId
        trackingHistory := w.trackingHistory.erase trackingId }
    pure definition

/-- The history of a definition behind one more observation. -/
def trackingHistoryWith (definition : TrackingDefinition) (history : List String)
    (current : String) : List String :=
  let bytes := max 1 (byteLength current.toList)
  let maximum := min definition.maximum (max 1 (1024 * 1024 / bytes))
  let history := history ++ [current]
  history.drop (history.length - maximum)

/-- One observation is recorded; the result is the change it shows. -/
def recordObservation (trackingId current : String) : Action (List (String × String × String)) := do
  match ← observe fun w => w.tracking[trackingId]? with
  | none => pure []
  | some definition =>
    let history ← observe fun w => (w.trackingHistory[trackingId]?).getD []
    update fun w =>
      { w with
        trackingHistory :=
          w.trackingHistory.insert trackingId (trackingHistoryWith definition history current) }
    match history.getLast? with
    | some previous => pure (if previous ≠ current then [(trackingId, previous, current)] else [])
    | none => pure []

/-- The observations are recorded in turn. -/
def recordObservations : List (String × String) → Action (List (String × String × String))
  | [] => pure []
  | (trackingId, current) :: observations => do
    let change ← recordObservation trackingId current
    pure (change ++ (← recordObservations observations))

/-- The request belongs to the current stop. -/
def requireContext (stopId : StopId) (executionEpoch : ℕ) (subject : String) : Action Unit := do
  let state ← observe World.live
  if state.stopId = some stopId ∧ state.executionEpoch = executionEpoch then pure ()
  else fail ⟨.staleContext, "target stop changed before " ++ subject ++ " commit", false⟩

/-- `handle_request`, branch `CommitSnapshot`. -/
def commitSnapshot (content : String) (stopId : StopId) (executionEpoch : ℕ)
    (partialRead publishSnapshot : Bool) (operation : Option ActiveOperation) :
    Action Snapshot := do
  requireActive operation
  requireContext stopId executionEpoch "snapshot"
  let revision ← observe fun w => w.live.revision
  let snapshot ← storeSnapshotValue applyEvent
    ⟨"", stopId, revision, executionEpoch, partialRead, .captured content⟩
  onlyIf publishSnapshot
    (applyEvent (.snapshotReady stopId (some snapshot.observationId) partialRead))
  pure snapshot

/-- `handle_request`, branch `WriteInferior`. -/
def writeInferior (bytes : Bytes) : Action ℕ := do
  let _ ← append (.inferiorInput bytes)
  require Environment.writeInferior

/-- `handle_request`, branch `GetOperation`. -/
def getOperation (operationId : String) : Action OperationRecord := do
  match ← observe fun w => w.operations[operationId]? with
  | some operation => pure operation
  | none => fail ⟨.notFound, "operation not found in this session", false⟩

/-- `handle_request`, branch `RecordTracking`. -/
def recordTracking (observations : List (String × String)) (stopId : StopId)
    (executionEpoch : ℕ) (operation : Option ActiveOperation) :
    Action (List (String × String × String)) := do
  requireActive operation
  requireContext stopId executionEpoch "tracking"
  recordObservations observations

/-- A request whose result is sent back, whatever it is. -/
def answerRequest {α : Type} (response : Except Error α → Response) (m : Action α) :
    Action Bool := do
  respond (response (← attempt m))
  finishRequest

/-- `SessionWorker::handle_request`: whether the worker stops. -/
def handleRequest : WorkerRequest → Action Bool
  | .command command operation deadline => handleCommand command operation deadline
  | .transaction before command after operation deadline =>
    handleTransaction before command after operation deadline
  | .safeEvaluate commands operation deadline => handleSafeEvaluate commands operation deadline
  | .refreshTargetCapabilities operation deadline => handleRefresh operation deadline
  | .recordEvent event => answerRequest .done (applyEvent event)
  | .registerPendingModuleBreakpoint breakpoint => do
    match ← attempt (registerPendingModuleBreakpoint breakpoint) with
    -- the refusal returns before the worker looks at `fatal`
    | .error error =>
      respond (.done (.error error))
      pure false
    | .ok () =>
      respond (.done (.ok ()))
      finishRequest
  | .getOperation operationId => answerRequest .operation (getOperation operationId)
  | .flushJournal => answerRequest .done flushCheckpoint
  | .registerValue binding => answerRequest .done (registerValue binding)
  | .getValue valueId => answerRequest .value (getValue valueId)
  | .removeValue valueId => answerRequest .value (removeValue valueId)
  | .addTracking definition => answerRequest .done (addTracking definition)
  | .removeTracking trackingId => answerRequest .tracking (removeTracking trackingId)
  | .listTracking => do
    respond (.trackings (← observe fun w => w.tracking.toList.map Prod.snd))
    finishRequest
  | .recordTracking observations stopId executionEpoch operation =>
    answerRequest .changes (recordTracking observations stopId executionEpoch operation)
  | .commitSnapshot content stopId executionEpoch partialRead publishSnapshot operation =>
    answerRequest .snapshot
      (commitSnapshot content stopId executionEpoch partialRead publishSnapshot operation)
  | .writeInferior bytes _ _ => answerRequest .written (writeInferior bytes)

/-! ### Controls -/

/-- `handle_control`, branch `Interrupt`. -/
def handleInterrupt (command : MiCommand) (deadline : ℕ) : Action Bool := do
  let result ← attempt (do
    requireKnownOutcome command.name
    if deadline ≤ (← ask Environment.clock) then
      fail ⟨.timeout, "interrupt deadline expired while queued", true⟩
    else executeUntil .interrupt command deadline)
  finishInterrupt result
  respond (.reply result)
  observe fun w => w.fatal

/-- `handle_control`, branch `CancelOperation` by an interrupt. -/
def cancelIdle (operationId : String) : Action Unit := do
  let command ← ownedInterruptCommand operationId
  let result ← attempt (execute .cancel command)
  finishInterrupt result
  let _ ← ofExcept result

/-- `SessionWorker::handle_control`: whether the worker stops. -/
def handleControl : ControlRequest → Action Bool
  | .recordApi request => do
    respond (.done (← attempt (recordApi request)))
    observe fun w => w.fatal
  | .recordOperation operation => do
    respond (.done (← attempt (recordOperation operation)))
    observe fun w => w.fatal
  | .interrupt command deadline => handleInterrupt command deadline
  | .cancelOperation operationId .interruptTarget => do
    respond (.done (← attempt (cancelIdle operationId)))
    pure false
  | .cancelOperation operationId .closeSession => do
    let result ← attempt (do
      requireActiveResume operationId
      close)
    respond (.done result)
    pure result.isOk
  | .close => do
    respond (.done (← attempt close))
    pure true

end GdbAi
