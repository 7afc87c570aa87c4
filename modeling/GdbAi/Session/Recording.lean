import GdbAi.Session.World

/-!
# Recording events and checkpoints

The part of the session worker that owns the journal and the live state: applying an event appends
it to the journal, reduces it and, in durable mode, checkpoints the state.  A gap of the journal, a
failing store and a stop each apply an event of their own, so the functions are written over the
function `nested` that applies it; `applyEvent` ties the knot at a depth no run exceeds.
-/

namespace GdbAi

open Procedure

/-! ### Steps -/

/-- `Journal::append_*`. -/
def appendJournal (payload : Payload) : Action ℕ := do
  let length ← reads fun env _ => env.length
  let io ← ask Environment.journal
  let (result, journal) ← observe fun w => w.journal.record length payload io
  update fun w => { w with journal := journal }
  ofExcept result

/-- `Journal::flush`. -/
def flushJournal : Action Unit := do
  let io ← ask Environment.journal
  let (result, journal) ← observe fun w => w.journal.flush io.flush
  update fun w => { w with journal := journal }
  ofExcept result

/-- `Journal::finish`. -/
def finishJournal : Action Unit := do
  let length ← reads fun env _ => env.length
  let io ← ask Environment.journal
  let (result, journal) ← observe fun w => w.journal.finish length io
  update fun w => { w with journal := journal }
  ofExcept result

/-- The live state fails closed; the journal has no event for it. -/
def World.failClosed (w : World) : World :=
  let (state, changed) := w.state.failClosed
  { w with
    state := state
    stateDirty := w.stateDirty || changed
    diverged := w.diverged || changed }

/-- `SessionWorker::mark_failed`. -/
def markFailed : Action Unit := update World.failClosed

/-- `SessionState::attributed_exit`. -/
def SessionState.attributedExit (s : SessionState) : DomainEvent → Bool
  | .inferiorExited backendId _ _ => (s.attributedInferior backendId).isSome
  | _ => false

/-- The events that end the target's run of an operation. -/
def DomainEvent.endsResume : DomainEvent → Bool
  | .targetStopped .. | .targetDisconnected | .targetDetached | .backendExited _ => true
  | _ => false

/-- The events that invalidate the value objects of a stop. -/
def DomainEvent.invalidatesValues : DomainEvent → Bool
  | .targetRunning _ | .targetDisconnected | .targetDetached | .backendExited _ => true
  | _ => false

/-- The events behind which pending breakpoints may be bound. -/
def DomainEvent.mapsModules : DomainEvent → Bool
  | .libraryLoaded .. | .targetStopped .. => true
  | _ => false

/-- The event takes the target's run from the operation that owns it. -/
def World.endsResume (w : World) (event : DomainEvent) : Bool :=
  w.live.attributedExit event || event.endsResume

/-- What `apply_event_inner` notes about an event before it is recorded. -/
def World.noteEvent (w : World) (event : DomainEvent) : World :=
  let pending := match event with
    | .breakpointDeleted backendNumber => w.pendingModuleBreakpoints.erase backendNumber
    | .breakpointModified backendNumber enabled _ =>
      w.pendingModuleBreakpoints.modify backendNumber fun breakpoint =>
        { breakpoint with enabled := enabled }
    | _ => w.pendingModuleBreakpoints
  { w with
    activeResumeOperation := if w.endsResume event then none else w.activeResumeOperation
    pendingModuleBreakpoints := pending
    moduleRebindNeeded := w.moduleRebindNeeded || (!pending.isEmpty && event.mapsModules) }

/-- The value objects of a stop become stale. -/
def World.invalidateValues (w : World) : World :=
  { w with
    staleBackendValues := w.staleBackendValues ++ w.values.toList.map fun entry => entry.2.backendName
    values := ∅ }

/-- The event is appended and reduced; the result tells whether the revision changed. -/
def journalEvent (event : DomainEvent) : Action Bool := do
  match ← attempt (appendJournal (.normalizedEvent event)) with
  | .error error =>
    update fun w => { w with diverged := true }
    fail error
  | .ok seq =>
    let (state, changed) ← (do ofExcept (← observe fun w => w.live.applyEvent seq event))
    update fun w => w.reduce event state
    pure changed

/-- The event is recorded, and what it invalidates. -/
def recordEvent (event : DomainEvent) : Action Bool := do
  let invalidates ← observe fun w => w.live.attributedExit event || event.invalidatesValues
  let changed ← journalEvent event
  onlyIf invalidates (update World.invalidateValues)
  update fun w => { w with stateDirty := w.stateDirty || changed }
  pure changed

/-- The live state is appended; the trace notes the checkpoint of a diverged state. -/
def appendLive : Action ℕ := do
  let state ← observe World.live
  update fun w => if w.diverged then { w with late := w.late ++ [w.journal.nextSeq] } else w
  appendJournal (.stateRevision state.revision state)

/-! ### Functions over the nested event -/

section Nested

variable (nested : DomainEvent → Action Unit)

/-- `SessionWorker::report_journal_gap`. -/
def reportJournalGap : Action Unit := do
  match ← observe fun w => if w.journalGapReported then none else w.journal.gap with
  | none => pure ()
  | some gap =>
    update fun w => { w with journalGapReported := true }
    nested (.evidenceGap ("journal evidence unavailable from sequence " ++ toString gap.fromSeq ++
      ": " ++ gap.reason))

/-- `SessionWorker::journal_result`. -/
def journalResult {α : Type} (result : Except Error α) : Action α :=
  match result with
  | .error error => do
    update fun w => { w with fatal := true }
    markFailed
    fail error
  | .ok value => do
    reportJournalGap nested
    pure value

/-- `SessionWorker::store_result`. -/
def storeResult (result : Except Error Unit) : Action Unit :=
  match result with
  | .ok () => pure ()
  | .error error => do
    if ← observe fun w => w.journal.isDurable then
      update fun w => { w with fatal := true }
      markFailed
      fail error
    else if ← observe fun w => w.storeFailed then pure ()
    else
      update fun w => { w with storeFailed := true }
      nested (.evidenceGap ("SQLite history is incomplete: " ++ error.display))

/-- A write to the store, unless its history is incomplete already. -/
def storeUnlessFailed : Action Unit := do
  if ← observe fun w => !w.storeFailed then storeResult nested (← ask Environment.store)

/-- The live state is appended as a checkpoint, whose failure is fatal. -/
def appendState : Action Unit := do
  update fun w => { w with stateDirty := false }
  let appended ← attempt appendLive
  let _ ← journalResult nested appended

/-- `SessionWorker::checkpoint`. -/
def checkpoint (closing : Bool) : Action Unit := do
  let dirtyOperations ← observe fun w => if w.storeFailed then [] else w.dirtyOperations
  update fun w => { w with dirtyOperations := [] }
  let checkpointState ← observe fun w => w.stateDirty || (closing && w.storeFailed)
  if !checkpointState && dirtyOperations.isEmpty then pure ()
  else
    onlyIf checkpointState (appendState nested)
    if (← observe fun w => !w.storeFailed) || closing then
      storeResult nested (← ask Environment.store)

/-- The snapshot is kept, the oldest ones dropped. -/
def World.keepSnapshot (w : World) (id : String) (snapshot : Snapshot) : World :=
  { w with
    snapshots := w.snapshots.drop (w.snapshots.length + 1 - w.snapshotLimit) ++ [(id, snapshot)] }

/-- `SessionWorker::store_snapshot_value`. -/
def storeSnapshotValue (snapshot : Snapshot) : Action Snapshot := do
  let id := "obs_" ++ (← ask Environment.observationId)
  let snapshot := { snapshot with observationId := id }
  let appended ← attempt (appendJournal (.snapshotResult id snapshot))
  let _ ← journalResult nested appended
  storeUnlessFailed nested
  match ← observe fun w => w.snapshots.find? fun entry => entry.1 = id with
  | some (_, existing) =>
    if existing = snapshot then pure snapshot
    else fail ⟨.conflict, "observation ID already contains different data", false⟩
  | none =>
    update fun w => w.keepSnapshot id snapshot
    pure snapshot

/-- The snapshot `apply_event_inner` captures behind a stop. -/
def captureStop (eventSeq : ℕ) : Action Unit := do
  let state ← observe World.live
  match state.stopId with
  -- a reduced stop has an id
  | none => pure ()
  | some stopId =>
    let frame := state.stoppedFrame
    let snapshot : Snapshot := ⟨"", stopId, state.revision, state.executionEpoch, frame.isNone,
      .minimal state.stopReason frame eventSeq⟩
    match ← attempt (storeSnapshotValue nested snapshot) with
    | .error error =>
      nested (.snapshotFailed stopId)
      fail error
    | .ok snapshot =>
      if ← observe fun w => w.replacingModuleBreakpoint then
        update fun w => { w with
          deferredSnapshotReady := some (stopId, snapshot.observationId, frame.isNone) }
      else nested (.snapshotReady stopId (some snapshot.observationId) frame.isNone)

/-- `SessionWorker::apply_event_inner`. -/
def applyEventInner (event : DomainEvent) : Action Unit := do
  update fun w => w.noteEvent event
  let changed ← recordEvent event
  onlyIf (changed && (← observe fun w => w.journal.isDurable)) (checkpoint nested false)
  update World.publish
  match event with
  | .targetStopped .. => captureStop nested (← observe fun w => w.live.eventSeq)
  | _ => pure ()

end Nested

/-- `SessionWorker::apply_event`, with events nested at most `depth` deep. -/
def applyEventAt : ℕ → DomainEvent → Action Unit
  | 0, _ => wait
  | depth + 1, event => do
    match ← attempt (do
        applyEventInner (applyEventAt depth) event
        reportJournalGap (applyEventAt depth)) with
    | .ok () => pure ()
    | .error error =>
      update fun w => { w with fatal := true }
      markFailed
      fail error

/-- A stop applies a snapshot event; a failed store and a gap of the journal each apply one event
in a whole run. -/
def eventDepth : ℕ := 4

/-- `SessionWorker::apply_event`. -/
def applyEvent (event : DomainEvent) : Action Unit := applyEventAt eventDepth event

/-! ### Records of requests -/

/-- An append whose failure is fatal. -/
def append (payload : Payload) : Action ℕ := do
  journalResult applyEvent (← attempt (appendJournal payload))

/-- `SessionWorker::record_api`. -/
def recordApi (request : String) : Action Unit := do
  let _ ← append (.apiRequest request)

/-- The operations with a new record, the oldest one dropped when there are too many. -/
def World.keepOperation (w : World) (operation : OperationRecord) : World :=
  let id := operation.operationId
  let oldest := if w.operations.contains id || w.operations.size < w.operationLimit then none
    else (w.operations.toList.map Prod.snd).foldl (fun oldest record =>
      match oldest with
      | none => some record
      | some (old : OperationRecord) =>
        if record.createdRevision < old.createdRevision then some record else some old) none
  match oldest with
  | none => { w with operations := w.operations.insert id operation }
  | some oldest =>
    { w with
      operations := (w.operations.erase oldest.operationId).insert id operation
      dirtyOperations := w.dirtyOperations.filter (· ≠ oldest.operationId) }

/-- The operation is stored in durable mode, and marked for the next checkpoint otherwise. -/
def storeOperation (operation : OperationRecord) : Action Unit := do
  if ← observe fun w => w.journal.isDurable then
    storeResult applyEvent (← ask Environment.store)
  else
    update fun w => { w with
      dirtyOperations := w.dirtyOperations.filter (· ≠ operation.operationId) ++
        [operation.operationId] }

/-- `SessionWorker::record_operation`. -/
def recordOperation (operation : OperationRecord) : Action Unit := do
  storeOperation operation
  update fun w => w.keepOperation operation

end GdbAi
