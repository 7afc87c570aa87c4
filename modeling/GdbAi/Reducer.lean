import GdbAi.Domain

/-!
# The state reducer

`StateReducer` of `gdb-ai-core/src/reducer.rs`, the sole transition point of a session's
state.  `reduce` follows the source's `match` branch by branch; it returns the new state and
whether the revision advances.  Longer branches are definitions of their own.
-/

namespace GdbAi

/-! ### Limitations -/

/-- `MAX_LIMITATIONS`. -/
def maxLimitations : ℕ := 64

/-- `LIMITATIONS_OMITTED`. -/
def limitationsOmitted : String := "additional limitations omitted"

/-- The marker in front of a limitation that reconciliation does not clear. -/
def evidenceGapPrefix : String := "evidence gap: "

/-- `push_limitation`. -/
def pushLimitation (limitations : List String) (limitation : String) : List String :=
  if limitation ∈ limitations ∨ limitationsOmitted ∈ limitations then limitations
  else if limitations.length < maxLimitations - 1 then limitations ++ [limitation]
  else limitations ++ [limitationsOmitted]

/-- The branch `EvidenceGap`: the newest gap stands in front. -/
def pushEvidenceGap (limitations : List String) (reason : String) : List String :=
  let limitation := evidenceGapPrefix ++ reason
  if limitation ∈ limitations then limitations
  else
    let limitations := limitation :: limitations
    if limitations.length > maxLimitations then
      limitations.take (maxLimitations - 1) ++ [limitationsOmitted]
    else limitations

/-! ### Inferiors and stops -/

/-- The inferior that `ensure_inferior` registers and a new generation starts from. -/
def freshInferior (session : SessionId) (generation : ℕ) (backendId : String) : InferiorState where
  id := InferiorId.fromBackend session generation backendId
  backendId := backendId
  pid := none
  generation := generation
  status := .empty
  exitCode := none
  threads := ∅

/-- What `InferiorAdded` does to its inferior. -/
def addProcess (session : SessionId) (seq : ℕ) (backendId : String) (pid : Option ℕ)
    (inferior : InferiorState) : InferiorState :=
  -- a PID-bearing add for a new process starts a clean generation
  let inferior :=
    if pid.isSome && (inferior.pid ≠ pid || inferior.status.isTerminal) then
      freshInferior session seq backendId
    else inferior
  let inferior := { inferior with pid := pid }
  if pid.isSome && inferior.status = .empty then { inferior with status := .connecting }
  else inferior

/-- What `InferiorExited` does to its inferior: a known exit code stays. -/
def exitProcess (disconnected : Bool) (exitCode : Option String) (inferior : InferiorState) :
    InferiorState :=
  { inferior with
    status := if disconnected then .disconnected else .exited
    exitCode := if exitCode.isSome then exitCode else inferior.exitCode }

/-- What `TargetRunning` does to an inferior it names. -/
def resumeInferior (inferior : InferiorState) : InferiorState :=
  { inferior with
    status := .running
    threads := inferior.threads.map fun _ thread => { thread with running := true, frame := none } }

/-- What `TargetStopped` does to every inferior. -/
def stopInferior (inferior : InferiorState) : InferiorState :=
  if inferior.status.isTerminal then inferior
  else
    { inferior with
      status := .stopped
      threads := inferior.threads.map fun _ thread => { thread with running := false } }

/-- Statuses that `fail_backend` leaves as they are. -/
def InferiorStatus.survivesFailure (status : InferiorStatus) : Bool :=
  status = .empty || status.isTerminal

namespace SessionState

/-- `clear_stop_context`. -/
def clearStopContext (s : SessionState) : SessionState :=
  { s with
    stopId := none
    stopReason := none
    stopReasonDetail := none
    stoppedInferiorId := none
    stoppedThreadId := none
    snapshot := none }

/-- `ensure_inferior`, at the current event. -/
def ensureInferior (s : SessionState) (backendId : String) : SessionState :=
  { s with
    inferiors :=
      if s.inferiors.contains backendId then s.inferiors
      else s.inferiors.insert backendId (freshInferior s.sessionId s.eventSeq backendId) }

/-- `fail_backend`. -/
def failBackend (s : SessionState) : SessionState × Bool :=
  let changed := decide (s.lifecycle ≠ .failed) || decide (s.backend ≠ .dead) || s.stopId.isSome ||
    s.inferiors.anyEntry fun _ inferior => !inferior.status.survivesFailure
  let s :=
    { s with
      lifecycle := .failed
      backend := .dead
      inferiors := s.inferiors.map fun _ (inferior : InferiorState) =>
        if inferior.status.survivesFailure then inferior
        else { inferior with status := .disconnected } }
  (s.clearStopContext, changed)

/-- The branch `InferiorAdded`. -/
def addInferior (s : SessionState) (backendId : String) (pid : Option ℕ) : SessionState :=
  let s := s.ensureInferior backendId
  { s with
    inferiors := s.inferiors.modify backendId (addProcess s.sessionId s.eventSeq backendId pid)
    lifecycle := if pid.isSome then .active else s.lifecycle }

/-- The branch `InferiorRemoved`. -/
def removeInferior (s : SessionState) (backendId : String) : SessionState × Bool :=
  match s.inferiors[backendId]? with
  | none => (s, false)
  | some removed =>
    let s := { s with inferiors := s.inferiors.erase backendId }
    (if s.stoppedInferiorId = some removed.id then s.clearStopContext else s, true)

/-- The branch `InferiorExited`. -/
def exitInferior (s : SessionState) (backendId exitCode : Option String) (fromStopRecord : Bool) :
    SessionState × Bool :=
  match s.attributedInferior backendId with
  | none => (s, false)
  | some backendId =>
    -- a remote group exit without a code is a lost connection
    let disconnected := s.targetOrigin = .remote && !fromStopRecord && exitCode.isNone &&
      (s.inferiors[backendId]?).all fun inferior => inferior.status ≠ .exited
    let invalidatesStop := (s.inferiors[backendId]?).any fun inferior =>
      s.stoppedInferiorId = some inferior.id
    let s := s.ensureInferior backendId
    let s :=
      { s with inferiors := s.inferiors.modify backendId (exitProcess disconnected exitCode) }
    (if invalidatesStop then s.clearStopContext else s, true)

/-- Whether some inferior runs. -/
def isRunning (s : SessionState) : Bool :=
  s.inferiors.anyEntry fun _ inferior => inferior.status = .running

/-- The branch `TargetRunning`. -/
def resume (s : SessionState) (backendInferiors : List String) : SessionState × Bool :=
  let wasRunning := s.isRunning
  let previousLifecycle := s.lifecycle
  let hadStop := s.stopId.isSome
  let inferiors :=
    if s.inferiors.isEmpty then (s.ensureInferior (backendInferiors.head?.getD "i1")).inferiors
    else s.inferiors
  let named := fun backendId => backendInferiors.isEmpty || backendInferiors.contains backendId
  let statusChanged := inferiors.anyEntry fun backendId inferior =>
    named backendId && inferior.status ≠ .running
  let s :=
    { s with
      inferiors := inferiors.map fun backendId inferior =>
        if named backendId then resumeInferior inferior else inferior
      lifecycle := .active }
  -- the epoch advances on the aggregate edge only
  let runningEdge := !wasRunning && s.isRunning
  let s := { s with executionEpoch := if runningEdge then s.executionEpoch + 1 else s.executionEpoch }
  (s.clearStopContext, runningEdge || statusChanged || hadStop || previousLifecycle ≠ .active)

/-- The inferior a stop belongs to. -/
def stoppedBackend (s : SessionState) (backendInferior backendThread : Option String) : String :=
  let owner := backendThread.bind fun thread =>
    (s.inferiors.first fun _ inferior => inferior.threads.contains thread).map Prod.fst
  ((backendInferior <|> owner) <|> s.inferiors.firstKey).getD "i1"

/-- The thread of a stop, registered in its inferior with the stopped frame. -/
def stopThread (seq : ℕ) (frame : Option FrameSummary) (thread : String)
    (inferior : InferiorState) : InferiorState × ThreadId :=
  let id := (inferior.threads[thread]?.map (·.id)).getD
    (ThreadId.fromBackend inferior.id seq thread)
  ({ inferior with threads := inferior.threads.insert thread ⟨id, thread, false, frame⟩ }, id)

/-- The branch `TargetStopped`. -/
def stop (s : SessionState) (backendInferior backendThread : Option String) (reason : String)
    (reasonDetail : Option StopReason) (frame : Option FrameSummary) : SessionState :=
  let backendId := s.stoppedBackend backendInferior backendThread
  let s := s.ensureInferior backendId
  let inferiors := s.inferiors.map fun _ inferior => stopInferior inferior
  let stoppedInferiorId := inferiors[backendId]?.map (·.id)
  -- `ensure_inferior` has registered the inferior that the source unwraps here
  let stopped := backendThread.bind fun thread =>
    inferiors[backendId]?.map (stopThread s.eventSeq frame thread)
  let stopId := StopId.fromEvent s.sessionId s.eventSeq
  { s with
    inferiors := match stopped with
      | some (inferior, _) => inferiors.insert backendId inferior
      | none => inferiors
    stopId := some stopId
    stopReason := some reason
    stopReasonDetail := reasonDetail <|> some (.unknown reason)
    stoppedInferiorId := stoppedInferiorId
    stoppedThreadId := stopped.map Prod.snd
    snapshot := some ⟨"snap_" ++ stopId.text, stopId, .building, false⟩
    lifecycle := .active
    backend := .healthy }

/-- What `ThreadCreated` does to its inferior. -/
def registerThread (seq : ℕ) (thread : String) (inferior : InferiorState) : InferiorState × Bool :=
  let running := decide (inferior.status = .running)
  match inferior.threads[thread]? with
  | some known =>
    ({ inferior with threads := inferior.threads.insert thread { known with running := running } },
      known.running != running)
  | none =>
    let id := ThreadId.fromBackend inferior.id seq thread
    ({ inferior with threads := inferior.threads.insert thread ⟨id, thread, running, none⟩ }, true)

/-- The branch `ThreadCreated`. -/
def createThread (s : SessionState) (backendInferior thread : String) : SessionState × Bool :=
  let s := s.ensureInferior backendInferior
  match s.inferiors[backendInferior]? with
  | none => (s, false)
  | some inferior =>
    let (inferior, changed) := registerThread s.eventSeq thread inferior
    ({ s with inferiors := s.inferiors.insert backendInferior inferior }, changed)

/-- The inferior a thread exits from: without a name, the first one that has the thread. -/
def threadOwner (s : SessionState) (backendInferior : Option String) (thread : String) :
    Option String :=
  match backendInferior with
  | some backendInferior =>
    if (s.inferiors[backendInferior]?).any fun inferior => inferior.threads.contains thread then
      some backendInferior
    else none
  | none => (s.inferiors.first fun _ inferior => inferior.threads.contains thread).map Prod.fst

/-- The branch `ThreadExited`. -/
def exitThread (s : SessionState) (backendInferior : Option String) (thread : String) :
    SessionState × Bool :=
  match s.threadOwner backendInferior thread with
  | some owner =>
    ({ s with
        inferiors := s.inferiors.modify owner fun inferior =>
          { inferior with threads := inferior.threads.erase thread } },
      true)
  | none => (s, false)

/-- The branch `TargetDisconnected`, and `TargetDetached` with the other status. -/
def releaseTarget (s : SessionState) (status : InferiorStatus) : SessionState :=
  let s :=
    { s with
      inferiors := s.inferiors.map fun _ (inferior : InferiorState) =>
        { inferior with status := status } }
  s.clearStopContext

/-- The branch `CoreOpened`. -/
def openCore (s : SessionState) (backendId : String) : SessionState :=
  let s := s.ensureInferior backendId
  { s with
    inferiors := s.inferiors.modify backendId fun inferior => { inferior with status := .core }
    targetOrigin := .core
    lifecycle := .active }

/-- The branches `BreakpointCreated` and `BreakpointModified`. -/
def setBreakpoint (s : SessionState) (backendNumber : String) (enabled pending : Bool) :
    SessionState :=
  let known := s.breakpoints[backendNumber]?
  { s with
    breakpoints := s.breakpoints.insert backendNumber
      { id := (known.map (·.id)).getD (BreakpointId.fromEvent s.sessionId s.eventSeq backendNumber)
        backendNumber := backendNumber
        enabled := enabled
        pending := pending
        locations := (known.map (·.locations)).getD [] } }

/-- The branch `BreakpointRebound`. -/
def rebindBreakpoint (s : SessionState) (id : BreakpointId)
    (oldBackendNumber newBackendNumber : String) (enabled : Bool) (address : Option String) :
    SessionState :=
  let locations := match address with
    | some address =>
      [{ id := "bpl_" ++ id.text ++ "_" ++ toString s.eventSeq ++ "_1"
         backendNumber := newBackendNumber
         address := some address
         function := none : BreakpointLocationState }]
    | none => []
  { s with
    breakpoints :=
      ((s.breakpoints.erase oldBackendNumber).erase newBackendNumber).insert newBackendNumber
        { id := id
          backendNumber := newBackendNumber
          enabled := enabled
          pending := address.isNone
          locations := locations } }

/-- `if self.state.consistency != Tainted { self.state.consistency = ManagedDirty }`. -/
def markDirty (s : SessionState) : SessionState :=
  if s.consistency ≠ .tainted then { s with consistency := .managedDirty } else s

/-- `push_limitation` on the state. -/
def limit (s : SessionState) (limitation : String) : SessionState :=
  { s with limitations := pushLimitation s.limitations limitation }

/-- The branch `ConsistencyRestored`. -/
def restoreConsistency (s : SessionState) (warnings : List String) : SessionState × Bool :=
  let s := { s with reconciliationRequired := false }
  if s.consistency = .tainted then
    ({ s with limitations := warnings.foldl pushLimitation s.limitations }, !warnings.isEmpty)
  else
    -- reconciliation cannot recover evidence that was never retained
    let kept := s.limitations.filter fun limitation =>
      (stripPrefix evidenceGapPrefix limitation).isSome
    ({ s with
        consistency := .clean
        limitations := warnings.foldl pushLimitation kept }, true)

/-- `StateMutator::reduce`: the state after the event, and whether it counts as a change. -/
def reduce (s : SessionState) : DomainEvent → SessionState × Bool
  | .sessionClosing => ({ s with lifecycle := .closing }, true)
  | .sessionClosed => ({ s with lifecycle := .closed, backend := .dead }, true)
  | .backendStarted => ({ s with lifecycle := .ready, backend := .healthy }, true)
  | .backendExited _ => s.failBackend
  | .inferiorAdded backendId pid => (s.addInferior backendId pid, true)
  | .inferiorRemoved backendId => s.removeInferior backendId
  | .inferiorExited backendId exitCode fromStopRecord =>
    s.exitInferior backendId exitCode fromStopRecord
  | .targetRunning backendInferiors => s.resume backendInferiors
  | .targetStopped backendInferior backendThread reason reasonDetail frame =>
    (s.stop backendInferior backendThread reason reasonDetail frame, true)
  | .threadCreated backendInferior backendThread => s.createThread backendInferior backendThread
  | .threadExited backendInferior backendThread => s.exitThread backendInferior backendThread
  | .breakpointCreated backendNumber enabled pending
  | .breakpointModified backendNumber enabled pending =>
    (s.setBreakpoint backendNumber enabled pending, true)
  | .breakpointDeleted backendNumber =>
    ({ s with breakpoints := s.breakpoints.erase backendNumber },
      s.breakpoints.contains backendNumber)
  | .breakpointLocations backendNumber locations =>
    ({ s with
        breakpoints := s.breakpoints.modify backendNumber fun breakpoint =>
          { breakpoint with locations := locations } },
      s.breakpoints.contains backendNumber)
  | .breakpointRebound id oldBackendNumber newBackendNumber enabled address =>
    (s.rebindBreakpoint id oldBackendNumber newBackendNumber enabled address, true)
  | .libraryLoaded id targetName hostName symbolsLoaded =>
    ({ s with modules := s.modules.insert id ⟨id, targetName, hostName, symbolsLoaded⟩ }, true)
  | .libraryUnloaded id => ({ s with modules := s.modules.erase id }, s.modules.contains id)
  | .memoryChanged | .registerChanged _ => ({ s with snapshot := none }, true)
  | .controllerChanged _ => (s, true)
  | .evidenceGap reason => ({ s with limitations := pushEvidenceGap s.limitations reason }, true)
  | .signalPolicyChanged signal policy =>
    ({ s with signalPolicies := s.signalPolicies.insert signal policy }, true)
  | .snapshotStarted stopId =>
    if s.stopId = some stopId then
      if s.snapshot.any fun snapshot => snapshot.status = .ready then (s, false)
      else ({ s with snapshot := some ⟨"snap_" ++ stopId.text, stopId, .building, false⟩ }, true)
    else (s, false)
  | .snapshotReady stopId snapshotId partialRead =>
    if s.stopId = some stopId then
      ({ s with
          snapshot := s.snapshot.map fun snapshot =>
            { snapshot with
              snapshotId := snapshotId.getD snapshot.snapshotId
              status := .ready
              partialRead := partialRead } }, true)
    else (s, false)
  | .snapshotFailed stopId =>
    if s.stopId = some stopId then
      if s.snapshot.any fun snapshot => snapshot.status = .ready then (s, false)
      else
        ({ s with
            snapshot := s.snapshot.map fun snapshot =>
              { snapshot with status := .failed, partialRead := true } }, true)
    else (s, false)
  | .commandOutcomeUnknown token =>
    ({ s with
        outcomeUnknownTokens := s.outcomeUnknownTokens.insert token
        backend := .unresponsive }.markDirty, true)
  | .commandOutcomeResolved token =>
    let removed := s.outcomeUnknownTokens.contains token
    let s := { s with outcomeUnknownTokens := s.outcomeUnknownTokens.erase token }
    (if s.outcomeUnknownTokens.isEmpty then
        { s with backend := .healthy, reconciliationRequired := true }
      else s,
      removed)
  | .consistencyDirty reason =>
    ({ s.markDirty with reconciliationRequired := true }.limit reason, true)
  | .consistencyReconciling =>
    if s.consistency = .tainted then (s, false)
    else ({ s with consistency := .reconciling }, true)
  | .consistencyTainted reason =>
    ({ s with consistency := .tainted, reconciliationRequired := true }.limit reason, true)
  | .consistencyRestored warnings => s.restoreConsistency warnings
  | .consistencyLost reason =>
    ({ s with consistency := .lost, reconciliationRequired := false }.limit reason, true)
  | .targetDisconnected => (s.releaseTarget .disconnected, true)
  | .targetDetached => (s.releaseTarget .detached, true)
  | .coreOpened backendId => (s.openCore backendId, true)
  | .targetConfigured origin => ({ s with targetOrigin := origin }, true)
  | .unknownBackendEvent cls =>
    ({ s with consistency := .tainted, reconciliationRequired := true }.limit
      ("unknown backend event: " ++ cls), true)
  | .unknownBackendNotification cls =>
    ({ s.markDirty with reconciliationRequired := true }.limit
      ("unknown backend notification: " ++ cls), true)
  | .output _ _ | .outputAdvanced _ _ _ _ => (s, false)

/-- `StateMutator::apply_event`. -/
def applyEvent (s : SessionState) (sequence : ℕ) (event : DomainEvent) :
    Except Error (SessionState × Bool) :=
  if sequence ≤ s.eventSeq then
    .error ⟨.invalidState, "event sequence " ++ toString sequence ++ " is not greater than " ++
      toString s.eventSeq, false⟩
  else
    let (s, changed) := { s with eventSeq := sequence }.reduce event
    .ok (if changed then { s with revision := s.revision + 1 } else s, changed)

/-- `StateMutator::fail_closed`. -/
def failClosed (s : SessionState) : SessionState × Bool :=
  let (s, changed) := s.failBackend
  (if changed then { s with revision := s.revision + 1 } else s, changed)

end SessionState

end GdbAi
