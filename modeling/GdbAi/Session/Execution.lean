import GdbAi.Session.Recording
import GdbAi.Journal.Contiguity

/-!
# Executing one command

`execute_until_inner` writes a command and serves the control lane and the backend until the
command is answered or given up.  The site of an execution is a parameter that only the trace
reads: whoever leaves an execution before its command is answered is noted with its site.
-/

namespace GdbAi

open Procedure

/-! ### Writing -/

/-- `SessionWorker::require_known_outcome_name`. -/
def requireKnownOutcome (name : String) : Action Unit := do
  let tokens ← observe fun w => w.timedOutTokens
  if tokens ≠ [] ∧ name ≠ "-exec-interrupt" then
    fail ⟨.gdbUnresponsive, "MI command outcome is unknown for token(s) \x7b" ++
      ", ".intercalate (tokens.map toString) ++ "\x7d; interrupt or close the session", false⟩
  else pure ()

/-- `SessionWorker::begin_command`. -/
def beginCommand (command : MiCommand) : Action ℕ := do
  requireKnownOutcome command.name
  let token ← observe fun w => w.nextToken
  if token + 1 ≥ 2 ^ 64 then fail ⟨.internal, "MI token counter exhausted", false⟩
  else
    update fun w => { w with nextToken := token + 1 }
    let _ ← append (.miInput token (command.encoded token))
    require Environment.send
    update fun w => w.written token command.name
    pure token

/-! ### Reading -/

/-- The delay before an acknowledged or pending interrupt is escalated, in milliseconds. -/
def interruptGrace : ℕ := 250

/-- The event of an MI record, if it has one. -/
def processEvent : Option DomainEvent → Action Unit
  | none => pure ()
  | some event => do
    applyEvent event
    update fun w => if w.targetRunning then w else { w with interruptFallbackAt := none }

/-- The branch of `process_input` for an MI record. -/
def processRecord (raw : Bytes) (record : MiRecord) : Action (Option (MiRecord × ℕ)) := do
  let evidenceSeq ← append (.miOutput raw)
  processEvent (normalize record)
  pure (some (record, evidenceSeq))

/-- The branch of `process_input` for output of the inferior. -/
def processInferiorOutput : Action Unit := do
  let (nextOffset, dropped) ← ask Environment.inferiorPosition
  let (known, knownDropped) ← observe fun w => (w.inferiorOutputOffset, w.inferiorOutputDropped)
  let offset := min known nextOffset
  let length := nextOffset - offset
  if length = 0 ∧ dropped = knownDropped then pure ()
  else
    let _ ← append (.inferiorOutput offset length dropped)
    update fun w => { w with inferiorOutputOffset := nextOffset, inferiorOutputDropped := dropped }
    applyEvent (.outputAdvanced .inferiorPty offset length dropped)

/-- The branch of `process_input` for a lost MI framing. -/
def processProtocolError {α : Type} (error : Error) : Action α := do
  update fun w => { w with fatal := true }
  let lost ← attempt (applyEvent (.consistencyLost error.display))
  let exited ← attempt (applyEvent (.backendExited none))
  markFailed
  ofExcept lost
  ofExcept exited
  fail error

/-- The branch of `process_input` for the end of GDB's output. -/
def processEof {α : Type} : Action α := do
  let status ← require Environment.tryWait
  update fun w => { w with fatal := true }
  let exited ← attempt (applyEvent (.backendExited status))
  markFailed
  ofExcept exited
  fail ⟨.gdbExited, "GDB stdout closed", false⟩

/-- `SessionWorker::process_input`. -/
def processInput : BackendInput → Action (Option (MiRecord × ℕ))
  | .mi raw record => processRecord raw record
  | .gdbStderr bytes => do
    let _ ← append (.gdbStderr bytes)
    pure none
  | .inferiorPty => do
    processInferiorOutput
    pure none
  | .protocolError error => processProtocolError error
  | .gdbEof => processEof

/-- `Option<u64>` as `{:?}` prints it. -/
def debugToken : Option ℕ → String
  | some token => "Some(" ++ toString token ++ ")"
  | none => "None"

/-- `SessionWorker::handle_unmatched_result`. -/
def handleUnmatchedResult : MiRecord → Action Unit
  | .result token cls _ => applyEvent (.consistencyDirty
      ("unmatched MI result token " ++ debugToken token ++ " class " ++ cls))
  | _ => pure ()

/-- `take_delayed_token`. -/
def takeDelayedToken (record : MiRecord) : Action (Option ℕ) := do
  match resultToken record with
  | none => pure none
  | some token =>
    if ← observe fun w => w.timedOutTokens.contains token then
      update fun w => w.takeDelayed token
      pure (some token)
    else pure none

/-! ### Interrupts -/

/-- `SessionWorker::finish_interrupt`. -/
def finishInterrupt (result : Except Error CommandReply) : Action Unit := do
  if result.isOk && (← observe World.targetRunning) then
    let now ← ask Environment.clock
    update fun w => { w with interruptFallbackAt := some (now + interruptGrace) }

/-- `SessionWorker::escalate_acknowledged_interrupt`. -/
def escalateAcknowledgedInterrupt : Action Unit := do
  match ← observe fun w => w.interruptFallbackAt with
  | none => pure ()
  | some deadline =>
    if deadline > (← ask Environment.clock) then pure ()
    else
      update fun w => { w with interruptFallbackAt := none }
      if ← observe World.targetRunning then require Environment.signalInterrupt

/-- `SessionWorker::require_active_resume`. -/
def requireActiveResume (operationId : String) : Action Unit := do
  if (← observe fun w => w.activeResumeOperation) = some operationId then
    update fun w => w.claim operationId
  else fail ⟨.conflict, "operation no longer owns the active target resume", false⟩

/-- `SessionWorker::owned_interrupt_command`. -/
def ownedInterruptCommand (operationId : String) : Action MiCommand := do
  requireActiveResume operationId
  ofExcept (MiCommand.new "-exec-interrupt")

/-! ### Closing -/

/-- `SessionWorker::finalize_output_evidence`. -/
def finalizeOutputEvidence : Action Unit := do
  if ← observe fun w => w.outputEvidenceFinalized then pure ()
  else
    let evidence ← require Environment.evidence
    update fun w => { w with outputEvidenceFinalized := true }
    let _ ← append (.inferiorOutputEvidence evidence)

/-- The entry certifies that the journal is whole. -/
def JournalEntry.closes (entry : JournalEntry) : Bool :=
  match entry.data with
  | .of .journalClosed => true
  | _ => false

/-- `close` has succeeded; `lines` are those of the journal behind `finish`. -/
def World.close (w : World) (lines : List JournalEntry) : World :=
  { w with closedLines := if lines.getLast?.any JournalEntry.closes then some lines else none }

/-- `SessionWorker::close`. -/
def close : Action Unit := do
  let closing ← attempt (applyEvent .sessionClosing)
  let shutdown ← ask Environment.shutdown
  ofExcept closing
  ofExcept shutdown
  finalizeOutputEvidence
  applyEvent .sessionClosed
  checkpoint applyEvent true
  checkpoint applyEvent false
  let finished ← attempt finishJournal
  let lines ← observe fun w => w.journal.lines
  journalResult applyEvent finished
  checkpoint applyEvent false
  update fun w => w.close lines

/-! ### The command in flight -/

/-- `PendingControl`. -/
structure PendingControl where
  token : ℕ
  deadline : ℕ
  escalateAt : ℕ
  escalated : Bool := false
  /-- The control is a cancellation, not an interrupt. -/
  cancels : Bool

/-- `PendingControlResponse::send`. -/
def PendingControl.respond (control : PendingControl) (result : Except Error CommandReply) :
    Action Unit :=
  if control.cancels then GdbAi.respond (.done (result.map fun _ => ()))
  else GdbAi.respond (.reply result)

/-- The variables of the loop of `execute_until_inner`. -/
structure Flight where
  streams : List MiRecord := []
  streamBytes : ℕ := 0
  streamTruncated : Bool := false
  normalResult : Option (Except Error CommandReply) := none
  pendingControl : Option PendingControl := none

/-- How a turn of the loop ends: it goes on, or it returns a reply. -/
abbrev Turn := Action (Flight ⊕ CommandReply)

/-- The next arrival. -/
def nextArrival : Action Arrival := fun _ w =>
  match w.arrivals with
  | [] => (.pending, w)
  | arrival :: arrivals => (.value arrival, { w with arrivals := arrivals })

section Flight

variable (site : Site)

/-- The execution returns an error before its command is answered. -/
def lose {α : Type} (error : Error) : Action α := do
  update fun w => w.leave site (if w.fatal then .fatal else .lost) error
  fail error

/-- An error of the procedure ends the execution. -/
def leaving {α : Type} (m : Action α) : Action α := do
  match ← attempt m with
  | .ok a => pure a
  | .error error => lose site error

/-- The execution ends because the session was closed, or failed to close. -/
def leaveClosed {α : Type} (closed : Bool) (error : Error) : Action α := do
  update fun w => { w with fatal := true }
  update fun w => w.leave site (if closed then .closed else .fatal) error
  fail error

/-- The worker goes on unless it has failed. -/
def goOnUnlessFatal (flight : Flight) (error : Error) : Turn := do
  if ← observe fun w => w.fatal then lose site error else pure (.inl flight)

/-- An interrupt is written beside the command in flight. -/
def beginControl (flight : Flight) (command : MiCommand) (deadline : Action ℕ) (cancels : Bool) :
    Turn := do
  match ← attempt (beginCommand command) with
  | .ok token =>
    let now ← ask Environment.clock
    let deadline ← deadline
    pure (.inl { flight with
      pendingControl := some ⟨token, deadline, now + interruptGrace, false, cancels⟩ })
  | .error error =>
    respond (if cancels then .done (.error error) else .reply (.error error))
    pure (.inl flight)

/-- `command_deadline` of the worker's own timeout. -/
def commandDeadline : Action ℕ := do
  let timeout ← observe fun w => w.commandTimeout
  pure ((← ask Environment.clock) + timeout)

/-- The error of a second interrupt. -/
def interruptPending : Error := ⟨.conflict, "an interrupt is already pending", false⟩

/-- The cancellation of an operation by an interrupt, with a command in flight. -/
def cancelInFlight (flight : Flight) (operationId : String) : Turn := do
  if flight.pendingControl.isSome then
    respond (.done (.error interruptPending))
    pure (.inl flight)
  else
    match ← attempt (ownedInterruptCommand operationId) with
    | .error error =>
      respond (.done (.error error))
      pure (.inl flight)
    | .ok command => beginControl flight command commandDeadline true

/-- An interrupt, with a command in flight. -/
def interruptInFlight (flight : Flight) (command : MiCommand) (deadline : ℕ) : Turn := do
  if flight.pendingControl.isSome then
    respond (.reply (.error interruptPending))
    pure (.inl flight)
  else if deadline ≤ (← ask Environment.clock) then
    respond (.reply (.error ⟨.timeout, "interrupt deadline expired while queued", true⟩))
    pure (.inl flight)
  else beginControl flight command (pure deadline) false

/-- `execute_until_inner`, branch `ExecutionInput::Control`. -/
def flightControl (flight : Flight) : Option ControlRequest → Turn
  | none => do
    update fun w => { w with controlsOpen := false }
    pure (.inl flight)
  | some (.recordApi request) => do
    respond (.done (← attempt (recordApi request)))
    goOnUnlessFatal site flight ⟨.gdbExited, "required journal failed", false⟩
  | some (.recordOperation operation) => do
    respond (.done (← attempt (recordOperation operation)))
    goOnUnlessFatal site flight ⟨.gdbExited, "required history failed", false⟩
  | some .close => do
    let result ← attempt close
    respond (.done result)
    leaveClosed site result.isOk ⟨.gdbExited, "session closed", false⟩
  | some (.cancelOperation operationId .closeSession) => do
    let result ← attempt (do
      requireActiveResume operationId
      close)
    respond (.done result)
    match result with
    | .ok () => leaveClosed site true ⟨.cancelled, "operation closed session", false⟩
    | .error _ => pure (.inl flight)
  | some (.cancelOperation operationId .interruptTarget) => cancelInFlight flight operationId
  | some (.interrupt command deadline) => interruptInFlight flight command deadline

/-- A pending interrupt whose grace period is over is sent as a signal. -/
def escalatePending (flight : Flight) (now : ℕ) : Action Flight :=
  match flight.pendingControl with
  | none => pure flight
  | some control => do
    if !control.escalated && control.escalateAt ≤ now then
      match ← ask Environment.signalInterrupt with
      | .error error =>
        update fun w => w.leave site .dropped error
        control.respond (.error error)
        pure { flight with pendingControl := none }
      | .ok () => pure { flight with pendingControl := some { control with escalated := true } }
    else pure flight

/-- A pending interrupt is given up at its deadline. -/
def expirePending (flight : Flight) (now : ℕ) : Action Flight :=
  match flight.pendingControl with
  | none => pure flight
  | some control => do
    if control.deadline ≤ now then
      update fun w => w.timeOut control.token
      leaving site (applyEvent (.commandOutcomeUnknown control.token))
      control.respond (.error (commandTimeoutError control.token))
      pure { flight with pendingControl := none }
    else pure flight

/-- The command is given up at its deadline. -/
def expireNormal (token deadline : ℕ) (flight : Flight) (now : ℕ) : Action Flight := do
  if flight.normalResult.isNone && deadline ≤ now then
    update fun w => w.timeOut token
    leaving site (applyEvent (.commandOutcomeUnknown token))
    pure { flight with normalResult := some (.error (commandTimeoutError token)) }
  else pure flight

/-- `execute_until_inner`, branch `ExecutionInput::Deadline`. -/
def flightDeadline (token deadline : ℕ) (flight : Flight) : Turn := do
  let now ← ask Environment.clock
  leaving site escalateAcknowledgedInterrupt
  let flight ← escalatePending site flight now
  let flight ← expirePending site flight now
  let flight ← expireNormal site token deadline flight now
  pure (.inl flight)

/-- The stream records of a command, up to the limit. -/
def Flight.collect (flight : Flight) (limit : ℕ) (record : MiRecord) : Flight :=
  match flight.normalResult, streamLength record with
  | none, some length =>
    if flight.streamBytes + length ≤ limit then
      { flight with
        streamBytes := flight.streamBytes + length
        streams := flight.streams ++ [record] }
    else { flight with streamTruncated := true }
  | _, _ => flight

/-- The outcome of a command given up earlier is known. -/
def resolveDelayed : Option ℕ → Action Unit
  | some token => leaving site (applyEvent (.commandOutcomeResolved token))
  | none => pure ()

/-- A record is matched with the commands in flight. -/
def flightRecord (token : ℕ) (flight : Flight) (record : MiRecord) (evidenceSeq : ℕ) :
    Turn := do
  let delayed ← takeDelayedToken record
  resolveDelayed site delayed
  match flight.pendingControl.filter fun control => resultToken record = some control.token with
  | some control =>
    let result := commandReply control.token record evidenceSeq [] false
    update fun w => w.answer control.token
    finishInterrupt result
    control.respond result
    pure (.inl { flight with pendingControl := none })
  | none =>
    if resultToken record = some token then
      -- a result that is held already is replaced
      update fun w => if flight.normalResult.isNone then w.answer token else w
      pure (.inl { flight with
        normalResult :=
          some (commandReply token record evidenceSeq flight.streams flight.streamTruncated)
        streams := [] })
    else
      onlyIf delayed.isNone (leaving site (handleUnmatchedResult record))
      let limit ← observe fun w => w.streamLimit
      pure (.inl (flight.collect limit record))

/-- `execute_until_inner`, branch `ExecutionInput::Backend`. -/
def flightInput (token : ℕ) (flight : Flight) : Option BackendInput → Turn
  | none => lose site ⟨.gdbExited, "GDB input channel closed", false⟩
  | some input => do
    match ← leaving site (processInput input) with
    | none => pure (.inl flight)
    | some (record, evidenceSeq) => flightRecord site token flight record evidenceSeq

/-- One turn of the loop of `execute_until_inner`. -/
def flightTurn (token deadline : ℕ) (flight : Flight) : Turn :=
  match flight.pendingControl, flight.normalResult with
  | none, some result => do pure (.inr (← ofExcept result))
  | _, _ => do
    match ← nextArrival with
    | .control request =>
      if ← observe fun w => w.controlsOpen then flightControl site flight request else wait
    | .backend input => flightInput site token flight input
    | .wake => flightDeadline site token deadline flight
    -- neither is polled with a command in flight
    | .tick | .request _ => wait

/-- `SessionWorker::execute_until_inner`. -/
def executeUntilInner (command : MiCommand) (deadline : ℕ) : Action CommandReply := do
  if deadline ≤ (← ask Environment.clock) then
    fail ⟨.timeout, "MI command deadline expired while queued", true⟩
  else
    let token ← beginCommand command
    -- every turn but the last takes an arrival
    let turns ← observe fun w => w.arrivals.length + 1
    loop turns (flightTurn site token deadline) {}

/-! ### Executions -/

/-- The breakpoints known before an insertion into a clean registry. -/
def World.knownBreakpoints (w : World) (command : MiCommand) : Option (List String) :=
  if command.name = "-break-insert" ∧ w.live.consistency = .clean ∧
      w.live.reconciliationRequired = false then
    some w.live.breakpoints.keys
  else none

/-- The new breakpoint a failed insertion has left behind. -/
def leftBreakpoint (before : Option (List String)) : Except Error CommandReply → Option String
  | .ok _ => none
  | .error error => do
    let before ← before
    if error.code = .gdbError then
      let number ← rejectedBreakpoint error.message
      if before.contains number then none else some number
    else none

/-- GDB is asked to delete the breakpoint of a failed insertion. -/
def deleteBreakpoint (number : String) (deadline : ℕ) : Action (Except Error CommandReply) := do
  match ← attempt (requireKnownOutcome "-break-delete") with
  | .ok () => do
    let command ← ofExcept (MiCommand.withBare "-break-delete" [number])
    attempt (executeUntilInner (.rollback site) command deadline)
  | .error error => pure (.error error)

/-- The breakpoint of a failed insertion is deleted. -/
def rollbackInsertion (number : String) (deadline : ℕ) : Action Unit := do
  match ← deleteBreakpoint site number deadline with
  | .ok _ => forgetBreakpoint
  | .error error =>
    if error.code = .gdbError ∧ error.message = "No breakpoint number " ++ number ++ "." then
      forgetBreakpoint
    else
      update fun w => { w with moduleRebindNeeded := false }
      if ← observe fun w => !w.fatal then
        applyEvent (.consistencyDirty
          ("failed breakpoint insertion cleanup: " ++ error.display))
where
  /-- The registry follows the deletion. -/
  forgetBreakpoint : Action Unit := do
    if ← observe fun w => w.live.breakpoints.contains number then
      applyEvent (.breakpointDeleted number)

/-- `SessionWorker::execute_until`. -/
def executeUntil (command : MiCommand) (deadline : ℕ) : Action CommandReply := do
  let before ← observe fun w => w.knownBreakpoints command
  let reply ← attempt (executeUntilInner site command deadline)
  match leftBreakpoint before reply with
  | none => ofExcept reply
  | some number =>
    onlyIf (← observe fun w => !w.fatal) (rollbackInsertion site number deadline)
    ofExcept reply

/-- `SessionWorker::execute`. -/
def execute (command : MiCommand) : Action CommandReply := do
  executeUntil site command (← commandDeadline)

/-- `ActiveOperation::require_active`. -/
def requireActive : Option ActiveOperation → Action Unit
  | none => pure ()
  | some _ => do
    if ← ask Environment.cancelled then fail ⟨.cancelled, "operation was cancelled", false⟩

/-- The resume that failed definitively is given up. -/
def World.releaseResume (w : World) (operationId : Option String) : World :=
  if w.timedOutTokens = [] ∧ w.activeResumeOperation = operationId then
    { w with activeResumeOperation := none }
  else w

/-- `SessionWorker::execute_operation_until`. -/
def executeOperationUntil (command : MiCommand) (operation : Option ActiveOperation)
    (deadline : ℕ) : Action CommandReply := do
  requireActive operation
  onlyIf (commandStartsFreshInferior command) (require Environment.flushInferiorInput)
  let operationId := operation.map ActiveOperation.id
  onlyIf (commandResumesTarget command)
    (update fun w => w.startResume operationId)
  match ← attempt (executeUntil site command deadline) with
  | .ok reply => pure reply
  | .error error =>
    onlyIf (commandResumesTarget command) (update fun w => w.releaseResume operationId)
    fail error

end Flight

end GdbAi
