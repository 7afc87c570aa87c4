import GdbAi.Journal
import GdbAi.Library.Procedure
import GdbAi.Session.Protocol

/-!
# The world of a session worker

`SessionWorker` of `gdb-ai-core/src/session/actor.rs` owns the journal, the live state and GDB's
input.  Its world adds what reaches the worker from outside, the arrivals in the order in which it
takes them, and a trace that no function of the worker reads: the lines written to GDB, the tokens
without an answer, the places where an execution was left before its command was answered, the
resume commands that were started and the events that were reduced.  Outcomes of I/O come from an
`Environment`, one answer for each question.
-/

namespace GdbAi

open Procedure

/-! ### State -/

/-- `LiveState`: durable mode stages each transition until its checkpoint succeeds. -/
structure LiveState where
  published : SessionState
  staged : Option SessionState

namespace LiveState

/-- `LiveState::borrow`. -/
def borrow (live : LiveState) : SessionState := live.staged.getD live.published

/-- The state the worker owns is replaced. -/
def put (live : LiveState) (state : SessionState) : LiveState :=
  match live.staged with
  | some _ => { live with staged := some state }
  | none => { live with published := state }

/-- `LiveState::publish`. -/
def publish (live : LiveState) : LiveState := { live with published := live.borrow }

/-- `LiveState::fail_closed`, and whether the state changed. -/
def failClosed (live : LiveState) : LiveState × Bool :=
  let (state, changed) := live.borrow.failClosed
  let live := live.put state
  (if changed then live.publish else live, changed)

end LiveState

/-- The data of `SessionWorker` that its control flow depends on. -/
structure Worker where
  journal : Journal
  state : LiveState
  profile : Profile
  moduleOffsetRebinding : CapabilityStatus
  controlsOpen : Bool
  inferiorOutputOffset : ℕ
  inferiorOutputDropped : ℕ
  outputEvidenceFinalized : Bool
  nextToken : ℕ
  timedOutTokens : List ℕ
  interruptFallbackAt : Option ℕ
  streamLimit : ℕ
  commandTimeout : ℕ
  values : Registry ValueBinding
  tracking : Registry TrackingDefinition
  trackingHistory : Registry (List String)
  snapshots : List (String × Snapshot)
  staleBackendValues : List String
  deferredRestoration : List MiCommand
  pendingModuleBreakpoints : Registry PendingModuleBreakpoint
  activeResumeOperation : Option String
  moduleRebindNeeded : Bool
  replacingModuleBreakpoint : Bool
  deferredSnapshotReady : Option (StopId × String × Bool)
  trackingMemoryLimit : ℕ
  snapshotLimit : ℕ
  operationLimit : ℕ
  stateDirty : Bool
  operations : Registry OperationRecord
  dirtyOperations : List String
  journalGapReported : Bool
  storeFailed : Bool
  fatal : Bool

/-! ### Trace -/

/-- The place in the worker that waits for a command. -/
inductive Site where
  | handshake
  | extension
  /-- Breakpoints rebound between requests. -/
  | rebind
  /-- Breakpoints parked before a fresh run. -/
  | park
  /-- Settings restored before a command, a transaction or a safe evaluation. -/
  | deferred
  /-- Settings restored before a refresh of the target's capabilities. -/
  | refreshDeferred
  | command
  /-- A transaction, up to its own command, with the commands it still owes. -/
  | transaction (after : List MiCommand)
  | transactionAfter
  /-- A safe evaluation: reading the settings, guarding them, evaluating and restoring them. -/
  | evaluateShow
  | evaluateGuard (guarded : List String)
  | evaluate (guarded : List String)
  | evaluateRestore
  | refresh
  | staleValue
  | interrupt
  | cancel
  /-- The deletion of a breakpoint whose insertion at the site failed. -/
  | rollback (site : Site)
  deriving DecidableEq

/-- How an execution ended before its command was answered. -/
inductive ExitKind where
  /-- The session was closed. -/
  | closed
  /-- The worker failed. -/
  | fatal
  /-- The execution returned an error and the worker goes on. -/
  | lost
  /-- A pending interrupt was given up, and the execution goes on. -/
  | dropped
  deriving DecidableEq, Repr

structure Exit where
  site : Site
  kind : ExitKind
  code : ErrorCode
  /-- A stale value would be deleted next. -/
  staleDue : Bool
  /-- Some timed-out command has no answer. -/
  unknown : Bool
  deriving DecidableEq

/-- A line written to GDB, with the tokens that had no answer when it was written. -/
structure Write where
  token : ℕ
  name : String
  unanswered : List ℕ
  deriving DecidableEq, Repr

/-- What the worker has done with the commands and the journal. -/
structure Trace where
  unanswered : List ℕ := []
  writes : List Write := []
  exits : List Exit := []
  /-- The lines of the journal when a successful `close` had finished it. -/
  closedLines : Option (List JournalEntry) := none
  /-- The live state has changed without an event in the journal, or the other way round. -/
  diverged : Bool := false
  /-- The checkpoints appended since. -/
  late : List ℕ := []

/-! ### The owner of the target's run -/

/-- What bears on the operation that owns the target's run. -/
inductive ResumeMark where
  /-- A resume command of the operation is started. -/
  | started (operationId : Option String)
  /-- The event is reduced in the state. -/
  | applied (state : SessionState) (event : DomainEvent)

/-- A cancellation that has passed the check of the owner, with what had happened before. -/
structure Cancellation where
  operationId : String
  marks : List ResumeMark

/-- The worker, its trace, and what reaches it and leaves it. -/
structure World extends Worker, Trace where
  arrivals : List Arrival
  responses : List Response := []
  marks : List ResumeMark := []
  cancellations : List Cancellation := []
  /-- The number of questions asked to the environment. -/
  question : ℕ := 0

/-! ### Environment -/

/-- The outcomes of I/O, by the number of the question. -/
structure Environment where
  /-- The length of an encoded journal line. -/
  length : JournalEntry → ℕ
  journal : ℕ → JournalIo
  clock : ℕ → ℕ
  /-- `GdbBackend::spawn`. -/
  spawn : ℕ → Except Error Unit
  /-- `GdbBackend::send`; when it fails, GDB has not got the line. -/
  send : ℕ → Except Error Unit
  shutdown : ℕ → Except Error Unit
  signalInterrupt : ℕ → Except Error Unit
  tryWait : ℕ → Except Error (Option ℤ)
  store : ℕ → Except Error Unit
  /-- The spooled output, published and described, or the failure of that task. -/
  evidence : ℕ → Except Error String
  inferiorPosition : ℕ → ℕ × ℕ
  flushInferiorInput : ℕ → Except Error Unit
  writeInferior : ℕ → Except Error ℕ
  /-- `ActiveOperation::is_cancelled`. -/
  cancelled : ℕ → Bool
  /-- `live_module_offset`. -/
  moduleOffset : ℕ → Except Error (Option String)
  observationId : ℕ → String

abbrev Action := Procedure Environment World Error

/-- The answer to the next question. -/
def ask {α : Type} (answer : Environment → ℕ → α) : Action α := fun env w =>
  (.value (answer env w.question), { w with question := w.question + 1 })

/-- The answer to the next question, an error raised. -/
def require {α : Type} (answer : Environment → ℕ → Except Error α) : Action α := do
  ofExcept (← ask answer)

/-- A value read off the world. -/
def observe {α : Type} (f : World → α) : Action α := reads fun _ w => f w

/-- `oneshot::Sender::send`. -/
def respond (response : Response) : Action Unit :=
  update fun w => { w with responses := w.responses ++ [response] }

namespace World

/-- The state the worker owns. -/
def live (w : World) : SessionState := w.state.borrow

/-- `SessionWorker::target_running`. -/
def targetRunning (w : World) : Bool :=
  w.live.inferiors.anyEntry fun _ inferior => inferior.status = .running

/-- The condition under which `cleanup_one_stale_value` deletes a value. -/
def staleDue (w : World) : Bool :=
  w.timedOutTokens.isEmpty &&
    (w.live.inferiors.anyEntry fun _ inferior =>
      inferior.status = .stopped || inferior.status = .core) &&
    !w.staleBackendValues.isEmpty

/-- An execution at the site ends with an error before its command is answered. -/
def leave (w : World) (site : Site) (kind : ExitKind) (error : Error) : World :=
  { w with
    exits := w.exits ++ [⟨site, kind, error.code, w.staleDue, !w.timedOutTokens.isEmpty⟩] }

/-- The worker takes the answer of a token. -/
def answer (w : World) (token : ℕ) : World :=
  { w with unanswered := w.unanswered.filter (· ≠ token) }

/-- A line is written to GDB. -/
def written (w : World) (token : ℕ) (name : String) : World :=
  { w with
    writes := w.writes ++ [⟨token, name, w.unanswered⟩]
    unanswered := w.unanswered ++ [token] }

/-- The worker gives up waiting for a token. -/
def timeOut (w : World) (token : ℕ) : World :=
  { w with timedOutTokens := w.timedOutTokens.filter (· ≠ token) ++ [token] }

/-- `take_delayed_token`: a token that timed out is answered. -/
def takeDelayed (w : World) (token : ℕ) : World :=
  { w.answer token with timedOutTokens := w.timedOutTokens.filter (· ≠ token) }

/-- A resume command of the operation is started. -/
def startResume (w : World) (operationId : Option String) : World :=
  { w with
    activeResumeOperation := operationId
    marks := w.marks ++ [.started operationId] }

/-- A cancellation of the operation passes the check of the owner. -/
def claim (w : World) (operationId : String) : World :=
  { w with cancellations := w.cancellations ++ [⟨operationId, w.marks⟩] }

/-- `LiveState::publish`. -/
def publish (w : World) : World := { w with state := w.state.publish }

/-- The event leads from the live state to the given one. -/
def reduce (w : World) (event : DomainEvent) (state : SessionState) : World :=
  { w with
    state := w.state.put state
    marks := w.marks ++ [.applied w.live event] }

end World

end GdbAi
