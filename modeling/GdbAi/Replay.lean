import GdbAi.Journal
import GdbAi.Mi.Parser
import GdbAi.Normalize
import GdbAi.Reducer

/-!
# Replay of a journal

`replay` of `gdb-ai-core/src/replay.rs` folds the entries of a journal file: it reduces the
normalized events, checks each one against the MI record before it and compares the checkpoints
with the state it has reached.  The entries stand decoded, JSON and base64 aside.
-/

namespace GdbAi

/-- `ReplayReport`. -/
structure ReplayReport where
  complete : Bool
  evidenceGap : Option JournalGap
  entries : ℕ
  parsedMiRecords : ℕ
  appliedEvents : ℕ
  snapshots : ℕ
  latestSnapshot : Option Snapshot
  state : SessionState

/-- The variables of the replay loop. -/
structure Replayer where
  state : SessionState
  entries : ℕ
  parsedMiRecords : ℕ
  appliedEvents : ℕ
  sawNormalized : Bool
  normalizationVersion : ℕ
  pendingDerived : Option (ℕ × DomainEvent)
  firstUnmatched : Option ℕ
  snapshots : ℕ
  latestSnapshot : Option Snapshot
  lastSeq : ℕ
  complete : Bool
  evidenceGap : Option JournalGap

/-- `require_next_sequence`. -/
def requireNextSequence (last next : ℕ) : Except Error Unit :=
  if next = last + 1 then .ok ()
  else .error ⟨.invalidArgument, "journal sequence must be contiguous and start at 1", false⟩

/-- The first version of the normalizer left the module out of a stop's frame. -/
def DomainEvent.withoutModule : DomainEvent → DomainEvent
  | .targetStopped inferior thread reason detail (some frame) =>
    .targetStopped inferior thread reason detail (some { frame with module := none })
  | event => event

namespace Replayer

/-- The loop starts with the session its caller names. -/
def start (session : SessionId) : Replayer where
  state := SessionState.creating session
  entries := 0
  parsedMiRecords := 0
  appliedEvents := 0
  sawNormalized := false
  normalizationVersion := 1
  pendingDerived := none
  firstUnmatched := none
  snapshots := 0
  latestSnapshot := none
  lastSeq := 0
  complete := false
  evidenceGap := none

/-- `StateReducer::apply_event` on the state of the loop. -/
def reduce (r : Replayer) (seq : ℕ) (event : DomainEvent) : Except Error Replayer := do
  let (state, _) ← r.state.applyEvent seq event
  pure { r with state := state, appliedEvents := r.appliedEvents + 1 }

/-- The branch `session.created` of the first entry. -/
def sessionCreated (r : Replayer) (session : String) (version : Option ℕ) :
    Except Error Replayer := do
  let session ← SessionId.parse session
  let version := version.getD 1
  if version = 1 ∨ version = GdbAi.normalizationVersion then
    pure { r with state := SessionState.creating session, normalizationVersion := version }
  else .error ⟨.invalidArgument, "unsupported normalization version", false⟩

/-- The event of an MI record: it waits for its normalized event, and it is reduced as long as
the journal has none. -/
def derived (r : Replayer) (seq : ℕ) (event : DomainEvent) : Except Error Replayer := do
  let event := if r.normalizationVersion = 1 then event.withoutModule else event
  let r ← if r.sawNormalized then pure r else r.reduce seq event
  let unmatched := r.pendingDerived.map Prod.fst
  pure { r with
    pendingDerived := some (seq, event)
    firstUnmatched := r.firstUnmatched.or unmatched }

/-- The branch `mi.output`. -/
def miOutput (r : Replayer) (seq : ℕ) (raw : Bytes) : Except Error Replayer := do
  let record ← (parseRecord raw MiLimits.default).mapError Error.ofMi
  let r := { r with parsedMiRecords := r.parsedMiRecords + 1 }
  match normalize record with
  | none => pure r
  | some event => r.derived seq event

/-- The branch `normalized.event`. -/
def normalizedEvent (r : Replayer) (seq : ℕ) (event : DomainEvent) : Except Error Replayer := do
  let r := if r.sawNormalized then r else
    { r with
      state := SessionState.creating r.state.sessionId
      appliedEvents := 0
      sawNormalized := true }
  let pending := r.pendingDerived
  let r := { r with pendingDerived := none }
  let r ← match pending with
    | none => pure r
    | some (rawSeq, derived) =>
      if rawSeq + 1 = seq then
        if derived ≠ event then
          .error ⟨.invalidArgument, "normalized event " ++ toString seq ++
            " differs from MI record " ++ toString rawSeq, false⟩
        else pure r
      else pure { r with firstUnmatched := r.firstUnmatched.or (some rawSeq) }
  r.reduce seq event

/-- The branch `state.revision`. -/
def stateRevision (r : Replayer) (seq revision : ℕ) (recorded : SessionState) :
    Except Error Replayer :=
  if r.sawNormalized = false ∨ revision ≠ recorded.revision ∨ r.state ≠ recorded then
    .error ⟨.invalidArgument, "state checkpoint " ++ toString seq ++ " does not match replay", false⟩
  else .ok r

/-- The branch `journal.closed`. -/
def journalClosed (r : Replayer) : Except Error Replayer :=
  if r.sawNormalized = false ∨ r.state.lifecycle ≠ .closed then
    .error ⟨.invalidArgument, "journal closed before the session", false⟩
  else .ok { r with complete := true }

/-- The branches of the loop. -/
def branch (r : Replayer) (seq : ℕ) : EntryData → Except Error Replayer
  | .of (.sessionCreated session version) =>
    if r.entries = 1 then r.sessionCreated session version
    else .error ⟨.invalidArgument, "session.created must be the first journal entry", false⟩
  | .of (.miOutput raw) => r.miOutput seq raw
  | .of (.normalizedEvent event) => r.normalizedEvent seq event
  | .of (.stateRevision revision recorded) => r.stateRevision seq revision recorded
  | .of (.snapshotResult _ snapshot) =>
    .ok { r with snapshots := r.snapshots + 1, latestSnapshot := some snapshot }
  | .gap fromSeq reason =>
    if fromSeq ≠ seq then .error ⟨.invalidArgument, "invalid journal gap", false⟩
    else .ok { r with evidenceGap := some ⟨fromSeq, reason⟩ }
  | .of .journalClosed => r.journalClosed
  | .of _ => .ok r

/-- One turn of the loop. -/
def step (r : Replayer) (entry : JournalEntry) : Except Error Replayer := do
  if r.complete || r.evidenceGap.isSome then
    .error ⟨.invalidArgument, "journal has records after its terminal marker", false⟩
  else
    requireNextSequence r.lastSeq entry.seq
    { r with lastSeq := entry.seq, entries := r.entries + 1 }.branch entry.seq entry.data

/-- The report of a loop that has ended. -/
def report (r : Replayer) : ReplayReport where
  complete := r.complete
  evidenceGap := r.evidenceGap
  entries := r.entries
  parsedMiRecords := r.parsedMiRecords
  appliedEvents := r.appliedEvents
  snapshots := r.snapshots
  latestSnapshot := r.latestSnapshot
  state := r.state

/-- What follows the loop. -/
def finish (r : Replayer) : Except Error ReplayReport :=
  match r.firstUnmatched.or (r.pendingDerived.map Prod.fst) with
  | some seq =>
    if r.sawNormalized && r.evidenceGap.all fun gap => decide (seq + 1 < gap.fromSeq) then
      .error ⟨.invalidArgument, "MI record " ++ toString seq ++ " has no matching normalized event",
        false⟩
    else .ok r.report
  | none => .ok r.report

end Replayer

/-- `replay`. -/
def replay (session : SessionId) (entries : List JournalEntry) : Except Error ReplayReport := do
  let r ← entries.foldlM Replayer.step (Replayer.start session)
  r.finish

end GdbAi
