import GdbAi.Domain

/-!
# The session journal

`Journal` of `gdb-ai-core/src/journal.rs` writes numbered JSON lines through a buffered writer.
The state keeps the file and the writer's buffer apart: a line reaches the file when the buffer
spills or is flushed.  Every operation takes the outcomes of its writes as an argument; a write
succeeds whole or fails.  The length of an encoded line is a parameter.
-/

namespace GdbAi

/-- `NORMALIZATION_VERSION`. -/
def normalizationVersion : ℕ := 2

/-- What the `append_*` functions record.  JSON values stand as their text. -/
inductive Payload where
  | sessionCreated (sessionId : String) (normalizationVersion : Option ℕ)
  | apiRequest (request : String)
  | miInput (token : ℕ) (raw : Bytes)
  | miOutput (raw : Bytes)
  | gdbStderr (bytes : Bytes)
  | inferiorOutput (offset length droppedBytes : ℕ)
  | inferiorInput (bytes : Bytes)
  | inferiorOutputEvidence (evidence : String)
  | normalizedEvent (event : DomainEvent)
  | stateRevision (revision : ℕ) (state : SessionState)
  | snapshotResult (snapshotId : String) (snapshot : Snapshot)
  | journalClosed
  deriving DecidableEq

/-- The data of a journal entry: a recorded payload, or the marker of a gap. -/
inductive EntryData where
  | of (payload : Payload)
  | gap (fromSeq : ℕ) (reason : String)
  deriving DecidableEq

/-- `JournalEntry`. -/
structure JournalEntry where
  seq : ℕ
  data : EntryData
  deriving DecidableEq

inductive JournalDurability where
  | performance | durable
  deriving DecidableEq, Repr

/-- `JournalGap`. -/
structure JournalGap where
  fromSeq : ℕ
  reason : String
  deriving DecidableEq, Repr

/-- `Journal`.  `recording` tells whether there is a writer, `file` what has reached the file and
`buffer` what the writer still holds. -/
structure Journal where
  recording : Bool
  file : List JournalEntry
  buffer : List JournalEntry
  nextSeq : ℕ
  writtenSeq : ℕ
  flushedSeq : ℕ
  bytesWritten : ℕ
  maxBytes : ℕ
  unflushedRecords : ℕ
  durability : JournalDurability
  gap : Option JournalGap
  deriving DecidableEq

/-- The outcome of `BufWriter::write_all`. -/
inductive WriteOutcome where
  /-- The line is in the buffer; `spilled` tells whether the buffer went to the file first. -/
  | buffered (spilled : Bool)
  /-- The buffer and the line went to the file. -/
  | direct
  /-- The line is lost; `spilled` tells whether the buffer went to the file first. -/
  | failed (spilled : Bool) (error : Error)
  deriving DecidableEq, Repr

/-- The outcome of `BufWriter::flush`, and of `sync_data` behind it in durable mode. -/
inductive FlushOutcome where
  | done
  | failed (error : Error)
  | syncFailed (error : Error)
  deriving DecidableEq, Repr

/-- The outcomes of the writes of one call: the line itself, a flush inside `append`, the gap
marker, and a flush behind `append`. -/
structure JournalIo where
  write : WriteOutcome
  flush : FlushOutcome
  gapWritten : Bool
  boundary : FlushOutcome
  deriving DecidableEq, Repr

/-- Every write of the call succeeds. -/
def JournalIo.ok : JournalIo := ⟨.buffered false, .done, true, .done⟩

/-- The payloads behind which `flush_boundary` flushes. -/
def Payload.isBoundary : Payload → Bool
  | .apiRequest _ | .stateRevision _ _ | .snapshotResult _ _ => true
  | _ => false

/-- The error of an append beyond the byte limit. -/
def byteLimitError : Error := ⟨.outputLimit, "session journal byte limit reached", false⟩

namespace Journal

/-- `Journal::create_with_durability`. -/
def create (durability : JournalDurability) (maxBytes : ℕ) : Journal where
  recording := true
  file := []
  buffer := []
  nextSeq := 1
  writtenSeq := 0
  flushedSeq := 0
  bytesWritten := 0
  maxBytes := maxBytes
  unflushedRecords := 0
  durability := durability
  gap := none

/-- `Journal::is_durable`. -/
def isDurable (j : Journal) : Bool := j.durability = .durable

/-- The buffer goes to the file. -/
def spill (j : Journal) : Journal := { j with file := j.file ++ j.buffer, buffer := [] }

/-- `Journal::stop_recording`. -/
def stopRecording (j : Journal) (error : Error) (fromSeq : ℕ) : Except Error Unit × Journal :=
  if j.isDurable then (.error error, j)
  else (.ok (), { j with gap := some ⟨fromSeq, error.display⟩, recording := false, buffer := [] })

/-- `Journal::flush`. -/
def flush (j : Journal) (outcome : FlushOutcome) : Except Error Unit × Journal :=
  if j.unflushedRecords = 0 ∨ j.recording = false then (.ok (), j)
  else
    match outcome with
    | .failed error => j.stopRecording error (j.flushedSeq + 1)
    | .done =>
      (.ok (), { j.spill with unflushedRecords := 0, flushedSeq := j.writtenSeq })
    | .syncFailed error =>
      -- only the durable mode synchronises
      if j.isDurable then (.error error, j.spill)
      else (.ok (), { j.spill with unflushedRecords := 0, flushedSeq := j.writtenSeq })

section Length

variable (length : JournalEntry → ℕ)

/-- The branch of `Journal::append` for a line beyond the byte limit. -/
def overflow (j : Journal) (seq : ℕ) (io : JournalIo) : Except Error ℕ × Journal :=
  if j.isDurable then (.error byteLimitError, j)
  else
    match j.flush io.flush with
    | (.error error, j) => (.error error, j)
    | (.ok (), j) =>
      if j.gap.isNone then
        let marker : JournalEntry := ⟨seq, .gap seq byteLimitError.display⟩
        let j :=
          if j.bytesWritten + length marker ≤ j.maxBytes && j.recording && io.gapWritten then
            { j.spill with file := j.spill.file ++ [marker] }
          else j
        match j.stopRecording byteLimitError seq with
        | (.error error, j) => (.error error, j)
        | (.ok (), j) => (.ok seq, j)
      else (.ok seq, j)

/-- The branch of `Journal::append` for a line that fits. -/
def write (j : Journal) (entry : JournalEntry) (io : JournalIo) : Except Error ℕ × Journal :=
  match io.write with
  | .failed spilled error =>
    match (if spilled then j.spill else j).stopRecording error (j.flushedSeq + 1) with
    | (.error error, j) => (.error error, j)
    | (.ok (), j) => (.ok entry.seq, j)
  | .buffered spilled =>
    let j := if spilled then j.spill else j
    accepted { j with buffer := j.buffer ++ [entry] }
  | .direct =>
    let j := j.spill
    accepted { j with file := j.file ++ [entry] }
where
  /-- The counters behind a successful write. -/
  accepted (j : Journal) : Except Error ℕ × Journal :=
    let j :=
      { j with
        bytesWritten := j.bytesWritten + length entry
        writtenSeq := entry.seq
        unflushedRecords := j.unflushedRecords + 1 }
    if j.unflushedRecords ≥ 64 then
      match j.flush io.flush with
      | (.error error, j) => (.error error, j)
      | (.ok (), j) => (.ok entry.seq, j)
    else (.ok entry.seq, j)

/-- The bytes that `append` keeps free for the gap marker. -/
def reserved (j : Journal) : ℕ := if j.isDurable then 0 else 256

/-- `Journal::append`. -/
def append (j : Journal) (payload : Payload) (io : JournalIo) : Except Error ℕ × Journal :=
  let seq := j.nextSeq
  let j := { j with nextSeq := seq + 1 }
  if j.recording = false then (.ok seq, j)
  else
    let entry : JournalEntry := ⟨seq, .of payload⟩
    if j.bytesWritten + length entry > j.maxBytes - j.reserved then j.overflow length seq io
    else j.write length entry io

/-- The public `append_*` functions: `append`, and in durable mode a flush behind a boundary. -/
def record (j : Journal) (payload : Payload) (io : JournalIo) : Except Error ℕ × Journal :=
  match j.append length payload io with
  | (.error error, j) => (.error error, j)
  | (.ok seq, j) =>
    if payload.isBoundary && j.isDurable then
      match j.flush io.boundary with
      | (.error error, j) => (.error error, j)
      | (.ok (), j) => (.ok seq, j)
    else (.ok seq, j)

/-- `Journal::finish`. -/
def finish (j : Journal) (io : JournalIo) : Except Error Unit × Journal :=
  match j.append length .journalClosed io with
  | (.error error, j) => (.error error, j)
  | (.ok _, j) => j.flush io.boundary

end Length

end Journal

end GdbAi
