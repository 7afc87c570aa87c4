import GdbAi.Replay
import GdbAi.Reducer.Effects

/-!
# Replay agrees with the session that wrote the journal

`Recorded session entries` describes the journals a session writes.  The replay of such a journal
reaches the state of the live reducer, also when the journal is cut anywhere and ended by the
marker of a gap (`replay_of_recorded`).  The exception is a journal cut behind its first MI
record, before any normalized event: replay then reduces the record itself.
-/

namespace GdbAi

/-! ### Journals of a session -/

/-- The payloads that replay reads over. -/
def Payload.isNote : Payload → Bool
  | .apiRequest _ | .miInput .. | .gdbStderr _ | .inferiorOutput .. | .inferiorInput _
  | .inferiorOutputEvidence _ | .snapshotResult .. => true
  | _ => false

/-- The normalized events among the entries, with their sequence numbers. -/
def normalizedEvents (entries : List JournalEntry) : List (ℕ × DomainEvent) :=
  entries.filterMap fun entry =>
    match entry.data with
    | .of (.normalizedEvent event) => some (entry.seq, event)
    | _ => none

/-- The state behind an event; an event out of sequence is not applied. -/
def SessionState.advance (s : SessionState) (journaled : ℕ × DomainEvent) : SessionState :=
  match s.applyEvent journaled.1 journaled.2 with
  | .ok (s', _) => s'
  | .error _ => s

/-- The state of the live reducer behind the normalized events among the entries. -/
def liveAfter (session : SessionId) (entries : List JournalEntry) : SessionState :=
  (normalizedEvents entries).foldl SessionState.advance (SessionState.creating session)

/-- The event of an MI record. -/
def derivedEvent (raw : Bytes) : Except MiError (Option DomainEvent) :=
  (parseRecord raw MiLimits.default).map normalize

/-- The journals a session writes before it closes them. -/
inductive Recorded (session : SessionId) : List JournalEntry → Prop
  | created :
      Recorded session [⟨1, .of (.sessionCreated session.text (some normalizationVersion))⟩]
  | note {entries : List JournalEntry} (payload : Payload) (h : Recorded session entries)
      (hnote : payload.isNote = true) :
      Recorded session (entries ++ [⟨entries.length + 1, .of payload⟩])
  | silent {entries : List JournalEntry} (raw : Bytes) (h : Recorded session entries)
      (hraw : derivedEvent raw = .ok none) :
      Recorded session (entries ++ [⟨entries.length + 1, .of (.miOutput raw)⟩])
  | output {entries : List JournalEntry} (raw : Bytes) (event : DomainEvent)
      (h : Recorded session entries) (hraw : derivedEvent raw = .ok (some event)) :
      Recorded session (entries ++ [⟨entries.length + 1, .of (.miOutput raw)⟩] ++
        [⟨entries.length + 2, .of (.normalizedEvent event)⟩])
  | event {entries : List JournalEntry} (event : DomainEvent) (h : Recorded session entries) :
      Recorded session (entries ++ [⟨entries.length + 1, .of (.normalizedEvent event)⟩])
  | checkpoint {entries : List JournalEntry} (h : Recorded session entries)
      (hevents : normalizedEvents entries ≠ []) :
      Recorded session (entries ++ [⟨entries.length + 1, .of (.stateRevision
        (liveAfter session entries).revision (liveAfter session entries))⟩])

/-- The marker that ends a journal cut behind the entries. -/
def gapAfter (entries : List JournalEntry) (reason : String) : JournalEntry :=
  ⟨entries.length + 1, .gap (entries.length + 1) reason⟩

/-- The marker that closes a journal. -/
def closedAfter (entries : List JournalEntry) : JournalEntry :=
  ⟨entries.length + 1, .of .journalClosed⟩

/-- The event of an entry that is an MI record. -/
def EntryData.derived : EntryData → Option DomainEvent
  | .of (.miOutput raw) => (derivedEvent raw).toOption.join
  | _ => none

/-- The event of an MI record that ends the entries. -/
def lastDerived (entries : List JournalEntry) : Option DomainEvent :=
  entries.getLast?.bind fun entry => entry.data.derived

/-! ### The live state -/

section Live

variable {session : SessionId}

lemma normalizedEvents_append (entries : List JournalEntry) (entry : JournalEntry) :
    normalizedEvents (entries ++ [entry]) = normalizedEvents entries ++ normalizedEvents [entry] :=
  List.filterMap_append

lemma liveAfter_append (entries : List JournalEntry) (entry : JournalEntry) :
    liveAfter session (entries ++ [entry]) =
      (normalizedEvents [entry]).foldl SessionState.advance (liveAfter session entries) := by
  rw [liveAfter, normalizedEvents_append, List.foldl_append]
  rfl

variable {s : SessionState} {seq : ℕ}

/-- An event applies behind the last one. -/
lemma SessionState.advance_applies (event : DomainEvent) (h : s.eventSeq < seq) :
    s.Applies (seq, event) (s.advance (seq, event)) := by
  rcases happly : s.applyEvent seq event with error | ⟨s', changed⟩
  · rw [SessionState.applyEvent, if_neg (Nat.not_le.mpr h)] at happly
    exact absurd happly (by simp)
  · exact ⟨changed, by rw [SessionState.advance, happly]⟩

lemma SessionState.advance_eventSeq (event : DomainEvent) (h : s.eventSeq < seq) :
    (s.advance (seq, event)).eventSeq = seq :=
  (SessionState.advance_applies event h).identity.2.2

lemma SessionState.advance_sessionId (event : DomainEvent) (h : s.eventSeq < seq) :
    (s.advance (seq, event)).sessionId = s.sessionId :=
  (SessionState.advance_applies event h).identity.1

lemma liveAfter_event (entries : List JournalEntry) (seq : ℕ) (event : DomainEvent) :
    liveAfter session (entries ++ [⟨seq, .of (.normalizedEvent event)⟩]) =
      (liveAfter session entries).advance (seq, event) :=
  liveAfter_append entries _

variable {entries : List JournalEntry}

lemma normalizedEvents_other {entry : JournalEntry} (hother : normalizedEvents [entry] = []) :
    normalizedEvents (entries ++ [entry]) = normalizedEvents entries := by
  rw [normalizedEvents_append, hother, List.append_nil]

lemma liveAfter_other {entry : JournalEntry} (hother : normalizedEvents [entry] = []) :
    liveAfter session (entries ++ [entry]) = liveAfter session entries := by
  rw [liveAfter, normalizedEvents_other hother, liveAfter]

lemma Payload.not_event_of_isNote {payload : Payload} (h : payload.isNote = true) (seq : ℕ) :
    normalizedEvents [⟨seq, .of payload⟩] = [] := by
  cases payload with
  | normalizedEvent event => exact absurd h (by simp [Payload.isNote])
  | _ => rfl

/-- The live state is one of the session, and no event is ahead of the journal. -/
def LiveWithin (session : SessionId) (entries : List JournalEntry) : Prop :=
  (liveAfter session entries).sessionId = session ∧
    (liveAfter session entries).eventSeq ≤ entries.length

lemma LiveWithin.other {e : JournalEntry} (h : LiveWithin session entries)
    (hother : normalizedEvents [e] = []) : LiveWithin session (entries ++ [e]) := by
  rw [LiveWithin, liveAfter_other hother, List.length_append]
  exact ⟨h.1, Nat.le_succ_of_le h.2⟩

lemma LiveWithin.event {entries : List JournalEntry} (h : LiveWithin session entries)
    (event : DomainEvent) :
    LiveWithin session (entries ++ [⟨entries.length + 1, .of (.normalizedEvent event)⟩]) := by
  have hlt := Nat.lt_succ_of_le h.2
  rw [LiveWithin, liveAfter_event, SessionState.advance_sessionId event hlt,
    SessionState.advance_eventSeq event hlt, List.length_append]
  exact ⟨h.1, le_rfl⟩

lemma Recorded.liveWithin (h : Recorded session entries) : LiveWithin session entries := by
  induction h with
  | created => exact ⟨rfl, Nat.zero_le _⟩
  | note payload h hnote ih => exact ih.other (payload.not_event_of_isNote hnote _)
  | silent raw h hraw ih => exact ih.other rfl
  | @output entries raw event h hraw ih =>
    have hnext := (ih.other (e := ⟨entries.length + 1, .of (.miOutput raw)⟩) rfl).event event
    rwa [List.length_append] at hnext
  | event event h ih => exact ih.event event
  | checkpoint h hevents ih => exact ih.other rfl

end Live

/-! ### The replay of a recorded journal -/

/-- The loop has read the entries.  Before the first normalized event its state may come from an
MI record; the event resets it. -/
structure Reading (session : SessionId) (entries : List JournalEntry) (r : Replayer) : Prop where
  reset : (if r.sawNormalized then r.state else SessionState.creating r.state.sessionId) =
    liveAfter session entries
  counted : (if r.sawNormalized then r.appliedEvents else 0) = (normalizedEvents entries).length
  sawNormalized : r.sawNormalized = !(normalizedEvents entries).isEmpty
  normalizationVersion : r.normalizationVersion = GdbAi.normalizationVersion
  firstUnmatched : r.firstUnmatched = none
  lastSeq : r.lastSeq = entries.length
  entriesRead : r.entries = entries.length
  complete : r.complete = false
  evidenceGap : r.evidenceGap = none

/-- The loop has read the entries, and no MI record waits for its event. -/
structure InStep (session : SessionId) (entries : List JournalEntry) (r : Replayer) : Prop
    extends Reading session entries r where
  state : r.state = liveAfter session entries
  appliedEvents : r.appliedEvents = (normalizedEvents entries).length
  pendingDerived : r.pendingDerived = none

/-- The loop has read the entries, the last of which is an MI record that waits for its event. -/
structure Halfway (session : SessionId) (entries : List JournalEntry) (event : DomainEvent)
    (r : Replayer) : Prop extends Reading session entries r where
  state : r.state = if normalizedEvents entries = [] then
    (SessionState.creating session).advance (entries.length, event) else liveAfter session entries
  appliedEvents : r.appliedEvents =
    if normalizedEvents entries = [] then 1 else (normalizedEvents entries).length
  pendingDerived : r.pendingDerived = some (entries.length, event)

/-- The loop over the entries, with the session its caller names. -/
def replayed (caller : SessionId) (entries : List JournalEntry) : Except Error Replayer :=
  entries.foldlM Replayer.step (Replayer.start caller)

/-- The loop with the counters of one more entry. -/
def Replayer.next (r : Replayer) : Replayer :=
  { r with lastSeq := r.lastSeq + 1, entries := r.entries + 1 }

section Steps

variable {session caller : SessionId} {entries : List JournalEntry} {r r' : Replayer}

lemma replayed_append (h : replayed caller entries = .ok r) {entry : JournalEntry}
    (hstep : r.step entry = .ok r') : replayed caller (entries ++ [entry]) = .ok r' := by
  rw [replayed] at h
  rw [replayed, List.foldlM_append, h]
  change (r.step entry >>= pure) = .ok r'
  rw [bind_pure, hstep]

lemma Reading.step (h : Reading session entries r) (data : EntryData) :
    r.step ⟨entries.length + 1, data⟩ = r.next.branch (entries.length + 1) data := by
  simp only [Replayer.step, h.complete, h.evidenceGap, requireNextSequence, h.lastSeq,
    Replayer.next]
  rfl

lemma Reading.sawNormalized_iff (h : Reading session entries r) :
    r.sawNormalized = true ↔ normalizedEvents entries ≠ [] := by
  rw [h.sawNormalized]
  simp

lemma Reading.other (h : Reading session entries r) {e : JournalEntry}
    (hother : normalizedEvents [e] = []) : Reading session (entries ++ [e]) r.next where
  reset := by rw [liveAfter_other hother]; exact h.reset
  counted := by rw [normalizedEvents_other hother]; exact h.counted
  sawNormalized := by rw [normalizedEvents_other hother]; exact h.sawNormalized
  normalizationVersion := h.normalizationVersion
  firstUnmatched := h.firstUnmatched
  lastSeq := by rw [List.length_append, Replayer.next, h.lastSeq]; rfl
  entriesRead := by rw [List.length_append, Replayer.next, h.entriesRead]; rfl
  complete := h.complete
  evidenceGap := h.evidenceGap

/-- The counts of MI records and snapshots do not matter. -/
lemma Reading.tally (h : Reading session entries r) (parsed snapshots : ℕ)
    (latest : Option Snapshot) : Reading session entries
      { r with parsedMiRecords := parsed, snapshots := snapshots, latestSnapshot := latest } :=
  ⟨h.reset, h.counted, h.sawNormalized, h.normalizationVersion, h.firstUnmatched, h.lastSeq,
    h.entriesRead, h.complete, h.evidenceGap⟩

/-- An entry that changes no variable of the checks keeps the loop in step. -/
lemma InStep.other (h : InStep session entries r) {e : JournalEntry}
    (hother : normalizedEvents [e] = []) : InStep session (entries ++ [e]) r.next where
  toReading := h.toReading.other hother
  state := by rw [liveAfter_other hother]; exact h.state
  appliedEvents := by rw [normalizedEvents_other hother]; exact h.appliedEvents
  pendingDerived := h.pendingDerived

variable {seq : ℕ}

lemma Replayer.reduce_eq (event : DomainEvent) (h : r.state.eventSeq < seq) :
    r.reduce seq event = .ok { r with
      state := r.state.advance (seq, event), appliedEvents := r.appliedEvents + 1 } := by
  obtain ⟨changed, happly⟩ := SessionState.advance_applies event h
  rw [Replayer.reduce]
  simp only at happly
  rw [happly]
  rfl

/-- A normalized event is reduced on the state of the events before it. -/
lemma Replayer.normalizedEvent_eq {seq n : ℕ} {event : DomainEvent} {live : SessionState}
    (hpending : r.pendingDerived = none ∨
      ∃ rawSeq, rawSeq + 1 = seq ∧ r.pendingDerived = some (rawSeq, event))
    (hstate : (if r.sawNormalized then r.state else
      SessionState.creating r.state.sessionId) = live)
    (happlied : (if r.sawNormalized then r.appliedEvents else 0) = n)
    (hlt : live.eventSeq < seq) :
    r.normalizedEvent seq event = .ok { r with
      state := live.advance (seq, event), appliedEvents := n + 1, sawNormalized := true,
      pendingDerived := none } := by
  have hreset : (if r.sawNormalized then r else
      { r with
        state := SessionState.creating r.state.sessionId
        appliedEvents := 0
        sawNormalized := true }) =
      { r with state := live, appliedEvents := n, sawNormalized := true } := by
    subst hstate happlied
    cases hsaw : r.sawNormalized with
    | false => rfl
    | true =>
      simp only [if_true]
      rw [← hsaw]
  rw [Replayer.normalizedEvent, hreset]
  rcases hpending with hpending | ⟨rawSeq, rfl, hpending⟩
  · simp only [hpending]
    exact Replayer.reduce_eq event hlt
  · simp only [hpending, ne_eq, not_true_eq_false, if_false, if_true]
    exact Replayer.reduce_eq event hlt

/-- A normalized event brings the loop in step, also behind the MI record it comes from. -/
lemma Reading.event (h : Reading session entries r) (hlive : LiveWithin session entries)
    (event : DomainEvent)
    (hpending : r.pendingDerived = none ∨ r.pendingDerived = some (entries.length, event)) :
    ∃ r', r.step ⟨entries.length + 1, .of (.normalizedEvent event)⟩ = .ok r' ∧
      InStep session (entries ++ [⟨entries.length + 1, .of (.normalizedEvent event)⟩]) r' := by
  refine ⟨_, (h.step _).trans (Replayer.normalizedEvent_eq (r := r.next)
    (hpending.imp id fun hp => ⟨_, rfl, hp⟩) h.reset h.counted (Nat.lt_succ_of_le hlive.2)), ?_⟩
  exact
    { reset := (liveAfter_event _ _ _).symm
      counted := by rw [normalizedEvents_append, List.length_append]; rfl
      sawNormalized := by rw [normalizedEvents_append]; simp [normalizedEvents]
      normalizationVersion := h.normalizationVersion
      firstUnmatched := h.firstUnmatched
      lastSeq := by rw [List.length_append]; exact congrArg (· + 1) h.lastSeq
      entriesRead := by rw [List.length_append]; exact congrArg (· + 1) h.entriesRead
      complete := h.complete
      evidenceGap := h.evidenceGap
      state := (liveAfter_event _ _ _).symm
      appliedEvents := by rw [normalizedEvents_append, List.length_append]; rfl
      pendingDerived := rfl }

variable {raw : Bytes}

lemma derivedEvent_eq_ok {derived : Option DomainEvent} (h : derivedEvent raw = .ok derived) :
    ∃ record, parseRecord raw MiLimits.default = .ok record ∧ normalize record = derived := by
  rw [derivedEvent] at h
  rcases hparse : parseRecord raw MiLimits.default with error | record
  · rw [hparse] at h
    exact absurd h (by simp [Except.map])
  · rw [hparse] at h
    exact ⟨record, rfl, Except.ok.inj h⟩

lemma Replayer.miOutput_silent (r : Replayer) (seq : ℕ) (h : derivedEvent raw = .ok none) :
    r.miOutput seq raw = .ok { r with parsedMiRecords := r.parsedMiRecords + 1 } := by
  obtain ⟨record, hparse, hnormalize⟩ := derivedEvent_eq_ok h
  simp only [Replayer.miOutput, hparse, Except.mapError, bind, Except.bind, hnormalize]
  rfl

lemma Replayer.miOutput_derived (r : Replayer) (seq : ℕ) {event : DomainEvent}
    (h : derivedEvent raw = .ok (some event)) :
    r.miOutput seq raw = { r with parsedMiRecords := r.parsedMiRecords + 1 }.derived seq event := by
  obtain ⟨record, hparse, hnormalize⟩ := derivedEvent_eq_ok h
  simp only [Replayer.miOutput, hparse, Except.mapError, bind, Except.bind, hnormalize]

lemma InStep.silent (h : InStep session entries r) (hraw : derivedEvent raw = .ok none) :
    ∃ r', r.step ⟨entries.length + 1, .of (.miOutput raw)⟩ = .ok r' ∧
      InStep session (entries ++ [⟨entries.length + 1, .of (.miOutput raw)⟩]) r' := by
  refine ⟨_, (h.toReading.step _).trans (r.next.miOutput_silent _ hraw), ?_⟩
  have hother := h.other (e := ⟨entries.length + 1, .of (.miOutput raw)⟩) rfl
  exact ⟨hother.tally _ _ _, hother.state, hother.appliedEvents, hother.pendingDerived⟩

/-- With no normalized event the live state is the initial one. -/
lemma liveAfter_of_nil (h : normalizedEvents entries = []) :
    liveAfter session entries = SessionState.creating session := by
  rw [liveAfter, h, List.foldl_nil]

/-- Behind a normalized event, the event of an MI record only waits. -/
lemma Replayer.derived_waits (event : DomainEvent) (hversion : r.normalizationVersion ≠ 1)
    (hpending : r.pendingDerived = none) (hunmatched : r.firstUnmatched = none)
    (hsaw : r.sawNormalized = true) :
    r.derived seq event = .ok { r with pendingDerived := some (seq, event) } := by
  simp only [Replayer.derived, if_neg hversion, if_pos hsaw, pure_bind, hpending]
  rw [hunmatched]
  rfl

/-- Before the first normalized event, the event of an MI record is reduced, too. -/
lemma Replayer.derived_reduces (event : DomainEvent) (hversion : r.normalizationVersion ≠ 1)
    (hpending : r.pendingDerived = none) (hunmatched : r.firstUnmatched = none)
    (hsaw : ¬ r.sawNormalized = true) (hlt : r.state.eventSeq < seq) :
    r.derived seq event = .ok { r with
      state := r.state.advance (seq, event)
      appliedEvents := r.appliedEvents + 1
      pendingDerived := some (seq, event) } := by
  simp only [Replayer.derived, if_neg hversion, if_neg hsaw, Replayer.reduce_eq event hlt, bind,
    Except.bind, hpending]
  rw [hunmatched]
  rfl

lemma InStep.halfway (h : InStep session entries r) (hlive : LiveWithin session entries)
    {event : DomainEvent} (hraw : derivedEvent raw = .ok (some event)) :
    ∃ r', r.step ⟨entries.length + 1, .of (.miOutput raw)⟩ = .ok r' ∧
      Halfway session (entries ++ [⟨entries.length + 1, .of (.miOutput raw)⟩]) event r' := by
  have hother := h.other (e := ⟨entries.length + 1, .of (.miOutput raw)⟩) rfl
  have hversion : r.normalizationVersion ≠ 1 := by rw [h.normalizationVersion]; decide
  have hstep := (h.toReading.step (.of (.miOutput raw))).trans (r.next.miOutput_derived _ hraw)
  by_cases hsaw : r.sawNormalized = true
  · have hevents := hother.toReading.sawNormalized_iff.mp hsaw
    have hread := hother.tally (r.parsedMiRecords + 1) r.snapshots r.latestSnapshot
    refine ⟨_, hstep.trans (Replayer.derived_waits event hversion h.pendingDerived
      h.firstUnmatched hsaw), { hread with }, ?_, ?_, ?_⟩
    · rw [if_neg hevents]
      exact hother.state
    · rw [if_neg hevents]
      exact hother.appliedEvents
    · rw [List.length_append]
      rfl
  · have hevents := not_not.mp fun hne => hsaw (hother.toReading.sawNormalized_iff.mpr hne)
    have hlt : r.state.eventSeq < entries.length + 1 := by
      rw [h.state]
      exact Nat.lt_succ_of_le hlive.2
    have hcreating : r.state = SessionState.creating session := by
      rw [h.state, liveAfter_of_nil]
      rwa [normalizedEvents_other rfl] at hevents
    refine ⟨_, hstep.trans (Replayer.derived_reduces event hversion h.pendingDerived
      h.firstUnmatched hsaw hlt), { hother.toReading with reset := ?_, counted := ?_ }, ?_, ?_, ?_⟩
    · have hsession := SessionState.advance_sessionId event hlt
      refine (if_neg hsaw).trans ((congrArg SessionState.creating hsession).trans ?_)
      exact (if_neg hsaw).symm.trans hother.reset
    · exact (if_neg hsaw).trans ((if_neg hsaw).symm.trans hother.counted)
    · rw [if_pos hevents, List.length_append]
      exact congrArg (SessionState.advance · (entries.length + 1, event)) hcreating
    · have hnone := hother.appliedEvents
      rw [hevents] at hnone
      rw [if_pos hevents]
      exact congrArg (· + 1) hnone
    · rw [List.length_append]
      rfl

lemma InStep.checkpoint (h : InStep session entries r) (hevents : normalizedEvents entries ≠ []) :
    r.step ⟨entries.length + 1, .of (.stateRevision (liveAfter session entries).revision
      (liveAfter session entries))⟩ = .ok r.next := by
  have hsaw := h.toReading.sawNormalized_iff.mpr hevents
  rw [h.toReading.step]
  refine if_neg ?_
  rintro (hnot | hrevision | hstate)
  · exact absurd (hsaw.symm.trans hnot) (by decide)
  · exact hrevision rfl
  · exact hstate h.state

lemma InStep.note (h : InStep session entries r) {payload : Payload}
    (hnote : payload.isNote = true) :
    ∃ r', r.step ⟨entries.length + 1, .of payload⟩ = .ok r' ∧
      InStep session (entries ++ [⟨entries.length + 1, .of payload⟩]) r' := by
  have hother := h.other (payload.not_event_of_isNote hnote (entries.length + 1))
  rw [h.toReading.step]
  cases payload with
  | snapshotResult snapshotId snapshot =>
    exact ⟨_, rfl, hother.tally _ _ _, hother.state, hother.appliedEvents, hother.pendingDerived⟩
  | apiRequest _ | miInput _ _ | gdbStderr _ | inferiorOutput _ _ _ | inferiorInput _
  | inferiorOutputEvidence _ => exact ⟨_, rfl, hother⟩
  | _ => exact absurd hnote (by simp [Payload.isNote])

/-- The loop over a recorded journal ends in step with the live reducer, whichever session its
caller has named. -/
lemma replayed_of_recorded (hsession : SessionId.parse session.text = .ok session)
    (h : Recorded session entries) (caller : SessionId) :
    ∃ r, replayed caller entries = .ok r ∧ InStep session entries r := by
  induction h with
  | created =>
    refine ⟨{ Replayer.start session with
      normalizationVersion := normalizationVersion, lastSeq := 1, entries := 1 }, ?_, ?_⟩
    · have hstart : replayed caller [] = .ok (Replayer.start caller) := rfl
      refine replayed_append hstart ?_
      change (SessionId.parse session.text >>= _) = _
      rw [hsession]
      rfl
    · exact ⟨⟨rfl, rfl, rfl, rfl, rfl, rfl, rfl, rfl, rfl⟩, rfl, rfl, rfl⟩
  | note payload h hnote ih =>
    obtain ⟨r, hr, hin⟩ := ih
    obtain ⟨r', hstep, hin'⟩ := hin.note hnote
    exact ⟨r', replayed_append hr hstep, hin'⟩
  | silent raw h hraw ih =>
    obtain ⟨r, hr, hin⟩ := ih
    obtain ⟨r', hstep, hin'⟩ := hin.silent hraw
    exact ⟨r', replayed_append hr hstep, hin'⟩
  | @output entries raw event h hraw ih =>
    obtain ⟨r, hr, hin⟩ := ih
    obtain ⟨r₁, hstep₁, hhalf⟩ := hin.halfway h.liveWithin hraw
    have hlive := h.liveWithin.other (e := ⟨entries.length + 1, .of (.miOutput raw)⟩) rfl
    obtain ⟨r₂, hstep₂, hin'⟩ := hhalf.toReading.event hlive event (.inr hhalf.pendingDerived)
    rw [List.length_append] at hstep₂ hin'
    exact ⟨r₂, replayed_append (replayed_append hr hstep₁) hstep₂, hin'⟩
  | event event h ih =>
    obtain ⟨r, hr, hin⟩ := ih
    obtain ⟨r', hstep, hin'⟩ := hin.toReading.event h.liveWithin event (.inl hin.pendingDerived)
    exact ⟨r', replayed_append hr hstep, hin'⟩
  | checkpoint h hevents ih =>
    obtain ⟨r, hr, hin⟩ := ih
    exact ⟨r.next, replayed_append hr (hin.checkpoint hevents), hin.other rfl⟩

/-! ### The end of a journal -/

lemma InStep.finish (h : InStep session entries r) : r.finish = .ok r.report := by
  rw [Replayer.finish, h.firstUnmatched, h.pendingDerived]
  rfl

lemma Reading.gap (h : Reading session entries r) (reason : String) :
    r.step (gapAfter entries reason) =
      .ok { r.next with evidenceGap := some ⟨entries.length + 1, reason⟩ } :=
  (h.step _).trans (if_neg fun hne => hne rfl)

lemma InStep.closed (h : InStep session entries r)
    (hclosed : (liveAfter session entries).lifecycle = .closed) :
    r.step (closedAfter entries) = .ok { r.next with complete := true } := by
  have hevents : normalizedEvents entries ≠ [] := by
    intro hnil
    rw [liveAfter_of_nil hnil] at hclosed
    exact absurd hclosed (by simp [SessionState.creating])
  have hsaw := h.toReading.sawNormalized_iff.mpr hevents
  refine (h.toReading.step _).trans (if_neg ?_)
  rintro (hnot | hopen)
  · exact absurd (hsaw.symm.trans hnot) (by decide)
  · refine hopen ?_
    change r.state.lifecycle = .closed
    rw [h.state, hclosed]

lemma replay_of_replayed {report : ReplayReport} (h : replayed caller entries = .ok r)
    (hfinish : r.finish = .ok report) : replay caller entries = .ok report := by
  rw [replayed] at h
  rw [replay, h]
  exact hfinish

/-- A recorded journal has its first entry. -/
lemma Recorded.ne_nil (h : Recorded session entries) : entries ≠ [] := by
  cases h <;> simp

/-- A prefix of a recorded journal is empty, a recorded journal, or one cut between an MI record
and its event. -/
lemma Recorded.prefix_cases (h : Recorded session entries) {cut : List JournalEntry}
    (hcut : cut <+: entries) :
    cut = [] ∨ Recorded session cut ∨
      ∃ body raw event, Recorded session body ∧ derivedEvent raw = .ok (some event) ∧
        cut = body ++ [⟨body.length + 1, .of (.miOutput raw)⟩] := by
  induction h with
  | created =>
    rcases List.prefix_cons_iff.mp hcut with rfl | ⟨rest, rfl, hrest⟩
    · exact .inl rfl
    · exact .inr (.inl (List.prefix_nil.mp hrest ▸ .created))
  | note payload h hnote ih =>
    rcases List.prefix_concat_iff.mp hcut with rfl | hcut
    · exact .inr (.inl (.note payload h hnote))
    · exact ih hcut
  | silent raw h hraw ih =>
    rcases List.prefix_concat_iff.mp hcut with rfl | hcut
    · exact .inr (.inl (.silent raw h hraw))
    · exact ih hcut
  | output raw event h hraw ih =>
    rcases List.prefix_concat_iff.mp hcut with rfl | hcut
    · exact .inr (.inl (.output raw event h hraw))
    · rcases List.prefix_concat_iff.mp hcut with rfl | hcut
      · exact .inr (.inr ⟨_, raw, event, h, hraw, rfl⟩)
      · exact ih hcut
  | event event h ih =>
    rcases List.prefix_concat_iff.mp hcut with rfl | hcut
    · exact .inr (.inl (.event event h))
    · exact ih hcut
  | checkpoint h hevents ih =>
    rcases List.prefix_concat_iff.mp hcut with rfl | hcut
    · exact .inr (.inl (.checkpoint h hevents))
    · exact ih hcut

lemma lastDerived_append (entries : List JournalEntry) (seq : ℕ) (data : EntryData) :
    lastDerived (entries ++ [⟨seq, data⟩]) = data.derived := by
  rw [lastDerived, List.getLast?_concat]
  rfl

/-- A recorded journal ends behind the event of its last MI record. -/
lemma Recorded.lastDerived_eq_none (h : Recorded session entries) : lastDerived entries = none := by
  cases h with
  | created => rfl
  | note payload h hnote =>
    rw [lastDerived_append]
    cases payload with
    | miOutput raw => exact absurd hnote (by simp [Payload.isNote])
    | _ => rfl
  | silent raw h hraw =>
    rw [lastDerived_append, EntryData.derived, hraw]
    rfl
  | output raw event h hraw => exact lastDerived_append _ _ _
  | event event h => exact lastDerived_append _ _ _
  | checkpoint h hevents => exact lastDerived_append _ _ _

/-- The report on a journal cut in step with the live reducer. -/
lemma InStep.replay_gap (h : InStep session entries r) (hr : replayed caller entries = .ok r)
    (reason : String) :
    ∃ report, replay caller (entries ++ [gapAfter entries reason]) = .ok report ∧
      report.complete = false ∧ report.state = liveAfter session entries ∧
      report.appliedEvents = (normalizedEvents entries).length := by
  refine ⟨Replayer.report { r.next with evidenceGap := some ⟨entries.length + 1, reason⟩ },
    replay_of_replayed (replayed_append hr (h.toReading.gap reason)) ?_, h.complete, h.state,
    h.appliedEvents⟩
  simp only [Replayer.finish, Replayer.next, h.firstUnmatched, h.pendingDerived]
  rfl

/-- The report on a journal cut between an MI record and its event. -/
lemma Halfway.replay_gap {event : DomainEvent} (h : Halfway session entries event r)
    (hr : replayed caller entries = .ok r) (reason : String) :
    ∃ report, replay caller (entries ++ [gapAfter entries reason]) = .ok report ∧
      report.complete = false ∧ report.state = r.state ∧
      report.appliedEvents = r.appliedEvents := by
  refine ⟨Replayer.report { r.next with evidenceGap := some ⟨entries.length + 1, reason⟩ },
    replay_of_replayed (replayed_append hr (h.toReading.gap reason)) ?_, h.complete, rfl, rfl⟩
  simp only [Replayer.finish, Replayer.next, h.firstUnmatched, h.pendingDerived]
  exact if_neg (by simp)

end Steps

/-- The replay of a recorded journal reaches the state of the live reducer, and is complete
exactly when the journal is closed.  So does the replay of a journal cut anywhere and ended by a
gap, unless it is cut behind an MI record with an event and before any normalized event: then
replay applies that event at the number of the record.  The session that the caller names shows only
where nothing is left of the journal. -/
theorem replay_of_recorded (session : SessionId)
    (hsession : SessionId.parse session.text = .ok session) (entries : List JournalEntry)
    (h : Recorded session entries) (caller : SessionId) :
    (∃ report, replay caller entries = .ok report ∧ report.complete = false ∧
        report.state = liveAfter session entries ∧
        report.appliedEvents = (normalizedEvents entries).length) ∧
      ((liveAfter session entries).lifecycle = .closed →
        ∃ report, replay caller (entries ++ [closedAfter entries]) = .ok report ∧
          report.complete = true ∧ report.state = liveAfter session entries ∧
          report.appliedEvents = (normalizedEvents entries).length) ∧
      ∀ cut, cut <+: entries → ∀ reason,
        ∃ report, replay caller (cut ++ [gapAfter cut reason]) = .ok report ∧
          report.complete = false ∧
          (normalizedEvents cut ≠ [] ∨ lastDerived cut = none →
            report.state = liveAfter (if cut = [] then caller else session) cut ∧
            report.appliedEvents = (normalizedEvents cut).length) ∧
          ∀ event, normalizedEvents cut = [] → lastDerived cut = some event →
            report.state = (SessionState.creating session).advance (cut.length, event) ∧
            report.appliedEvents = 1 := by
  obtain ⟨r, hr, hin⟩ := replayed_of_recorded hsession h caller
  refine ⟨⟨_, replay_of_replayed hr hin.finish, hin.complete, hin.state, hin.appliedEvents⟩, ?_, ?_⟩
  · intro hclosed
    refine ⟨Replayer.report { r.next with complete := true },
      replay_of_replayed (replayed_append hr (hin.closed hclosed)) ?_, rfl, hin.state,
      hin.appliedEvents⟩
    simp only [Replayer.finish, Replayer.next, hin.firstUnmatched, hin.pendingDerived]
    rfl
  intro cut hcut reason
  rcases h.prefix_cases hcut with rfl | hrecorded | ⟨body, raw, event, hbody, hraw, rfl⟩
  · exact ⟨Replayer.report { (Replayer.start caller).next with evidenceGap := some ⟨1, reason⟩ },
      rfl, rfl, fun _ => ⟨rfl, rfl⟩, fun event _ hlast => absurd hlast (by simp [lastDerived])⟩
  · rw [if_neg hrecorded.ne_nil]
    obtain ⟨r, hr, hin⟩ := replayed_of_recorded hsession hrecorded caller
    obtain ⟨report, hreplay, hcomplete, hstate, happlied⟩ := hin.replay_gap hr reason
    refine ⟨report, hreplay, hcomplete, fun _ => ⟨hstate, happlied⟩, fun event _ hlast => ?_⟩
    exact absurd (hrecorded.lastDerived_eq_none.symm.trans hlast) (by simp)
  · rw [if_neg (by simp)]
    obtain ⟨r, hr, hin⟩ := replayed_of_recorded hsession hbody caller
    obtain ⟨r', hstep, hhalf⟩ := hin.halfway hbody.liveWithin hraw
    obtain ⟨report, hreplay, hcomplete, hstate, happlied⟩ :=
      hhalf.replay_gap (replayed_append hr hstep) reason
    have hlast : lastDerived (body ++ [⟨body.length + 1, .of (.miOutput raw)⟩]) = some event := by
      rw [lastDerived_append, EntryData.derived, hraw]
      rfl
    refine ⟨report, hreplay, hcomplete, ?_, ?_⟩
    · rintro (hevents | hnone)
      · rw [hstate, happlied, hhalf.state, hhalf.appliedEvents, if_neg hevents, if_neg hevents]
        exact ⟨rfl, rfl⟩
      · exact absurd (hlast.symm.trans hnone) (by simp)
    · intro event' hevents hlast'
      obtain rfl := Option.some.inj (hlast.symm.trans hlast')
      rw [hstate, happlied, hhalf.state, hhalf.appliedEvents, if_pos hevents, if_pos hevents]
      exact ⟨rfl, rfl⟩

/-- A journal of console output and a close replays as complete, and cut behind its second MI
record it replays up to the first one. -/
theorem replay_closed_session :
    ∃ entries, Recorded ⟨"sess_x"⟩ entries ∧
      (∃ report, replay ⟨"sess_x"⟩ (entries ++ [closedAfter entries]) = .ok report ∧
        report.complete = true ∧ report.state.lifecycle = .closed ∧ report.appliedEvents = 3) ∧
      ∃ report, replay ⟨"sess_x"⟩ (entries.take 4 ++ [gapAfter (entries.take 4) "quota"]) =
          .ok report ∧ report.state.eventSeq = 3 ∧ report.appliedEvents = 1 := by
  -- `~"x"`, a console stream record
  have hraw : derivedEvent [126, 34, 120, 34] = .ok (some (.output .gdbConsoleStream [120])) := rfl
  have hrecorded : Recorded ⟨"sess_x"⟩ _ :=
    .event .sessionClosed (.output _ _ (.output _ _ .created hraw) hraw)
  have hsession : SessionId.parse "sess_x" = .ok ⟨"sess_x"⟩ := by decide
  obtain ⟨-, hclosed, hcuts⟩ := replay_of_recorded ⟨"sess_x"⟩ hsession _ hrecorded ⟨"sess_x"⟩
  refine ⟨_, hrecorded, ?_, ?_⟩
  · obtain ⟨report, hreplay, hcomplete, hstate, happlied⟩ := hclosed rfl
    exact ⟨report, hreplay, hcomplete, by rw [hstate]; rfl, happlied⟩
  · obtain ⟨report, hreplay, -, hcut, -⟩ := hcuts _ (List.take_prefix 4 _) "quota"
    obtain ⟨hstate, happlied⟩ := hcut (.inl (by decide))
    exact ⟨report, hreplay, by rw [hstate]; rfl, happlied⟩

/-- Cut behind its first MI record, a journal replays an event that was not recorded; and replay
rejects a checkpoint of the live state before the first normalized event. -/
theorem replay_before_first_event :
    (∃ entries cut, Recorded ⟨"sess_x"⟩ entries ∧ cut <+: entries ∧
      ∃ report, replay ⟨"sess_x"⟩ (cut ++ [gapAfter cut "quota"]) = .ok report ∧
        report.appliedEvents ≠ (normalizedEvents cut).length ∧
        report.state ≠ liveAfter ⟨"sess_x"⟩ cut) ∧
      ∃ entries, Recorded ⟨"sess_x"⟩ entries ∧
        replay ⟨"sess_x"⟩ (entries ++ [⟨entries.length + 1, .of (.stateRevision
          (liveAfter ⟨"sess_x"⟩ entries).revision (liveAfter ⟨"sess_x"⟩ entries))⟩]) =
          .error ⟨.invalidArgument, "state checkpoint 2 does not match replay", false⟩ := by
  have hraw : derivedEvent [126, 34, 120, 34] = .ok (some (.output .gdbConsoleStream [120])) := rfl
  refine ⟨⟨_, _, .output _ _ .created hraw, List.prefix_append _ _, ?_⟩, _, .created, ?_⟩
  · refine ⟨_, rfl, by decide, ?_⟩
    decide
  · rfl

end GdbAi
