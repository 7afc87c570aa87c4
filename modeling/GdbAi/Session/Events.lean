import GdbAi.Session.Execution
import GdbAi.Reducer.Effects

/-!
# Invariants of recording

Whatever the worker records, its journal and live state change by five steps only: a piece of
evidence is appended, an event is appended and reduced, the live state is appended, the journal is
flushed, or the live state fails closed.  An `EventInvariant` is kept by each of them, and then by
every function of the worker that records.
-/

namespace GdbAi

open Procedure

/-! ### Frames -/

/-- What the worker knows about the owner of the target's run. -/
structure RunOwner where
  active : Option String
  marks : List ResumeMark
  cancellations : List Cancellation

/-- The owner of the target's run in a world. -/
def World.ownership (w : World) : RunOwner where
  active := w.activeResumeOperation
  marks := w.marks
  cancellations := w.cancellations

/-- The journal, the live state, the unknown outcomes, the owner of the target's run and the trace
are unchanged; tokens are only used up, and a failed worker stays failed. -/
structure Frame (w w' : World) : Prop where
  trace : w'.toTrace = w.toTrace
  journal : w'.journal = w.journal
  state : w'.state = w.state
  timedOutTokens : w'.timedOutTokens = w.timedOutTokens
  ownership : w'.ownership = w.ownership
  storeFailed : w'.storeFailed = w.storeFailed
  nextToken : w.nextToken ≤ w'.nextToken
  fatal : w.fatal = true → w'.fatal = true
  arrivals : w'.arrivals <:+ w.arrivals

/-- A frame that recording keeps: no operation becomes dirty, and finalized evidence stays
finalized. -/
structure EventFrame (w w' : World) : Prop extends Frame w w' where
  dirtyOperations : w.dirtyOperations = [] → w'.dirtyOperations = []
  outputEvidenceFinalized : w.outputEvidenceFinalized = true → w'.outputEvidenceFinalized = true

/-- What the frames speak about. -/
structure Core where
  trace : Trace
  journal : Journal
  state : LiveState
  timedOutTokens : List ℕ
  ownership : RunOwner
  nextToken : ℕ
  fatal : Bool
  arrivals : List Arrival
  storeFailed : Bool
  dirtyOperations : List String
  outputEvidenceFinalized : Bool

/-- What the frames speak about in a world. -/
def World.core (w : World) : Core where
  trace := w.toTrace
  journal := w.journal
  state := w.state
  timedOutTokens := w.timedOutTokens
  ownership := w.ownership
  nextToken := w.nextToken
  fatal := w.fatal
  arrivals := w.arrivals
  storeFailed := w.storeFailed
  dirtyOperations := w.dirtyOperations
  outputEvidenceFinalized := w.outputEvidenceFinalized

variable {w w' : World}

/-- The live state is unchanged in a frame. -/
lemma Frame.live (h : Frame w w') : w'.live = w.live :=
  congrArg LiveState.borrow h.state

/-- A frame of worlds that agree in what the frames speak about. -/
lemma EventFrame.of_core (h : w'.core = w.core) : EventFrame w w' where
  trace := congrArg Core.trace h
  journal := congrArg Core.journal h
  state := congrArg Core.state h
  timedOutTokens := congrArg Core.timedOutTokens h
  ownership := congrArg Core.ownership h
  nextToken := Nat.le_of_eq (congrArg Core.nextToken h).symm
  fatal hw := (congrArg Core.fatal h).trans hw
  arrivals := by
    have harrivals : w'.arrivals = w.arrivals := congrArg Core.arrivals h
    rw [harrivals]
  storeFailed := congrArg Core.storeFailed h
  dirtyOperations hw := (congrArg Core.dirtyOperations h).trans hw
  outputEvidenceFinalized hw := (congrArg Core.outputEvidenceFinalized h).trans hw

/-- Nothing has changed. -/
lemma eventFrame_refl (w : World) : EventFrame w w := .of_core rfl

/-- The worker fails. -/
lemma eventFrame_fatal (w : World) : EventFrame w { w with fatal := true } :=
  { eventFrame_refl w with fatal := fun _ => rfl }

/-! ### What recording leaves alone -/

/-- The trace without what recording adds to it. -/
def Trace.commands (trace : Trace) : Trace :=
  { trace with diverged := false, late := [] }

/-- The unknown outcomes and the trace of the commands are unchanged; a failed store stays failed,
and so on as in an event frame. -/
structure Keeps (w w' : World) : Prop where
  trace : w'.toTrace.commands = w.toTrace.commands
  timedOutTokens : w'.timedOutTokens = w.timedOutTokens
  nextToken : w.nextToken ≤ w'.nextToken
  fatal : w.fatal = true → w'.fatal = true
  arrivals : w'.arrivals <:+ w.arrivals
  storeFailed : w.storeFailed = true → w'.storeFailed = true
  dirtyOperations : w.dirtyOperations = [] → w'.dirtyOperations = []
  outputEvidenceFinalized : w.outputEvidenceFinalized = true → w'.outputEvidenceFinalized = true

/-- Nothing has changed. -/
lemma keeps_refl (w : World) : Keeps w w :=
  ⟨rfl, rfl, Nat.le_refl _, id, List.suffix_rfl, id, id, id⟩

/-- An event frame leaves alone what recording does. -/
lemma keeps_of_frame (h : EventFrame w w') : Keeps w w' where
  trace := congrArg Trace.commands h.trace
  timedOutTokens := h.timedOutTokens
  nextToken := h.nextToken
  fatal := h.fatal
  arrivals := h.arrivals
  storeFailed hw := h.storeFailed.trans hw
  dirtyOperations := h.dirtyOperations
  outputEvidenceFinalized := h.outputEvidenceFinalized

namespace Keeps

variable {w₀ w w' : World}

/-- One recording behind another. -/
lemma trans (h : Keeps w₀ w) (h' : Keeps w w') : Keeps w₀ w' where
  trace := h'.trace.trans h.trace
  timedOutTokens := h'.timedOutTokens.trans h.timedOutTokens
  nextToken := Nat.le_trans h.nextToken h'.nextToken
  fatal hw := h'.fatal (h.fatal hw)
  arrivals := h'.arrivals.trans h.arrivals
  storeFailed hw := h'.storeFailed (h.storeFailed hw)
  dirtyOperations hw := h'.dirtyOperations (h.dirtyOperations hw)
  outputEvidenceFinalized hw := h'.outputEvidenceFinalized (h.outputEvidenceFinalized hw)

variable (h : Keeps w w')
include h

/-- The tokens without an answer are kept. -/
lemma unanswered : w'.unanswered = w.unanswered := (congrArg Trace.unanswered h.trace :)

/-- The lines written are kept. -/
lemma writes : w'.writes = w.writes := (congrArg Trace.writes h.trace :)

/-- The executions left are kept. -/
lemma exits : w'.exits = w.exits := (congrArg Trace.exits h.trace :)

/-- The lines of a closed journal are kept. -/
lemma closedLines : w'.closedLines = w.closedLines := (congrArg Trace.closedLines h.trace :)

end Keeps

/-! ### The live state -/

/-- Publishing keeps the live state. -/
lemma LiveState.borrow_publish (live : LiveState) : live.publish.borrow = live.borrow := by
  rcases live with ⟨published, _ | staged⟩ <;> rfl

/-- The live state is the one that was put. -/
lemma LiveState.borrow_put (live : LiveState) (state : SessionState) :
    (live.put state).borrow = state := by
  rcases live with ⟨published, _ | staged⟩ <;> rfl

/-! ### Questions, and calls of the journal -/

/-- One call of the journal has been made. -/
def World.journaled (w : World) (journal : Journal) : World :=
  { w with question := w.question + 1, journal := journal }

/-- What an append returns, and the journal behind it. -/
def World.recordIn (w : World) (env : Environment) (payload : Payload) : Except Error ℕ × Journal :=
  w.journal.record env.length payload (env.journal w.question)

section Calls

variable {P : World → Prop} {env : Environment} {w : World} {E : Error → World → Prop}

/-- What follows a question starts with its answer. -/
lemma meets_ask_bind {α β : Type} {answer : Environment → ℕ → α} {f : α → Action β}
    {W : β → World → Prop}
    (h : Meets P env (f (answer env w.question)) W E { w with question := w.question + 1 }) :
    Meets P env (ask answer >>= f) W E w := by
  unfold Meets at h ⊢
  exact h

/-- A question keeps what its number does not matter to. -/
lemma preserves_ask {α : Type} {I : World → Prop} {answer : Environment → ℕ → α}
    (h : ∀ w, I w → I { w with question := w.question + 1 }) : Preserves P env I (ask answer) := by
  intro w hw
  unfold Meets
  exact h w hw

/-- An append ends in the journal behind it. -/
lemma meets_appendJournal {payload : Payload} {V : ℕ → World → Prop}
    (hv : ∀ seq, (w.recordIn env payload).1 = .ok seq →
      V seq (w.journaled (w.recordIn env payload).2))
    (he : ∀ error, (w.recordIn env payload).1 = .error error →
      E error (w.journaled (w.recordIn env payload).2)) :
    Meets P env (appendJournal payload) V E w :=
  meets_reads_bind (meets_ask_bind (meets_reads_bind (meets_update_bind (meets_ofExcept hv he))))

/-- So does a flush. -/
lemma meets_flushJournal {V : Unit → World → Prop}
    (hv : (w.journal.flush (env.journal w.question).flush).1 = .ok () →
      V () (w.journaled (w.journal.flush (env.journal w.question).flush).2))
    (he : ∀ error, (w.journal.flush (env.journal w.question).flush).1 = .error error →
      E error (w.journaled (w.journal.flush (env.journal w.question).flush).2)) :
    Meets P env flushJournal V E w :=
  meets_ask_bind (meets_reads_bind (meets_update_bind (meets_ofExcept (fun _ => hv) he)))

/-- So does the end of the journal. -/
lemma meets_finishJournal {V : Unit → World → Prop}
    (hv : (w.journal.finish env.length (env.journal w.question)).1 = .ok () →
      V () (w.journaled (w.journal.finish env.length (env.journal w.question)).2))
    (he : ∀ error, (w.journal.finish env.length (env.journal w.question)).1 = .error error →
      E error (w.journaled (w.journal.finish env.length (env.journal w.question)).2)) :
    Meets P env finishJournal V E w :=
  meets_reads_bind (meets_ask_bind (meets_reads_bind (meets_update_bind
    (meets_ofExcept (fun _ => hv) he))))

/-- An event is refused by the journal, skipped by the reducer or reduced. -/
lemma meets_journalEvent {event : DomainEvent} {V : Bool → World → Prop}
    (hrefused : ∀ error, (w.recordIn env (.normalizedEvent event)).1 = .error error →
      E error { w.journaled (w.recordIn env (.normalizedEvent event)).2 with diverged := true })
    (hskipped : ∀ seq error, (w.recordIn env (.normalizedEvent event)).1 = .ok seq →
      w.live.applyEvent seq event = .error error →
      E error (w.journaled (w.recordIn env (.normalizedEvent event)).2))
    (hreduced : ∀ seq state changed, (w.recordIn env (.normalizedEvent event)).1 = .ok seq →
      w.live.applyEvent seq event = .ok (state, changed) →
      V changed ((w.journaled (w.recordIn env (.normalizedEvent event)).2).reduce event state)) :
    Meets P env (journalEvent event) V E w := by
  set r := w.recordIn env (.normalizedEvent event) with hr
  refine Meets.attempt_bind (meets_appendJournal (P := P)
    (V := fun seq w' => r.1 = .ok seq ∧ w' = w.journaled r.2)
    (E := fun error w' => r.1 = .error error ∧ w' = w.journaled r.2) (fun _ h => ⟨h, rfl⟩)
    fun _ h => ⟨h, rfl⟩) ?_ ?_
  · rintro seq w' ⟨hseq, rfl⟩
    refine Meets.seq (V := fun reduced w' => w.live.applyEvent seq event = .ok reduced ∧
      w' = w.journaled r.2) (E := E) ?_ ?_
    · exact meets_reads_bind (meets_ofExcept (fun _ h => ⟨h, rfl⟩)
        fun error h => hskipped seq error hseq h)
    · rintro ⟨state, changed⟩ w' ⟨happly, rfl⟩
      exact meets_update_bind (meets_pure (hreduced seq state changed hseq happly))
  · rintro error w' ⟨herror, rfl⟩
    exact meets_update_bind (meets_fail (hrefused error herror))

end Calls

/-- The live state of a worker that fails closed. -/
lemma World.live_failClosed (w : World) : w.failClosed.live = w.live.failClosed.1 := by
  change w.state.failClosed.1.borrow = w.state.borrow.failClosed.1
  unfold LiveState.failClosed
  simp only
  split
  · rw [LiveState.borrow_publish, LiveState.borrow_put]
  · rw [LiveState.borrow_put]

/-- Publishing keeps the live state. -/
lemma World.live_publish (w : World) : w.publish.live = w.live := w.state.borrow_publish

/-- The payloads that are neither events nor checkpoints. -/
def Payload.isEvidence : Payload → Bool
  | .normalizedEvent _ | .stateRevision _ _ => false
  | _ => true

/-! ### Frames and failures -/

/-- What an event frame and a failure keep, and what is asked of every state. -/
structure Framed (S I : World → Prop) : Prop where
  safe : ∀ w, I w → S w
  frame : ∀ w w', EventFrame w w' → I w → I w'
  failed : ∀ w, I w → I w.failClosed

namespace Framed

variable {env : Environment} {S I : World → Prop} {α : Type}

/-- Two invariants together. -/
lemma and {S' J : World → Prop} (h : Framed S I) (hJ : Framed S' J) :
    Framed S fun w => I w ∧ J w where
  safe w hw := h.safe w hw.1
  frame w w' hframe hw := ⟨h.frame w w' hframe hw.1, hJ.frame w w' hframe hw.2⟩
  failed w hw := ⟨h.failed w hw.1, hJ.failed w hw.2⟩

variable (h : Framed S I)
include h

/-- An update within an event frame keeps the invariant. -/
lemma updates {f : World → World} (hf : ∀ w, EventFrame w (f w)) :
    Preserves S env I (update f : Action Unit) :=
  preserves_update fun w hw => h.frame w (f w) (hf w) hw

/-- A question to the environment keeps the invariant. -/
lemma asks (answer : Environment → ℕ → α) : Preserves S env I (ask answer) :=
  preserves_ask fun w hw => h.frame w _ (.of_core rfl) hw

/-- So does a question whose error is raised. -/
lemma requires (answer : Environment → ℕ → Except Error α) :
    Preserves S env I (require answer) :=
  (h.asks answer).bind fun result => preserves_ofExcept result

/-- The state that fails closed keeps the invariant. -/
lemma markFailed : Preserves S env I GdbAi.markFailed := preserves_update h.failed

/-- The worker that fails keeps the invariant. -/
lemma fails : Preserves S env I (update fun w => { w with fatal := true } : Action Unit) :=
  h.updates eventFrame_fatal

/-- Storing keeps what the result of the store keeps. -/
lemma storeUnlessFailed {nested : DomainEvent → Action Unit}
    (hresult : ∀ result, Preserves S env I (storeResult nested result)) :
    Preserves S env I (GdbAi.storeUnlessFailed nested) := by
  refine .reading fun stores => ?_
  split
  · exact (h.asks _).bind hresult
  · exact preserves_pure _

end Framed

/-- An invariant of the steps by which the worker records.  An event is noted before it is appended
and reduced. -/
structure EventInvariant (env : Environment) (S I : World → Prop) : Prop extends Framed S I where
  append : ∀ payload : Payload, payload.isEvidence = true →
    Preserves S env I (appendJournal payload)
  event : ∀ event w, I w →
    Meets S env (journalEvent event) (fun _ => I) (fun _ => I) (w.noteEvent event)
  state : Preserves S env I appendLive
  storeFails : ∀ w, w.journal.isDurable = false → I w → I { w with storeFailed := true }
  publish : ∀ w, I w → I w.publish
  flush : Preserves S env I flushJournal

namespace EventInvariant

variable {env : Environment} {S I : World → Prop} {α : Type}

/-! ### Functions over the nested event -/

section Nested

variable (h : EventInvariant env S I) {nested : DomainEvent → Action Unit}
  (hnested : ∀ event, Preserves S env I (nested event))
include h hnested

/-- The gap of the journal is reported once. -/
lemma reportJournalGap : Preserves S env I (GdbAi.reportJournalGap nested) := by
  refine .reading fun gap => ?_
  cases gap with
  | none => exact preserves_pure ()
  | some gap => exact Preserves.bind (h.updates fun w => .of_core rfl) fun _ => hnested _

/-- A failed append is fatal. -/
lemma journalResult (result : Except Error α) :
    Preserves S env I (GdbAi.journalResult nested result) := by
  cases result with
  | error error => exact h.fails.bind fun _ => h.markFailed.bind fun _ => preserves_fail error
  | ok value => exact (h.reportJournalGap hnested).bind fun _ => preserves_pure value

/-- A failed store is fatal in durable mode and a gap of the history otherwise. -/
lemma storeResult (result : Except Error Unit) :
    Preserves S env I (GdbAi.storeResult nested result) := by
  cases result with
  | ok _ => exact preserves_pure ()
  | error error =>
    intro w hw
    refine meets_reads_bind ?_
    split
    · exact (h.fails.bind fun _ => h.markFailed.bind fun _ => preserves_fail error) w hw
    · rename_i hdurable
      refine meets_reads_bind ?_
      split
      · exact meets_pure hw
      · exact meets_update_bind (hnested _ _ (h.storeFails w (Bool.eq_false_iff.mpr hdurable) hw))

/-- Appending the live state keeps the invariant. -/
lemma appendState : Preserves S env I (GdbAi.appendState nested) := by
  refine Preserves.bind (h.updates fun w => .of_core rfl) fun _ =>
    h.state.attempt.bind fun appended => ?_
  exact (h.journalResult hnested appended).bind fun _ => preserves_pure _

/-- A checkpoint keeps the invariant. -/
lemma checkpoint (closing : Bool) : Preserves S env I (GdbAi.checkpoint nested closing) := by
  refine .reading fun dirtyOperations => ?_
  refine Preserves.bind (h.updates fun w =>
    { eventFrame_refl w with dirtyOperations := fun _ => rfl }) fun _ => ?_
  refine .reading fun checkpointState => ?_
  split
  · exact preserves_pure ()
  · refine ((h.appendState hnested).onlyIf checkpointState).bind fun _ => ?_
    refine .reading fun stores => ?_
    split
    · exact (h.asks _).bind fun result => h.storeResult hnested result
    · exact preserves_pure _

/-- Storing a snapshot keeps the invariant. -/
lemma storeSnapshotValue (snapshot : Snapshot) :
    Preserves S env I (GdbAi.storeSnapshotValue nested snapshot) := by
  refine (h.asks _).bind fun id => (h.append _ rfl).attempt.bind fun appended => ?_
  refine (h.journalResult hnested appended).bind fun _ => ?_
  refine (h.storeUnlessFailed (h.storeResult hnested)).bind fun _ => .reading fun existing => ?_
  split
  · split
    · exact preserves_pure _
    · exact preserves_fail _
  · exact Preserves.bind (h.updates fun w => .of_core rfl) fun _ => preserves_pure _

/-- Capturing a stop keeps the invariant. -/
lemma captureStop (eventSeq : ℕ) : Preserves S env I (GdbAi.captureStop nested eventSeq) := by
  refine .reading fun state => ?_
  split
  · exact preserves_pure ()
  · refine (h.storeSnapshotValue hnested _).attempt.bind fun stored => ?_
    split
    · exact (hnested _).bind fun _ => preserves_fail _
    · refine .reading fun replacing => ?_
      split
      · exact h.updates fun w => .of_core rfl
      · exact hnested _

/-- An event is noted, recorded, published and captured. -/
lemma applyEventInner (event : DomainEvent) :
    Preserves S env I (GdbAi.applyEventInner nested event) := by
  intro w hw
  refine meets_update_bind ?_
  have hrecord : Meets S env (GdbAi.recordEvent event) (fun _ => I) (fun _ => I)
      (w.noteEvent event) := by
    refine meets_reads_bind ((h.event event w hw).seq (fun changed w₁ hw₁ => ?_))
    have hstale : Preserves S env I (update World.invalidateValues : Action Unit) :=
      h.updates fun _ => .of_core rfl
    refine (hstale.onlyIf _).bind (fun _ => ?_) w₁ hw₁
    exact Preserves.bind (h.updates fun _ => .of_core rfl) fun _ => preserves_pure _
  refine hrecord.seq fun changed w₁ hw₁ => ?_
  refine Preserves.bind (I := I) (preserves_reads _) (fun durable => ?_) w₁ hw₁
  refine ((h.checkpoint hnested false).onlyIf _).bind fun _ => ?_
  refine Preserves.bind (preserves_update h.publish) fun _ => ?_
  split
  · exact .reading fun eventSeq => h.captureStop hnested eventSeq
  · exact preserves_pure ()

end Nested

/-! ### Functions of the worker -/

section Worker

variable (h : EventInvariant env S I)
include h

/-- Whatever the depth, an event keeps the invariant. -/
lemma applyEventAt (depth : ℕ) (event : DomainEvent) :
    Preserves S env I (GdbAi.applyEventAt depth event) := by
  induction depth generalizing event with
  | zero => exact preserves_wait h.safe
  | succ depth ih =>
    refine Preserves.bind (Preserves.attempt ?_) fun applied => ?_
    · exact (h.applyEventInner ih event).bind fun _ => h.reportJournalGap ih
    · cases applied with
      | ok _ => exact preserves_pure ()
      | error error => exact h.fails.bind fun _ => h.markFailed.bind fun _ => preserves_fail error

/-- Every event that the worker applies keeps the invariant. -/
lemma applyEvent (event : DomainEvent) : Preserves S env I (GdbAi.applyEvent event) :=
  h.applyEventAt eventDepth event

/-- An append whose failure is fatal keeps the invariant. -/
lemma appends (payload : Payload) (hpayload : payload.isEvidence = true) :
    Preserves S env I (GdbAi.append payload) :=
  (h.append payload hpayload).attempt.bind fun appended => h.journalResult h.applyEvent appended

end Worker

/-! ### What only depends on the rest -/

section Keeps

variable (hsafe : ∀ w, I w → S w) (hkeeps : ∀ w w', Keeps w w' → I w → I w')
include hkeeps

/-- An append keeps what recording leaves alone. -/
lemma preserves_appendJournal_of_keeps (payload : Payload) :
    Preserves S env I (appendJournal payload) := by
  intro w hw
  have hnext : I (w.journaled (w.recordIn env payload).2) :=
    hkeeps w _ { keeps_refl w with trace := rfl } hw
  exact meets_appendJournal (fun _ _ => hnext) fun _ _ => hnext

/-- So does an event that is appended and reduced. -/
lemma preserves_journalEvent_of_keeps (event : DomainEvent) :
    Preserves S env I (journalEvent event) := by
  intro w hw
  refine meets_journalEvent (fun _ _ => ?_) (fun _ _ _ _ => ?_) fun _ _ _ _ _ => ?_
  · exact hkeeps w _ { keeps_refl w with trace := rfl } hw
  · exact hkeeps w _ { keeps_refl w with trace := rfl } hw
  · exact hkeeps w _ { keeps_refl w with trace := rfl } hw

include hsafe in
/-- What only depends on the data that recording leaves alone. -/
lemma of_keeps : EventInvariant env S I where
  safe := hsafe
  frame w w' hframe hw := hkeeps w w' (keeps_of_frame hframe) hw
  append payload _ := preserves_appendJournal_of_keeps hkeeps payload
  event event w hw := preserves_journalEvent_of_keeps hkeeps event _
    (hkeeps w _ { keeps_refl w with trace := rfl } hw)
  state := by
    refine .reading fun state => Preserves.bind ?_ fun _ =>
      preserves_appendJournal_of_keeps hkeeps _
    refine preserves_update fun w hw => ?_
    split
    · exact hkeeps w _ { keeps_refl w with trace := rfl } hw
    · exact hw
  storeFails w _ hw := hkeeps w _ { keeps_refl w with storeFailed := fun _ => rfl } hw
  publish w hw := hkeeps w _ { keeps_refl w with trace := rfl } hw
  flush w hw := by
    have hnext : I (w.journaled (w.journal.flush (env.journal w.question).flush).2) :=
      hkeeps w _ { keeps_refl w with trace := rfl } hw
    exact meets_flushJournal (fun _ => hnext) fun _ _ => hnext
  failed w hw := hkeeps w _ { keeps_refl w with trace := rfl } hw

end Keeps

/-! ### What only depends on the journal -/

section Journal

variable {J : Journal → Prop}
  (hrecord : ∀ j payload io, J j → J (j.record env.length payload io).2)
include hrecord

/-- An append keeps what the journal keeps. -/
lemma preserves_appendJournal_of_journal (payload : Payload) :
    Preserves S env (fun w => J w.journal) (appendJournal payload) := by
  intro w hw
  have hnext := hrecord w.journal payload (env.journal w.question) hw
  exact meets_appendJournal (fun _ _ => hnext) fun _ _ => hnext

/-- So does an event that is appended and reduced. -/
lemma preserves_journalEvent_of_journal (event : DomainEvent) :
    Preserves S env (fun w => J w.journal) (journalEvent event) := by
  intro w hw
  have hnext : J (w.recordIn env (.normalizedEvent event)).2 := hrecord w.journal _ _ hw
  exact meets_journalEvent (fun _ _ => hnext) (fun _ _ _ _ => hnext) fun _ _ _ _ _ => hnext

/-- What the journal keeps under every append and every flush. -/
lemma of_journal (hflush : ∀ j outcome, J j → J (Journal.flush j outcome).2) :
    EventInvariant env (fun w => J w.journal) fun w => J w.journal where
  safe _ hw := hw
  frame _ _ hframe hw := hframe.journal ▸ hw
  append payload _ := preserves_appendJournal_of_journal hrecord payload
  event event w hw := preserves_journalEvent_of_journal hrecord event (w.noteEvent event) hw
  state := by
    refine .reading fun state => Preserves.bind ?_ fun _ =>
      preserves_appendJournal_of_journal hrecord _
    refine preserves_update fun w hw => ?_
    split
    · exact hw
    · exact hw
  flush := by
    intro w hw
    have hnext := hflush w.journal (env.journal w.question).flush hw
    exact meets_flushJournal (fun _ => hnext) fun _ _ => hnext
  storeFails _ _ hw := hw
  publish _ hw := hw
  failed _ hw := hw

end Journal

/-! ### Invariants together -/

/-- Two invariants together, the second one whatever the pending states are. -/
lemma and {S' J : World → Prop} (h : EventInvariant env S I) (hJ : EventInvariant env S' J) :
    EventInvariant env S fun w => I w ∧ J w where
  toFramed := h.toFramed.and hJ.toFramed
  append payload hpayload := (h.append payload hpayload).and (hJ.append payload hpayload)
  event event w hw := ((h.event event w hw.1).and (hJ.event event w hw.2)).weaken fun _ h => h.1
  state := h.state.and hJ.state
  storeFails w hmode hw := ⟨h.storeFails w hmode hw.1, hJ.storeFails w hmode hw.2⟩
  publish w hw := ⟨h.publish w hw.1, hJ.publish w hw.2⟩
  flush := h.flush.and hJ.flush

end EventInvariant

/-! ### Functions that record -/

/-- What the functions that record keep. -/
structure Recorder (env : Environment) (S I : World → Prop) : Prop extends Framed S I where
  applies : ∀ event, Preserves S env I (applyEvent event)
  appends : ∀ payload : Payload, payload.isEvidence = true → Preserves S env I (append payload)
  journalResult : ∀ result : Except Error Unit, Preserves S env I (journalResult applyEvent result)
  storeResult : ∀ result : Except Error Unit, Preserves S env I (storeResult applyEvent result)
  storeSnapshotValue : ∀ snapshot : Snapshot,
    Preserves S env I (storeSnapshotValue applyEvent snapshot)
  checkpoint : ∀ closing : Bool, Preserves S env I (checkpoint applyEvent closing)
  flush : Preserves S env I flushJournal

/-- What each step of recording keeps, the functions that record keep. -/
lemma EventInvariant.recorder {env : Environment} {S I : World → Prop}
    (h : EventInvariant env S I) : Recorder env S I where
  toFramed := h.toFramed
  applies := h.applyEvent
  appends := h.appends
  journalResult := h.journalResult h.applyEvent
  storeResult := h.storeResult h.applyEvent
  storeSnapshotValue := h.storeSnapshotValue h.applyEvent
  checkpoint := h.checkpoint h.applyEvent
  flush := h.flush

namespace Recorder

variable {env : Environment} {S I : World → Prop} {α : Type}

/-- Two invariants together, the second one whatever the pending states are. -/
lemma and {S' J : World → Prop} (h : Recorder env S I) (hJ : Recorder env S' J) :
    Recorder env S fun w => I w ∧ J w where
  toFramed := h.toFramed.and hJ.toFramed
  applies event := (h.applies event).and (hJ.applies event)
  appends payload hpayload := (h.appends payload hpayload).and (hJ.appends payload hpayload)
  journalResult result := (h.journalResult result).and (hJ.journalResult result)
  storeResult result := (h.storeResult result).and (hJ.storeResult result)
  storeSnapshotValue snapshot :=
    (h.storeSnapshotValue snapshot).and (hJ.storeSnapshotValue snapshot)
  checkpoint closing := (h.checkpoint closing).and (hJ.checkpoint closing)
  flush := h.flush.and hJ.flush

variable (h : Recorder env S I)
include h

/-- A request of the client is recorded. -/
lemma recordApi (request : String) : Preserves S env I (GdbAi.recordApi request) :=
  (h.appends _ rfl).bind fun _ => preserves_pure _

/-! ### Inputs -/

/-- The event of a record is applied like any other. -/
lemma processEvent (event : Option DomainEvent) : Preserves S env I (GdbAi.processEvent event) := by
  cases event with
  | none => exact preserves_pure ()
  | some event =>
    refine (h.applies event).bind fun _ => h.updates fun w => ?_
    split
    · exact .of_core rfl
    · exact .of_core rfl

/-- Output of the inferior is recorded. -/
lemma processInferiorOutput : Preserves S env I GdbAi.processInferiorOutput := by
  refine (h.asks _).bind fun ⟨nextOffset, dropped⟩ => .reading fun ⟨known, _⟩ => ?_
  simp only
  split
  · exact preserves_pure ()
  · refine (h.appends _ rfl).bind fun _ => ?_
    exact Preserves.bind (h.updates fun w => .of_core rfl) fun _ => h.applies _

/-- A lost framing ends the worker. -/
lemma processProtocolError (error : Error) :
    Preserves S env I (GdbAi.processProtocolError error : Action α) := by
  refine h.fails.bind fun _ => (h.applies _).attempt.bind fun lost => ?_
  refine (h.applies _).attempt.bind fun exited => h.markFailed.bind fun _ => ?_
  exact .taking fun _ => .taking fun _ =>
    preserves_fail error

/-- So does the end of GDB's output. -/
lemma processEof : Preserves S env I (GdbAi.processEof : Action α) := by
  refine (h.requires _).bind fun status => h.fails.bind fun _ => ?_
  refine (h.applies _).attempt.bind fun exited => h.markFailed.bind fun _ => ?_
  exact .taking fun _ => preserves_fail _

/-- Every input from GDB keeps the invariant. -/
lemma processInput (input : BackendInput) : Preserves S env I (GdbAi.processInput input) := by
  cases input with
  | mi raw record =>
    exact (h.appends _ rfl).bind fun seq => (h.processEvent _).bind fun _ => preserves_pure _
  | gdbStderr bytes => exact (h.appends _ rfl).bind fun _ => preserves_pure _
  | inferiorPty => exact h.processInferiorOutput.bind fun _ => preserves_pure _
  | protocolError error => exact h.processProtocolError error
  | gdbEof => exact h.processEof

/-! ### Closing -/

/-- The evidence of the output is published once. -/
lemma finalizeOutputEvidence : Preserves S env I GdbAi.finalizeOutputEvidence := by
  refine .reading fun finalized => ?_
  split
  · exact preserves_pure ()
  · refine (h.requires _).bind fun evidence => Preserves.bind ?_ fun _ => ?_
    · exact h.updates fun w =>
        { eventFrame_refl w with outputEvidenceFinalized := fun _ => rfl }
    · exact (h.appends _ rfl).bind fun _ => preserves_pure _

/-- A session is closed. -/
lemma close (hfinish : Preserves S env I finishJournal)
    (hclose : ∀ w lines, I w → I (World.close w lines)) : Preserves S env I GdbAi.close := by
  refine (h.applies _).attempt.bind fun closing => (h.asks _).bind fun shutdown => ?_
  refine .taking fun _ => .taking fun _ => ?_
  refine h.finalizeOutputEvidence.bind fun _ => (h.applies _).bind fun _ => ?_
  refine (h.checkpoint true).bind fun _ => ?_
  refine (h.checkpoint false).bind fun _ => hfinish.attempt.bind fun finished => ?_
  refine .reading fun lines => (h.journalResult finished).bind fun _ => ?_
  refine (h.checkpoint false).bind fun _ => ?_
  exact preserves_update fun w hw => hclose w lines hw

end Recorder

end GdbAi
