import GdbAi.Session.Traversal

/-!
# A cancellation interrupts its own resume

The worker remembers the operation whose resume command runs the target, and a cancellation is
carried out only if it names that operation.  The operation is set when the command is started and
forgotten when the target stops, exits or is gone, or when the command fails for certain.  So a
cancellation that passes the check belongs to the last resume command, and no event that was reduced
since that command was started has ended the run.
-/

namespace GdbAi

open Procedure

/-- The event, reduced in the state, ends the target's run: the target stops, an inferior of the
session exits, or the target or GDB is gone. -/
inductive SessionState.EndsRun (s : SessionState) : DomainEvent → Prop
  | targetStopped (backendInferior backendThread : Option String) (reason : String)
      (reasonDetail : Option StopReason) (frame : Option FrameSummary) :
      s.EndsRun (.targetStopped backendInferior backendThread reason reasonDetail frame)
  | inferiorExited (backendId exitCode : Option String) (fromStopRecord : Bool)
      (hattributed : (s.attributedInferior backendId).isSome = true) :
      s.EndsRun (.inferiorExited backendId exitCode fromStopRecord)
  | targetDisconnected : s.EndsRun .targetDisconnected
  | targetDetached : s.EndsRun .targetDetached
  | backendExited (status : Option ℤ) : s.EndsRun (.backendExited status)

/-- Before an event that ends the run is recorded, the worker forgets the operation. -/
lemma World.endsResume_of_endsRun {w : World} {event : DomainEvent} (h : w.live.EndsRun event) :
    w.endsResume event = true := by
  cases h with
  | inferiorExited _ _ _ hattributed =>
    simpa [World.endsResume, SessionState.attributedExit] using .inl hattributed
  | targetStopped | targetDisconnected | targetDetached | backendExited => exact Bool.or_true _

namespace ResumeMark

/-- The last resume command was one of the operation, and no event reduced since has ended the
run. -/
def RunBy (operationId : String) (marks : List ResumeMark) : Prop :=
  ∃ before after, marks = before ++ .started (some operationId) :: after ∧
    (∀ other, .started other ∉ after) ∧
    ∀ state event, .applied state event ∈ after → ¬ state.EndsRun event

/-- Another event leaves the run to its owner unless it ends the run. -/
lemma RunBy.applied {operationId : String} {marks : List ResumeMark} (h : RunBy operationId marks)
    {state : SessionState} {event : DomainEvent} (hevent : ¬ state.EndsRun event) :
    RunBy operationId (marks ++ [.applied state event]) := by
  obtain ⟨before, after, rfl, hstarted, happlied⟩ := h
  refine ⟨before, after ++ [.applied state event], by simp, ?_, ?_⟩
  · simpa using hstarted
  · intro state' event' hmem
    rcases List.mem_append.mp hmem with hold | hnew
    · exact happlied state' event' hold
    · obtain ⟨rfl, rfl⟩ := ResumeMark.applied.inj (List.mem_singleton.mp hnew)
      exact hevent

end ResumeMark

namespace Resume

/-- The operation that the worker remembers has started the run that goes on, and so had every
operation that was cancelled, at that time. -/
structure Owned (w : World) : Prop where
  active : ∀ operationId, w.activeResumeOperation = some operationId →
    ResumeMark.RunBy operationId w.marks
  cancelled : ∀ cancellation ∈ w.cancellations,
    ResumeMark.RunBy cancellation.operationId cancellation.marks

variable {w w' : World}

/-- Nothing but the owner, the marks and the cancellations matters. -/
lemma Owned.of_ownership (h : Owned w) (hsame : w'.ownership = w.ownership) : Owned w' := by
  have hactive : w'.activeResumeOperation = w.activeResumeOperation :=
    congrArg RunOwner.active hsame
  have hmarks : w'.marks = w.marks := congrArg RunOwner.marks hsame
  have hcancellations : w'.cancellations = w.cancellations :=
    congrArg RunOwner.cancellations hsame
  constructor
  · rw [hactive, hmarks]
    exact h.active
  · rw [hcancellations]
    exact h.cancelled

/-- An event that is noted may take the run from its owner. -/
lemma Owned.noteEvent (h : Owned w) (event : DomainEvent) : Owned (w.noteEvent event) := by
  refine ⟨fun operationId hactive => ?_, h.cancelled⟩
  simp only [World.noteEvent] at hactive ⊢
  split at hactive
  · cases hactive
  · exact h.active operationId hactive

/-- A noted event that is reduced leaves no owner if it ends the run. -/
lemma Owned.reduce (h : Owned w) (event : DomainEvent) (state : SessionState) (journal : Journal) :
    Owned (((w.noteEvent event).journaled journal).reduce event state) := by
  refine ⟨fun operationId hactive => ?_, h.cancelled⟩
  change (if w.endsResume event then none else w.activeResumeOperation) = _ at hactive
  split at hactive
  · cases hactive
  · rename_i hends
    exact (h.active operationId hactive).applied fun hrun =>
      hends (World.endsResume_of_endsRun hrun)

/-- The operation of a resume command owns the run that starts. -/
lemma Owned.startResume (h : Owned w) (operationId : Option String) :
    Owned (w.startResume operationId) := by
  refine ⟨fun other hother => ⟨w.marks, [], ?_, by simp, by simp⟩, h.cancelled⟩
  obtain rfl : operationId = some other := hother
  rfl

/-- A failed resume command leaves no owner. -/
lemma Owned.releaseResume (h : Owned w) : Owned { w with activeResumeOperation := none } :=
  ⟨fun _ hnone => absurd hnone (by simp), h.cancelled⟩

/-- Only the owner's cancellation is carried out. -/
lemma Owned.claim (h : Owned w) {operationId : String}
    (hactive : w.activeResumeOperation = some operationId) : Owned (w.claim operationId) := by
  refine ⟨h.active, fun cancellation hmem => ?_⟩
  rcases List.mem_append.mp hmem with hold | hnew
  · exact h.cancelled cancellation hold
  · obtain rfl := List.mem_singleton.mp hnew
    exact h.active operationId hactive

/-- Every function that records leaves the run to its owner. -/
lemma events (env : Environment) : EventInvariant env Owned Owned where
  safe _ hw := hw
  frame _ _ hframe hw := hw.of_ownership hframe.ownership
  append _ _ _ hw := meets_appendJournal (fun _ _ => hw.of_ownership rfl) fun _ _ =>
    hw.of_ownership rfl
  event event w hw := by
    have hnoted := hw.noteEvent event
    refine meets_journalEvent (fun _ _ => hnoted.of_ownership rfl)
      (fun _ _ _ _ => hnoted.of_ownership rfl) fun _ state _ _ _ => hw.reduce event state _
  state := by
    refine .reading fun state => Preserves.bind (preserves_update fun w hw => ?_)
      fun _ _ hw => meets_appendJournal (fun _ _ => hw.of_ownership rfl) fun _ _ =>
        hw.of_ownership rfl
    split
    · exact hw.of_ownership rfl
    · exact hw
  storeFails _ _ hw := hw.of_ownership rfl
  publish _ hw := hw.of_ownership rfl
  flush _ hw := meets_flushJournal (fun _ => hw.of_ownership rfl) fun _ _ => hw.of_ownership rfl
  failed _ hw := hw.of_ownership rfl

/-- So does every step of the worker. -/
lemma discipline (env : Environment) :
    Discipline env (fun _ => True) (fun _ => Owned) Owned Owned := by
  refine (events env).discipline ?_ (fun operationId hw => hw.startResume operationId)
    Owned.releaseResume (fun hw hactive => hw.claim hactive) ?_
  · intro w w' hw _ _ _ _ hownership
    exact hw.of_ownership hownership
  · exact fun _ hw => meets_finishJournal (fun _ => hw.of_ownership rfl) fun _ _ =>
      hw.of_ownership rfl

/-- Before the worker exists no operation owns a run and none is cancelled. -/
def Unowned (w : World) : Prop := w.activeResumeOperation = none ∧ w.cancellations = []

lemma Unowned.owned (h : Unowned w) : Owned w :=
  ⟨fun _ hactive => absurd (h.1.symm.trans hactive) (by simp), fun _ hmem =>
    absurd (h.2 ▸ hmem) List.not_mem_nil⟩

/-- No resume command is started before GDB has reached its prompt. -/
lemma startup (env : Environment) : Startup env (fun _ => Owned) Owned Unowned where
  safe hw := hw.owned
  frame hw hframe := ⟨(congrArg RunOwner.active hframe.ownership).trans hw.1,
    (congrArg RunOwner.cancellations hframe.ownership).trans hw.2⟩
  append _ _ _ hw := meets_appendJournal (fun _ _ => hw) fun _ _ => hw
  event _ _ hw := meets_journalEvent (fun _ _ => hw) (fun _ _ _ _ => hw) fun _ _ _ _ _ => hw
  starts hw := (events env).applyEvent _ _ hw.owned

end Resume

/-- In every session, whenever a cancellation passes the check of the owner, its operation is the
one of the last resume command executed for an operation or without one, and no event that was
reduced since that command was started is a stop, an exit of an inferior of the session, a
disconnection, a detachment or an exit of GDB. -/
theorem cancellations_own_resume (env : Environment) (config : Configuration)
    (arrivals : List Arrival) :
    ∀ cancellation ∈ (World.after env config arrivals).cancellations,
      ∃ before after,
        cancellation.marks = before ++ .started (some cancellation.operationId) :: after ∧
          (∀ other, .started other ∉ after) ∧
          ∀ state event, .applied state event ∈ after → ¬ state.EndsRun event :=
  fun cancellation hmem => ((Resume.discipline env).session (Resume.startup env) config
    ⟨rfl, rfl⟩).cancelled cancellation hmem

/-- An operation resumes the target, which stops at once.  Another one resumes it, and both are
cancelled with the second command in flight. -/
def cancelledResume : List Arrival := startup ++
  [.request (some (.command ⟨"-exec-continue", []⟩ (some ⟨"op_1"⟩) 1000000)), .done 20,
    .mi (.execAsync none "stopped" []),
    .request (some (.command ⟨"-exec-continue", []⟩ (some ⟨"op_2"⟩) 1000000)),
    .control (some (.cancelOperation "op_1" .interruptTarget)),
    .control (some (.cancelOperation "op_2" .interruptTarget))]

/-- The second cancellation alone is carried out. -/
theorem cancelledResume_owned :
    (World.after .smooth (.plain .performance) cancelledResume).cancellations.map
        Cancellation.operationId = ["op_2"] ∧
      ∃ cancellation ∈ (World.after .smooth (.plain .performance) cancelledResume).cancellations,
        ∃ before after,
          cancellation.marks = before ++ .started (some cancellation.operationId) :: after ∧
            (∀ other, .started other ∉ after) ∧
            ∀ state event, .applied state event ∈ after → ¬ state.EndsRun event := by
  have hcancelled : (World.after .smooth (.plain .performance) cancelledResume).cancellations.map
      Cancellation.operationId = ["op_2"] := by decide +kernel
  refine ⟨hcancelled, ?_⟩
  obtain ⟨cancellation, hmem, -⟩ := List.mem_map.mp (hcancelled ▸ List.mem_singleton_self "op_2")
  exact ⟨cancellation, hmem, cancellations_own_resume .smooth (.plain .performance)
    cancelledResume cancellation hmem⟩

end GdbAi
