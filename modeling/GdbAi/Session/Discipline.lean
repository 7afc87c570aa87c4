import GdbAi.Session.Actor
import GdbAi.Session.Events

/-!
# What every command keeps

A property of the worker's whole runs rests on a few steps: a line is written, an answer is taken,
a command is given up, an execution is left before its command is answered, the session is closed.
A `Discipline` says what holds with given commands in flight (`N`), what holds once the worker has
nothing left to do (`O`) and what is asked of every state (`S`), and what each of these steps does
to them.  What arrives is restricted by `admits`.  This module carries a discipline through the
execution of a command.

An execution that is left early leaves its command unanswered.  Behind some sites nothing more
happens: the error goes straight back to the loop of the worker, which stops.  Those are the quiet
exits.
-/

namespace GdbAi

open Procedure

/-! ### Quiet exits -/

/-- The worker that has failed at the site neither writes nor records before it stops. -/
def Site.quiet : Site → ErrorCode → (staleDue unknown : Bool) → Bool
  | .handshake, _, _, _ | .staleValue, _, _, _ | .interrupt, _, _, _ => true
  | .command, _, staleDue, _ | .evaluateShow, _, staleDue, _ | .refresh, _, staleDue, _
  | .refreshDeferred, _, staleDue, _ => !staleDue
  | .transaction after, _, staleDue, _ => after.isEmpty && !staleDue
  | .evaluateGuard guarded, code, staleDue, unknown =>
    guarded.isEmpty && !staleDue && !unknown && code != .gdbError
  | .evaluate guarded, code, staleDue, unknown =>
    guarded.isEmpty && !staleDue && !unknown && !code.isIndependentReadFailure
  | .rollback site, code, staleDue, unknown =>
    code != .gdbError && site.quiet .gdbError staleDue unknown
  | .extension, _, _, _ | .rebind, _, _, _ | .park, _, _, _ | .deferred, _, _, _
  | .transactionAfter, _, _, _ | .evaluateRestore, _, _, _ | .cancel, _, _, _ => false

/-- The execution was left quietly. -/
def Exit.quiet (exit : Exit) : Bool := exit.site.quiet exit.code exit.staleDue exit.unknown

/-- An execution left now would be left quietly. -/
def World.quiet (w : World) (site : Site) (error : Error) : Bool :=
  site.quiet error.code w.staleDue (!w.timedOutTokens.isEmpty)

/-- A frame in which the worker's own state of health is unchanged too. -/
structure Still (w w' : World) : Prop extends Frame w w' where
  sameFatal : w'.fatal = w.fatal
  stateDirty : w'.stateDirty = w.stateDirty
  dirtyOperations : w'.dirtyOperations = w.dirtyOperations
  outputEvidenceFinalized : w'.outputEvidenceFinalized = w.outputEvidenceFinalized

/-- The execution at the site has been left quietly. -/
def Over (O : World → Prop) (site : Site) (error : Error) (w : World) : Prop :=
  O w ∧ (w.fatal = true ∨ site = .handshake) ∧ w.quiet site error = true

/-! ### Commands in flight -/

/-- An execution has failed: no command is in flight, or it was left quietly. -/
def Left (N : List ℕ → World → Prop) (O : World → Prop) (site : Site) (error : Error)
    (w : World) : Prop := N [] w ∨ Over O site error w

/-- The command may be written beside another one. -/
def Beside (admits : Arrival → Prop) (command : MiCommand) : Prop :=
  command = ⟨"-exec-interrupt", []⟩ ∨
    ∃ deadline, admits (.control (some (.interrupt command deadline)))

/-! ### Disciplines -/

/-- What the steps of the worker do to the states with given commands in flight, to those in which
it is over, and to the states that are asked for. -/
structure Discipline (env : Environment) (admits : Arrival → Prop)
    (N : List ℕ → World → Prop) (O S : World → Prop) : Prop where
  events : ∀ waiting, Recorder env S (N waiting)
  overSafe : ∀ {w}, O w → S w
  frame : ∀ {waiting w w'}, N waiting w → Frame w w' → N waiting w'
  still : ∀ {w w'}, O w → Still w w' → O w'
  admitted : ∀ {waiting w arrival}, N waiting w → arrival ∈ w.arrivals → admits arrival
  permutes : ∀ {waiting waiting' w}, N waiting w → waiting.Perm waiting' → N waiting' w
  /-- A line is written with the next token; recording it has led from `w₀` to `w`. -/
  begins : ∀ {waiting w₀ w command}, N waiting w₀ → N waiting w →
    Keeps { w₀ with nextToken := w₀.nextToken + 1 } w →
    (Beside admits command ∨ waiting = []) →
    (w.timedOutTokens = [] ∨ command.name = "-exec-interrupt") →
    N (w₀.nextToken :: waiting) (w.written w₀.nextToken command.name)
  answers : ∀ {waiting waiting' token w}, N waiting w → waiting.Perm (token :: waiting') →
    N waiting' (w.answer token)
  timesOut : ∀ {waiting waiting' token w}, N waiting w → waiting.Perm (token :: waiting') →
    N waiting' (w.timeOut token)
  /-- A token that has timed out is answered. -/
  delays : ∀ {waiting token w}, N waiting w → N waiting (w.takeDelayed token)
  leaves : ∀ {waiting w} (site : Site) (error : Error), N waiting w →
    Left N O site error (w.leave site (if w.fatal then .fatal else .lost) error)
  drops : ∀ {waiting waiting' token w} (site : Site) (error : Error), N waiting w →
    waiting.Perm (token :: waiting') → N waiting' (w.leave site .dropped error)
  closes : ∀ {waiting w}, N waiting w → Meets S env close (fun _ => O) (fun _ => N waiting) w
  leavesClosed : ∀ {w} (site : Site) (error : Error), O w →
    Left N O site error ({ w with fatal := true }.leave site .closed error)
  /-- A resume command is started. -/
  starts : ∀ {w} (operationId : Option String), N [] w → N [] (w.startResume operationId)
  /-- A resume command has failed definitively. -/
  releases : ∀ {w}, N [] w → N [] { w with activeResumeOperation := none }
  releasesOver : ∀ {w}, O w → O { w with activeResumeOperation := none }
  /-- A cancellation passes the check of the owner. -/
  claims : ∀ {waiting w operationId}, N waiting w → w.activeResumeOperation = some operationId →
    N waiting (w.claim operationId)
  /-- The session ends. -/
  tail : ∀ {w}, N [] w ∨ O w → Meets S env shutdownTail (fun _ => S) (fun _ => S) w

variable {env : Environment} {admits : Arrival → Prop} {N : List ℕ → World → Prop}
  {O S : World → Prop} {site : Site} {waiting : List ℕ} {α : Type} {w : World}

/-- A frame of worlds that agree in what the frames speak about. -/
lemma Frame.of_core {w w' : World} (h : w'.core = w.core) : Frame w w' :=
  (EventFrame.of_core h).toFrame

/-- Nothing has changed. -/
lemma frame_refl (w : World) : Frame w w := .of_core rfl

/-- A question is asked. -/
lemma frame_question (w : World) : Frame w { w with question := w.question + 1 } := .of_core rfl

/-- The worker fails. -/
lemma frame_fatal (w : World) : Frame w { w with fatal := true } := (eventFrame_fatal w).toFrame

/-- Behind a site that is never quiet no command is in flight. -/
lemma Left.normal {error : Error} (h : Left N O site error w)
    (hsite : ∀ code staleDue unknown, site.quiet code staleDue unknown = false) : N [] w := by
  rcases h with hN | ⟨-, -, hquiet⟩
  · exact hN
  · exact absurd hquiet (by simp [World.quiet, hsite])

namespace Discipline

variable (d : Discipline env admits N O S) {error : Error}
include d

/-- An update within a frame keeps what holds. -/
lemma updates {f : World → World} (hf : ∀ w, Frame w (f w)) :
    Preserves S env (N waiting) (update f : Action Unit) :=
  preserves_update fun w hw => d.frame hw (hf w)

/-- So does a question to the environment. -/
lemma asks (answer : Environment → ℕ → α) : Preserves S env (N waiting) (ask answer) :=
  preserves_ask fun w hw => d.frame hw (frame_question w)

/-- So does a question whose error is raised. -/
lemma requires (answer : Environment → ℕ → Except Error α) :
    Preserves S env (N waiting) (require answer) :=
  (d.asks answer).bind fun result => preserves_ofExcept result

/-- An execution that was left is in a state that is asked for. -/
lemma left_safe (h : Left N O site error w) : S w := by
  rcases h with hN | ⟨hO, -⟩
  · exact (d.events []).safe w hN
  · exact d.overSafe hO

/-! ### Writing a command -/

omit d in
/-- A command is refused while an outcome is unknown, an interrupt apart. -/
lemma meets_requireKnownOutcome (P : World → Prop) (name : String) :
    Meets P env (GdbAi.requireKnownOutcome name)
      (fun _ w' => w' = w ∧ (w.timedOutTokens = [] ∨ name = "-exec-interrupt"))
      (fun _ w' => w' = w) w := by
  refine meets_reads_bind ?_
  split
  · exact meets_fail rfl
  · rename_i hfence
    refine meets_pure ⟨rfl, ?_⟩
    by_cases htokens : w.timedOutTokens = []
    · exact .inl htokens
    · exact .inr (by_contra fun hname => hfence ⟨htokens, hname⟩)

omit d in
/-- A check for unknown outcomes changes nothing. -/
lemma requireKnownOutcome (P I : World → Prop) (name : String) :
    Preserves P env I (GdbAi.requireKnownOutcome name) := by
  intro w hw
  refine (meets_requireKnownOutcome P name).mono ?_ ?_
  · rintro _ w' ⟨rfl, -⟩
    exact hw
  · rintro _ w' rfl
    exact hw

/-- A command is written when nothing is in flight, or beside a command that admits it. -/
lemma beginCommand {command : MiCommand} (hw : N waiting w)
    (hbeside : Beside admits command ∨ waiting = []) :
    Meets S env (GdbAi.beginCommand command) (fun token => N (token :: waiting))
      (fun _ => N waiting) w := by
  refine (meets_requireKnownOutcome S command.name).bind ?_ ?_
  swap
  · rintro _ w' rfl
    exact hw
  rintro _ w' ⟨heq, hknown⟩
  rw [heq]
  refine meets_reads_bind ?_
  split
  · exact meets_fail hw
  -- recording the line keeps what the tokens are compared with
  have hkeeps : EventInvariant env (fun _ => True)
      (Keeps { w with nextToken := w.nextToken + 1 }) :=
    .of_keeps (fun _ _ => trivial) fun _ _ h h₁ => h₁.trans h
  have hI := (d.events waiting).and hkeeps.recorder
  refine meets_update_bind ?_
  have hw₀ : N waiting { w with nextToken := w.nextToken + 1 } :=
    d.frame hw { frame_refl w with nextToken := Nat.le_succ _ }
  refine (hI.appends (.miInput w.nextToken (command.encoded w.nextToken)) rfl _
    ⟨hw₀, keeps_refl _⟩).bind ?_ fun _ _ he => he.1
  intro _ w₁ hw₁
  refine (hI.requires _ w₁ hw₁).bind ?_ fun _ _ he => he.1
  rintro _ w₂ ⟨hN, hkept⟩
  refine meets_update_bind (meets_pure (d.begins hw hN hkept hbeside ?_))
  exact hknown.imp_left hkept.timedOutTokens.trans

/-! ### Leaving an execution -/

variable {V : α → World → Prop}

/-- An execution is lost. -/
lemma lose (hw : N waiting w) :
    Meets S env (GdbAi.lose site error : Action α) V (Left N O site) w :=
  meets_update_bind (meets_fail (d.leaves site error hw))

/-- An error leaves the execution. -/
lemma leaving {m : Action α} (hm : Meets S env m V (fun _ => N waiting) w) :
    Meets S env (GdbAi.leaving site m) V (Left N O site) w :=
  hm.attempt_bind (fun _ _ hw' => meets_pure hw') fun _ _ hw' => d.lose hw'

/-- A successful close is left for good. -/
lemma leaveClosed_true (hw : O w) :
    Meets S env (GdbAi.leaveClosed site true error : Action α) V (Left N O site) w :=
  meets_update_bind (meets_update_bind (meets_fail (d.leavesClosed site error hw)))

/-- A failed close is left as a failure. -/
lemma leaveClosed_false (hw : N waiting w) :
    Meets S env (GdbAi.leaveClosed site false error : Action α) V (Left N O site) w := by
  have hfatal : N waiting { w with fatal := true } := d.frame hw (frame_fatal w)
  exact meets_update_bind (meets_update_bind (meets_fail (d.leaves site error hfatal)))

end Discipline

/-! ### The loop of an execution -/

/-- What a turn of the loop waits for. -/
def Flight.tokens (flight : Flight) (token : ℕ) : List ℕ :=
  (if flight.normalResult.isNone then [token] else []) ++
    (flight.pendingControl.map PendingControl.token).toList

/-- What a turn of the loop establishes. -/
def GoesOn (N : List ℕ → World → Prop) (token : ℕ) : Flight ⊕ CommandReply → World → Prop
  | .inl flight => N (flight.tokens token)
  | .inr _ => N []

namespace Flight

variable {flight : Flight} {token : ℕ}

/-- The control alone leaves the flight. -/
lemma tokens_release {control : PendingControl} (hcontrol : flight.pendingControl = some control) :
    (flight.tokens token).Perm
      (control.token :: ({ flight with pendingControl := none }.tokens token)) := by
  simp only [tokens, hcontrol, Option.map_some, Option.toList_some, Option.map_none,
    Option.toList_none, List.append_nil]
  exact List.perm_append_singleton _ _

/-- The command alone leaves the flight. -/
lemma tokens_answer (hnone : flight.normalResult = none) (result : Except Error CommandReply) :
    (flight.tokens token).Perm (token ::
      ({ flight with normalResult := some result }.tokens token)) := by
  simp only [tokens, hnone, Option.isNone_none, if_true, Option.isNone_some,
    Bool.false_eq_true, if_false, List.nil_append, List.singleton_append]
  exact List.Perm.refl _

/-- A control joins the flight. -/
lemma tokens_control (hnone : flight.pendingControl = none) (control : PendingControl) :
    (control.token :: (flight.tokens token)).Perm
      ({ flight with pendingControl := some control }.tokens token) := by
  simp only [tokens, hnone, Option.map_some, Option.toList_some, Option.map_none,
    Option.toList_none, List.append_nil]
  exact (List.perm_append_singleton _ _).symm

/-- Collecting a stream record keeps the flight. -/
lemma tokens_collect (limit : ℕ) (record : MiRecord) :
    (flight.collect limit record).tokens token = flight.tokens token := by
  unfold collect
  split
  · rename_i hnone _
    split
    · rfl
    · rfl
  · rfl

end Flight

/-! ### One turn of the loop -/

namespace Discipline

variable (d : Discipline env admits N O S) {flight : Flight} {token until_ : ℕ} {error : Error}
  {operation : Option ActiveOperation} {result : Except Error CommandReply}
include d

/-- A worker that has failed leaves the execution. -/
lemma goOnUnlessFatal (hw : N (flight.tokens token) w) :
    Meets S env (GdbAi.goOnUnlessFatal site flight error) (GoesOn N token) (Left N O site)
      w := by
  refine meets_reads_bind ?_
  split
  · exact d.lose hw
  · exact meets_pure hw

variable {E : Error → World → Prop}

/-- A deadline is always found. -/
lemma commandDeadline (hw : N waiting w) :
    Meets S env GdbAi.commandDeadline (fun _ => N waiting) E w :=
  meets_reads_bind (meets_ask_bind (meets_pure (d.frame hw (frame_question w))))

variable {command : MiCommand}

/-- A control is written beside the command in flight. -/
lemma beginControl {until_ : Action ℕ} (cancels : Bool) (hbeside : Beside admits command)
    (hnone : flight.pendingControl = none)
    (huntil : ∀ {waiting w}, N waiting w → Meets S env until_ (fun _ => N waiting) (Left N O site) w)
    (hw : N (flight.tokens token) w) :
    Meets S env (GdbAi.beginControl flight command until_ cancels) (GoesOn N token)
      (Left N O site) w := by
  refine (d.beginCommand hw (.inl hbeside)).attempt_bind ?_ ?_
  · intro control w₁ hw₁
    refine meets_ask_bind ?_
    refine (huntil (d.frame hw₁ (frame_question w₁))).seq ?_
    intro deadline w₂ hw₂
    exact meets_pure (d.permutes hw₂ (Flight.tokens_control hnone ⟨control, deadline, _, _, _⟩))
  · intro error w₁ hw₁
    exact meets_update_bind (meets_pure (d.frame hw₁ (.of_core rfl)))

/-- A response is sent and the loop goes on. -/
lemma respondAndGoOn (response : Response) (hw : N (flight.tokens token) w) :
    Meets S env (do
      respond response
      pure (.inl flight) : Turn) (GoesOn N token) (Left N O site) w :=
  meets_update_bind (meets_pure (d.frame hw (.of_core rfl)))

/-- Only the owner of the target's run passes. -/
lemma requireActiveResume (operationId : String) :
    Preserves S env (N waiting) (GdbAi.requireActiveResume operationId) := by
  intro w hw
  refine meets_reads_bind ?_
  split
  · rename_i hactive
    exact meets_update (d.claims hw hactive)
  · exact meets_fail hw

/-- The worker's own interrupt may be written beside a command. -/
lemma ownedInterruptCommand (operationId : String) (hw : N waiting w) :
    Meets S env (GdbAi.ownedInterruptCommand operationId)
      (fun command w' => Beside admits command ∧ N waiting w') (fun _ => N waiting) w := by
  refine (d.requireActiveResume operationId w hw).seq ?_
  exact fun _ w' hw' => meets_pure ⟨.inl rfl, hw'⟩

/-- A cancellation with a command in flight. -/
lemma cancelInFlight (operationId : String) (hw : N (flight.tokens token) w) :
    Meets S env (GdbAi.cancelInFlight flight operationId) (GoesOn N token) (Left N O site)
      w := by
  unfold GdbAi.cancelInFlight
  split
  · exact d.respondAndGoOn _ hw
  · rename_i hpending
    refine (d.ownedInterruptCommand operationId hw).attempt_bind ?_ ?_
    · rintro command w' ⟨hbeside, hw'⟩
      exact d.beginControl true hbeside (by simpa using hpending) (fun h => d.commandDeadline h) hw'
    · exact fun error w' hw' => d.respondAndGoOn _ hw'

/-- An interrupt with a command in flight. -/
lemma interruptInFlight (hbeside : Beside admits command) (hw : N (flight.tokens token) w) :
    Meets S env (GdbAi.interruptInFlight flight command until_) (GoesOn N token)
      (Left N O site) w := by
  unfold GdbAi.interruptInFlight
  split
  · exact d.respondAndGoOn _ hw
  · rename_i hpending
    refine meets_ask_bind ?_
    have hw' := d.frame hw (frame_question w)
    split
    · exact d.respondAndGoOn _ hw'
    · exact d.beginControl false hbeside (by simpa using hpending) (fun h => meets_pure h) hw'

/-- An operation is stored or becomes dirty. -/
lemma storeOperation (operation : OperationRecord) :
    Preserves S env (N waiting) (GdbAi.storeOperation operation) := by
  refine .reading fun durable => ?_
  split
  · exact (d.asks _).bind fun result => (d.events waiting).storeResult result
  · exact d.updates fun w => { frame_refl w with trace := rfl }

/-- An operation is recorded. -/
lemma recordOperation (operation : OperationRecord) :
    Preserves S env (N waiting) (GdbAi.recordOperation operation) := by
  refine (d.storeOperation operation).bind fun _ => d.updates fun w => ?_
  unfold World.keepOperation
  simp only
  split
  · exact .of_core rfl
  · exact { frame_refl w with trace := rfl }

/-- What is recorded between two turns leaves the flight as it is. -/
lemma recordAndGoOn {m : Action Unit} (hm : Preserves S env (N (flight.tokens token)) m)
    (hw : N (flight.tokens token) w) : Meets S env (do
      respond (.done (← attempt m))
      GdbAi.goOnUnlessFatal site flight error) (GoesOn N token) (Left N O site) w := by
  refine (hm w hw).attempt_either fun _ w' hw' => ?_
  exact meets_update_bind (d.goOnUnlessFatal (d.frame hw' (.of_core rfl)))

omit d in
/-- The worker's health is part of the core. -/
lemma Still.of_core {w w' : World} (h : w'.core = w.core) (hdirty : w'.stateDirty = w.stateDirty) :
    Still w w' where
  toFrame := .of_core h
  sameFatal := congrArg Core.fatal h
  stateDirty := hdirty
  dirtyOperations := congrArg Core.dirtyOperations h
  outputEvidenceFinalized := congrArg Core.outputEvidenceFinalized h

/-- A response changes nothing once the worker is over. -/
lemma still_respond (hw : O w) (response : Response) :
    O { w with responses := w.responses ++ [response] } :=
  d.still hw (Still.of_core rfl rfl)

/-- A control with a command in flight. -/
lemma flightControl (request : Option ControlRequest) (hadmits : admits (.control request))
    (hw : N (flight.tokens token) w) :
    Meets S env (GdbAi.flightControl site flight request) (GoesOn N token) (Left N O site)
      w := by
  match request with
  | none => exact meets_update_bind (meets_pure (d.frame hw (.of_core rfl)))
  | some (.recordApi request) => exact d.recordAndGoOn ((d.events _).recordApi request) hw
  | some (.recordOperation operation) => exact d.recordAndGoOn (d.recordOperation operation) hw
  | some .close =>
    refine (d.closes hw).attempt_bind ?_ ?_
    · intro _ w' hw'
      exact meets_update_bind (d.leaveClosed_true (d.still_respond hw' _))
    · intro error w' hw'
      exact meets_update_bind (d.leaveClosed_false (d.frame hw' (.of_core rfl)))
  | some (.cancelOperation operationId .closeSession) =>
    have hclose : Meets S env (do
        GdbAi.requireActiveResume operationId
        close) (fun _ => O) (fun _ => N (flight.tokens token)) w :=
      (d.requireActiveResume operationId w hw).seq fun _ w' hw' => d.closes hw'
    refine hclose.attempt_bind ?_ ?_
    · intro _ w' hw'
      exact meets_update_bind (d.leaveClosed_true (d.still_respond hw' _))
    · exact fun error w' hw' => d.respondAndGoOn _ hw'
  | some (.cancelOperation operationId .interruptTarget) => exact d.cancelInFlight operationId hw
  | some (.interrupt command until_) =>
    exact d.interruptInFlight (.inr ⟨until_, hadmits⟩) hw

/-! ### Deadlines and answers -/

/-- An acknowledged interrupt that does not stop the target is repeated. -/
lemma escalateAcknowledgedInterrupt :
    Preserves S env (N waiting) GdbAi.escalateAcknowledgedInterrupt := by
  refine .reading fun fallback => ?_
  cases fallback with
  | none => exact preserves_pure ()
  | some until_ =>
    refine (d.asks _).bind fun now => ?_
    split
    · exact preserves_pure ()
    · refine Preserves.bind (d.updates fun _ => .of_core rfl) fun _ => ?_
      refine .reading fun running => ?_
      split
      · exact d.requires _
      · exact preserves_pure _

/-- The caller of a control gets its response. -/
lemma respondControl (control : PendingControl)
    (hw : N waiting w) : Meets S env (control.respond result) (fun _ => N waiting) E w := by
  unfold PendingControl.respond
  split
  · exact meets_update (d.frame hw (.of_core rfl))
  · exact meets_update (d.frame hw (.of_core rfl))

/-- A pending interrupt is escalated or dropped. -/
lemma escalatePending (now : ℕ) (hw : N (flight.tokens token) w) :
    Meets S env (GdbAi.escalatePending site flight now)
      (fun flight => N (flight.tokens token)) (Left N O site) w := by
  unfold GdbAi.escalatePending
  split
  · exact meets_pure hw
  · rename_i control hcontrol
    split
    · refine meets_ask_bind ?_
      have hw' := d.frame hw (frame_question w)
      split
      · rename_i error _
        refine meets_update_bind ((d.respondControl control ?_).seq
          (fun _ _ hw'' => meets_pure hw''))
        exact d.drops site error hw' (Flight.tokens_release hcontrol)
      · refine meets_pure ?_
        have hsame : { flight with pendingControl := some { control with escalated := true } }.tokens
            token = flight.tokens token := by
          simp [Flight.tokens, hcontrol]
        rwa [hsame]
    · exact meets_pure hw

/-- A pending control times out. -/
lemma expirePending (now : ℕ) (hw : N (flight.tokens token) w) :
    Meets S env (GdbAi.expirePending site flight now)
      (fun flight => N (flight.tokens token)) (Left N O site) w := by
  unfold GdbAi.expirePending
  split
  · exact meets_pure hw
  · rename_i control hcontrol
    split
    · have hgiven := d.timesOut hw (Flight.tokens_release hcontrol)
      refine meets_update_bind ((d.leaving ((d.events _).applies _ _ hgiven)).seq ?_)
      intro _ w' hw'
      exact (d.respondControl control hw').seq fun _ _ hw'' => meets_pure hw''
    · exact meets_pure hw

/-- The command itself times out. -/
lemma expireNormal (now : ℕ) (hw : N (flight.tokens token) w) :
    Meets S env (GdbAi.expireNormal site token until_ flight now)
      (fun flight => N (flight.tokens token)) (Left N O site) w := by
  unfold GdbAi.expireNormal
  split
  · rename_i hdue
    have hnone : flight.normalResult = none := by
      simp only [Bool.and_eq_true, Option.isNone_iff_eq_none] at hdue
      exact hdue.1
    have hgiven := d.timesOut hw (Flight.tokens_answer hnone (.error (commandTimeoutError token)))
    exact meets_update_bind ((d.leaving ((d.events _).applies _ _ hgiven)).seq
      (fun _ _ hw' => meets_pure hw'))
  · exact meets_pure hw

/-- A deadline with a command in flight. -/
lemma flightDeadline (hw : N (flight.tokens token) w) :
    Meets S env (GdbAi.flightDeadline site token until_ flight) (GoesOn N token)
      (Left N O site) w := by
  refine meets_ask_bind ?_
  have hw₀ := d.frame hw (frame_question w)
  refine (d.leaving (d.escalateAcknowledgedInterrupt _ hw₀)).seq ?_
  intro _ w₁ hw₁
  refine (d.escalatePending _ hw₁).seq fun flight₁ w₂ hw₂ => ?_
  refine (d.expirePending _ hw₂).seq fun flight₂ w₃ hw₃ => ?_
  exact (d.expireNormal _ hw₃).seq fun _ _ hw₄ => meets_pure hw₄

/-- A record may answer a token given up earlier. -/
lemma takeDelayedToken (record : MiRecord) (hw : N waiting w) :
    Meets S env (GdbAi.takeDelayedToken record) (fun _ => N waiting) E w := by
  unfold GdbAi.takeDelayedToken
  split
  · exact meets_pure hw
  · refine meets_reads_bind ?_
    split
    · exact meets_update_bind (meets_pure (d.delays hw))
    · exact meets_pure hw

/-- The outcome of a token given up earlier is resolved. -/
lemma resolveDelayed (delayed : Option ℕ) (hw : N waiting w) :
    Meets S env (GdbAi.resolveDelayed site delayed) (fun _ => N waiting) (Left N O site) w := by
  cases delayed with
  | none => exact meets_pure hw
  | some token => exact d.leaving ((d.events _).applies _ w hw)

/-- A result that no command waits for is an event. -/
lemma unmatched (record : MiRecord) :
    Preserves S env (N waiting) (handleUnmatchedResult record) := by
  unfold handleUnmatchedResult
  split
  · exact (d.events _).applies _
  · exact preserves_pure ()

/-- An acknowledged interrupt gets a deadline. -/
lemma finishInterrupt (hw : N waiting w) :
    Meets S env (GdbAi.finishInterrupt result) (fun _ => N waiting) E w := by
  refine meets_reads_bind ?_
  split
  · exact meets_ask_bind (meets_update (d.frame hw (.of_core rfl)))
  · exact meets_pure hw

/-- The record is the result of the command. -/
lemma takeResult (hw : N (flight.tokens token) w) :
    N ({ flight with normalResult := some result, streams := [] }.tokens token)
      (if flight.normalResult.isNone then w.answer token else w) := by
  cases hresult : flight.normalResult with
  | none => exact d.answers hw (Flight.tokens_answer hresult result)
  | some held => simpa [Flight.tokens, hresult] using hw

/-- A record is matched with the commands in flight. -/
lemma flightRecord (record : MiRecord) (evidenceSeq : ℕ) (hw : N (flight.tokens token) w) :
    Meets S env (GdbAi.flightRecord site token flight record evidenceSeq)
      (GoesOn N token) (Left N O site) w := by
  refine (d.takeDelayedToken record hw).seq fun delayed w₁ hw₁ => ?_
  refine (d.resolveDelayed delayed hw₁).seq fun _ w₂ hw₂ => ?_
  split
  · rename_i control hcontrol
    -- the record answers the control
    obtain ⟨hpending, -⟩ := Option.filter_eq_some_iff.mp hcontrol
    have hanswered := d.answers hw₂ (Flight.tokens_release hpending)
    refine meets_update_bind ((d.finishInterrupt hanswered).seq ?_)
    intro _ w₃ hw₃
    exact (d.respondControl control hw₃).seq fun _ _ hw₄ => meets_pure hw₄
  · split
    · exact meets_update_bind (meets_pure (d.takeResult hw₂))
    · refine Meets.seq (V := fun _ => N (flight.tokens token))
        (Meets.onlyIf (fun _ => d.leaving (d.unmatched record _ hw₂)) fun _ => hw₂) ?_
      intro _ w₃ hw₃
      refine meets_reads_bind (meets_pure ?_)
      change N _ w₃
      rwa [Flight.tokens_collect]

/-- An input from GDB with a command in flight. -/
lemma flightInput (input : Option BackendInput) (hw : N (flight.tokens token) w) :
    Meets S env (GdbAi.flightInput site token flight input) (GoesOn N token)
      (Left N O site) w := by
  cases input with
  | none => exact d.lose hw
  | some input =>
    refine (d.leaving ((d.events _).processInput input w hw)).seq fun taken w' hw' => ?_
    match taken with
    | none => exact meets_pure hw'
    | some (record, evidenceSeq) => exact d.flightRecord record evidenceSeq hw'

/-- An arrival is taken that is admitted. -/
lemma nextArrival (hw : N waiting w) :
    Meets S env GdbAi.nextArrival (fun arrival w' => N waiting w' ∧ admits arrival) E w := by
  unfold Meets GdbAi.nextArrival
  cases harrivals : w.arrivals with
  | nil => exact (d.events waiting).safe w hw
  | cons arrival arrivals =>
    have hsuffix : arrivals <:+ w.arrivals := by
      rw [harrivals]
      exact List.suffix_cons arrival arrivals
    have hmem : arrival ∈ w.arrivals := by
      rw [harrivals]
      exact List.mem_cons_self
    exact ⟨d.frame hw { frame_refl w with arrivals := hsuffix },
      d.admitted hw hmem⟩

/-- One turn keeps what holds with the commands in flight. -/
lemma flightTurn (hw : N (flight.tokens token) w) :
    Meets S env (GdbAi.flightTurn site token until_ flight) (GoesOn N token)
      (Left N O site) w := by
  unfold GdbAi.flightTurn
  split
  · rename_i result hcontrol hresult
    -- the command is answered and no control is pending
    have hnone : N [] w := by simpa [Flight.tokens, hcontrol, hresult] using hw
    cases result with
    | ok reply => exact meets_pure hnone
    | error error => exact meets_fail (.inl hnone)
  · refine (d.nextArrival hw).seq ?_
    rintro arrival w' ⟨hw', hadmits⟩
    cases arrival with
    | control request =>
      refine meets_reads_bind ?_
      split
      · exact d.flightControl request hadmits hw'
      · exact meets_wait ((d.events _).safe w' hw')
    | backend input => exact d.flightInput input hw'
    | wake => exact d.flightDeadline hw'
    | tick => exact meets_wait ((d.events _).safe w' hw')
    | request _ => exact meets_wait ((d.events _).safe w' hw')

/-! ### Executions -/

/-- An execution that returns has no command in flight. -/
lemma executeUntilInner (hw : N [] w) :
    Meets S env (GdbAi.executeUntilInner site command until_) (fun _ => N []) (Left N O site) w := by
  refine meets_ask_bind ?_
  have hw' := d.frame hw (frame_question w)
  split
  · exact meets_fail (.inl hw')
  · refine (d.beginCommand hw' (.inr rfl)).bind ?_ fun _ _ he => .inl he
    intro token w₁ hw₁
    refine meets_reads_bind (meets_loop (I := fun flight => N (flight.tokens token)) ?_ ?_ _ hw₁)
    · intro flight w₂ hw₂
      refine (d.flightTurn hw₂).mono ?_ fun _ _ he => he
      rintro (flight' | reply) w₃ hw₃
      · exact hw₃
      · exact hw₃
    · exact fun flight w₂ hw₂ => (d.events _).safe w₂ hw₂

/-- A deleted breakpoint leaves the state. -/
lemma forgetBreakpoint (number : String) :
    Preserves S env (N []) (rollbackInsertion.forgetBreakpoint number) := by
  refine .reading fun known => ?_
  split
  · exact (d.events []).applies _
  · exact preserves_pure _

/-- A breakpoint is deleted, or the deletion is left quietly. -/
lemma deleteBreakpoint (number : String) (hw : N [] w) :
    Meets S env (GdbAi.deleteBreakpoint site number until_)
      (fun result w' => N [] w' ∨ ∃ error, result = .error error ∧ Over O (.rollback site) error w')
      (fun _ => N []) w := by
  refine (requireKnownOutcome S (N []) _ w hw).attempt_bind ?_ ?_
  · intro _ w₁ hw₁
    refine (meets_ofExcept (V := fun _ => N []) (fun _ _ => hw₁) fun _ _ => hw₁).seq ?_
    intro command w₂ hw₂
    refine (d.executeUntilInner hw₂).attempt (fun _ _ hw₃ => .inl hw₃) ?_
    rintro error w₃ (hN | hover)
    · exact .inl hN
    · exact .inr ⟨error, rfl, hover⟩
  · exact fun error w₁ hw₁ => meets_pure (.inl hw₁)

/-- A rollback that is left quietly lets the failed insertion be left quietly. -/
lemma rollbackInsertion (number : String) (hw : N [] w) :
    Meets S env (GdbAi.rollbackInsertion site number until_)
      (fun _ w' => N [] w' ∨ (O w' ∧ w'.fatal = true ∧
        site.quiet .gdbError w'.staleDue (!w'.timedOutTokens.isEmpty) = true))
      (fun _ => N []) w := by
  refine (d.deleteBreakpoint number hw).seq ?_
  rintro result w₁ (hN | ⟨error, rfl, hO, hfatal, hquiet⟩)
  · have hforget : Meets S env (GdbAi.rollbackInsertion.forgetBreakpoint number) (fun _ w' =>
        N [] w' ∨ (O w' ∧ w'.fatal = true ∧
          site.quiet .gdbError w'.staleDue (!w'.timedOutTokens.isEmpty) = true))
        (fun _ => N []) w₁ :=
      (d.forgetBreakpoint number w₁ hN).mono (fun _ _ h => .inl h) fun _ _ h => h
    cases result with
    | ok _ => exact hforget
    | error error =>
      simp only
      split
      · exact hforget
      · refine meets_update_bind (meets_reads_bind ?_)
        have hN' : N [] { w₁ with moduleRebindNeeded := false } := d.frame hN (.of_core rfl)
        split
        · exact ((d.events []).applies _ _ hN').mono (fun _ _ h => .inl h) fun _ _ h => h
        · exact meets_pure (.inl hN')
  · -- the worker has failed, so it does not look at the breakpoint any more
    have hfailed : w₁.fatal = true := hfatal.resolve_right (by simp)
    simp only [World.quiet, Site.quiet, Bool.and_eq_true, bne_iff_ne] at hquiet
    simp only [hquiet.1, false_and, if_false]
    refine meets_update_bind (meets_reads_bind ?_)
    split
    · rename_i hworks
      simp [hfailed] at hworks
    · exact meets_pure (.inr ⟨d.still hO (Still.of_core rfl rfl), hfailed, hquiet.2⟩)

omit d in
/-- What a failed insertion leaves behind. -/
lemma of_leftBreakpoint {error : Error} {number : String}
    (h : leftBreakpoint (w.knownBreakpoints command) (.error error) = some number) :
    command.name = "-break-insert" ∧ error.code = .gdbError := by
  simp only [leftBreakpoint, World.knownBreakpoints] at h
  split at h
  · rename_i hcommand
    refine ⟨hcommand.1, by_contra fun hcode => ?_⟩
    simp [hcode] at h
  · simp at h

/-- `execute_until` with nothing in flight; the handshake inserts no breakpoints. -/
lemma executeUntil (hsite : site = .handshake → command.name ≠ "-break-insert") (hw : N [] w) :
    Meets S env (GdbAi.executeUntil site command until_) (fun _ => N []) (Left N O site) w := by
  refine meets_reads_bind ((d.executeUntilInner hw).attempt_bind ?_ ?_)
  · exact fun reply w₁ hw₁ => meets_pure hw₁
  · intro error w₁ hleft
    split
    · exact meets_fail hleft
    · rename_i number hnumber
      obtain ⟨hname, hcode⟩ := of_leftBreakpoint hnumber
      refine meets_reads_bind (Meets.seq (V := fun _ => Left N O site error)
        (Meets.onlyIf ?_ fun _ => hleft) (fun _ _ hleft' => meets_fail hleft'))
      intro hfatal
      have hN : N [] w₁ := by
        rcases hleft with hN | ⟨-, hfailed | hhandshake, -⟩
        · exact hN
        · simp [hfailed] at hfatal
        · exact absurd hname (hsite hhandshake)
      refine (d.rollbackInsertion number hN).mono ?_ fun _ _ h => .inl h
      rintro _ w₂ (hN₂ | ⟨hO, hfailed, hquiet⟩)
      · exact .inl hN₂
      · exact .inr ⟨hO, .inl hfailed, by rwa [World.quiet, hcode]⟩

/-- A cancelled operation is refused. -/
lemma requireActive : Preserves S env (N waiting) (GdbAi.requireActive operation) := by
  cases operation with
  | none => exact preserves_pure ()
  | some operation =>
    refine (d.asks _).bind fun cancelled => ?_
    split
    · exact preserves_fail _
    · exact preserves_pure _

/-- An operation that resumes the target owns its run before the command is written. -/
lemma executeOperationUntil (hsite : site ≠ .handshake) (hw : N [] w) :
    Meets S env (GdbAi.executeOperationUntil site command operation until_) (fun _ => N [])
      (Left N O site) w := by
  refine (d.requireActive w hw).bind (fun _ w₁ hw₁ => ?_) fun _ _ he => .inl he
  refine ((d.requires _).onlyIf _ w₁ hw₁).bind (fun _ w₂ hw₂ => ?_) fun _ _ he => .inl he
  have hupdate : Preserves S env (N [])
      (update fun w => w.startResume (operation.map ActiveOperation.id) : Action Unit) :=
    preserves_update fun _ hw => d.starts _ hw
  refine (hupdate.onlyIf _ w₂ hw₂).bind (fun _ w₃ hw₃ => ?_) fun _ _ he => .inl he
  refine (d.executeUntil (fun h => absurd h hsite) hw₃).attempt_bind ?_ ?_
  · exact fun reply w₄ hw₄ => meets_pure hw₄
  · intro error w₄ hleft
    refine Meets.seq (V := fun _ => Left N O site error)
      (Meets.onlyIf (fun _ => meets_update ?_) fun _ => hleft)
      (fun _ _ hleft' => meets_fail hleft')
    unfold World.releaseResume
    split
    · exact hleft.imp d.releases fun hover => ⟨d.releasesOver hover.1, hover.2⟩
    · exact hleft

end Discipline

end GdbAi
