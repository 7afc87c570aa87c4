import GdbAi.Session.Discipline

/-!
# What every session keeps

A discipline carried from the execution of one command through the requests and controls, the idle
loop and the startup to whole sessions: `Discipline.session` says that every state a session
reaches is one that is asked for.
-/

namespace GdbAi

open Procedure

variable {env : Environment} {admits : Arrival → Prop} {N : List ℕ → World → Prop}
  {O S : World → Prop} {site : Site} {w : World} {α : Type} {E : Error → World → Prop}

/-! ### Between two commands -/

/-- No exit at the site is quiet. -/
def Site.Loud (site : Site) : Prop :=
  ∀ code staleDue unknown, site.quiet code staleDue unknown = false

/-- The worker goes on, or it has failed and has nothing left to delete. -/
def Settled (N : List ℕ → World → Prop) (O : World → Prop) (w : World) : Prop :=
  N [] w ∨ O w ∧ w.fatal = true ∧ w.staleDue = false

/-- The worker goes on, or it has failed. -/
def Stopping (N : List ℕ → World → Prop) (O : World → Prop) (w : World) : Prop :=
  N [] w ∨ O w ∧ w.fatal = true

/-- A worker that does not stop goes on. -/
def Stops (N : List ℕ → World → Prop) (O : World → Prop) (stops : Bool) (w : World) : Prop :=
  (N [] w ∨ O w) ∧ (stops = false → N [] w)

/-- The handshake is quiet. -/
lemma Site.Loud.ne_handshake (h : site.Loud) : site ≠ .handshake := by
  rintro rfl
  exact absurd (h .gdbError false false) (by simp [Site.quiet])

/-- An execution left quietly has nothing left to delete. -/
lemma Left.settled {error : Error} (h : Left N O site error w) (hsite : site ≠ .handshake)
    (hquiet : ∀ code staleDue unknown, site.quiet code staleDue unknown = true →
      staleDue = false) : Settled N O w := by
  rcases h with hN | ⟨hO, hfatal, hq⟩
  · exact .inl hN
  · exact .inr ⟨hO, hfatal.resolve_right hsite, hquiet _ _ _ hq⟩

namespace Discipline

variable (d : Discipline env admits N O S) {command : MiCommand}
  {before after commands : List MiCommand} {operation : Option ActiveOperation}
  {until_ executionEpoch : ℕ} {stopId : StopId} {breakpoint : PendingModuleBreakpoint}
  {enabled : Bool} {address : Option String} {settings guarded : List String}
  {setupError : Option Error} {result : Except Error CommandReply}
include d

/-- A still frame keeps the worker settled. -/
lemma settled_still {w' : World} (h : Settled N O w) (hstill : Still w w')
    (hstale : w'.staleBackendValues = w.staleBackendValues) : Settled N O w' := by
  rcases h with hN | ⟨hO, hfatal, hdue⟩
  · exact .inl (d.frame hN hstill.toFrame)
  · refine .inr ⟨d.still hO hstill, hstill.sameFatal.trans hfatal, ?_⟩
    rwa [World.staleDue, hstill.timedOutTokens, hstill.live, hstale, ← World.staleDue]

/-- So does a response. -/
lemma settled_respond (h : Settled N O w) (response : Response) :
    Settled N O { w with responses := w.responses ++ [response] } :=
  d.settled_still h (Discipline.Still.of_core rfl rfl) rfl

/-- At a site that is never quiet an execution keeps what holds between two commands. -/
lemma executeUntil_loud (hsite : site.Loud)
    : Preserves S env (N []) (GdbAi.executeUntil site command until_) := by
  intro w hw
  exact (d.executeUntil (fun h => absurd h hsite.ne_handshake) hw).mono
    (fun _ _ h => h) fun _ _ h => h.normal hsite

/-- So does one up to the deadline of a command. -/
lemma execute_loud (hsite : site.Loud) : Preserves S env (N []) (GdbAi.execute site command) :=
  Preserves.bind (fun _ h => d.commandDeadline h) fun _ => d.executeUntil_loud hsite

/-- Behind a response one stale value is deleted, unless the worker has failed. -/
lemma cleanupOneStaleValue (hw : Settled N O w) :
    Meets S env GdbAi.cleanupOneStaleValue (fun _ => Stopping N O) E w := by
  refine meets_reads_bind ?_
  split
  · rename_i hdue
    have hN : N [] w := hw.resolve_right fun h => by simp [h.2.2] at hdue
    refine meets_reads_bind ?_
    split
    · exact meets_pure (.inl hN)
    · rename_i backendName _
      refine meets_update_bind ?_
      have hN' : N [] { w with staleBackendValues := w.staleBackendValues.dropLast } :=
        d.frame hN (.of_core rfl)
      split
      · exact meets_pure (.inl hN')
      · rename_i command _
        refine meets_ask_bind ?_
        refine (d.executeUntil (by simp)
          (d.frame hN' (frame_question _))).attempt_bind ?_ ?_
        · exact fun _ w₁ hw₁ => meets_pure (.inl hw₁)
        · intro error w₁ hleft
          have hstopping : Stopping N O w₁ :=
            hleft.imp_right fun h => ⟨h.1, h.2.1.resolve_right (by simp)⟩
          simp only
          split
          · refine meets_update (hstopping.imp ?_ ?_)
            · exact fun h => d.frame h (.of_core rfl)
            · exact fun h => ⟨d.still h.1 (Discipline.Still.of_core rfl rfl), h.2⟩
          · exact meets_pure hstopping
  · exact meets_pure (hw.imp_right fun h => ⟨h.1, h.2.1⟩)

/-- A request ends, and with it a worker that has failed. -/
lemma finishRequest (hw : Stopping N O w) :
    Meets S env GdbAi.finishRequest (Stops N O) E w := by
  refine meets_reads_bind (Meets.seq (V := fun _ => Stopping N O) (Meets.onlyIf ?_ fun _ => hw) ?_)
  · intro _
    refine meets_ask_bind (meets_pure (hw.imp ?_ ?_))
    · exact fun h => d.frame h (frame_question w)
    · exact fun h => ⟨d.still h.1 (Discipline.Still.of_core rfl rfl), h.2⟩
  · intro _ w' hw'
    refine meets_reads ⟨hw'.imp_right And.left, fun hfatal => ?_⟩
    exact hw'.resolve_right fun h => by simp [h.2] at hfatal

/-- A response, one stale value, and the end of the request. -/
lemma respondAndFinish (response : Response) (hw : Settled N O w) :
    Meets S env (do
      respond response
      GdbAi.cleanupOneStaleValue
      GdbAi.finishRequest) (Stops N O) E w :=
  meets_update_bind ((d.cleanupOneStaleValue (d.settled_respond hw response)).seq
    (fun _ _ h => d.finishRequest h))

/-- A request that executes nothing. -/
lemma answerRequest (response : Except Error α → Response) {m : Action α}
    (hm : Preserves S env (N []) m) (hw : N [] w) :
    Meets S env (GdbAi.answerRequest response m) (Stops N O) E w := by
  refine (hm w hw).attempt_either fun _ w' hw' => ?_
  exact meets_update_bind (d.finishRequest (.inl (d.frame hw' (.of_core rfl))))

/-- A request that is refused. -/
lemma refuse (response : Response) (hw : N [] w) :
    Meets S env (do
      respond response
      pure false : Action Bool) (Stops N O) E w := by
  have hN : N [] { w with responses := w.responses ++ [response] } := d.frame hw (.of_core rfl)
  exact meets_update_bind (meets_pure ⟨.inl hN, fun _ => hN⟩)

/-! ### Module breakpoints -/

/-- A breakpoint is disabled. -/
lemma disableBreakpoint (hsite : site.Loud) (number : String) :
    Preserves S env (N []) (GdbAi.disableBreakpoint site number until_) :=
  .taking fun _ => (d.executeUntil_loud hsite).bind fun _ =>
    preserves_pure _

/-- A breakpoint is inserted anew and its old number deleted. -/
lemma moveModuleBreakpoint (hsite : site.Loud) : Preserves S env (N [])
      (GdbAi.moveModuleBreakpoint site breakpoint enabled command address until_) := by
  refine (d.executeUntil_loud hsite).bind fun reply => ?_
  refine .taking fun number => ?_
  refine ((d.disableBreakpoint hsite number).onlyIf _).bind fun _ => ?_
  refine ((d.events []).applies _).bind fun _ => ?_
  refine Preserves.bind (d.updates fun _ => .of_core rfl) fun _ => ?_
  refine .taking fun deletion => ?_
  refine (d.executeUntil_loud hsite).attempt.bind fun deleted => ?_
  cases deleted with
  | ok _ => exact preserves_pure ()
  | error error => exact ((d.events []).applies _).bind fun _ => preserves_fail error

/-- A snapshot held back is published. -/
lemma publishDeferredSnapshot (succeeded : Bool) :
    Preserves S env (N []) (GdbAi.publishDeferredSnapshot succeeded) := by
  refine .reading fun deferred => ?_
  refine Preserves.bind (d.updates fun _ => .of_core rfl) fun _ => ?_
  split
  · exact preserves_pure ()
  · refine .reading fun current => ?_
    split
    · exact (d.events []).applies _
    · exact preserves_pure _

/-- A breakpoint is moved with its snapshots held back. -/
lemma replaceModuleBreakpoint (hsite : site.Loud) : Preserves S env (N [])
      (GdbAi.replaceModuleBreakpoint site breakpoint enabled command address until_) := by
  refine Preserves.bind (d.updates fun _ => .of_core rfl) fun _ => ?_
  refine (d.moveModuleBreakpoint hsite).attempt.bind
    fun result => ?_
  refine Preserves.bind (d.updates fun _ => .of_core rfl) fun _ => ?_
  refine (d.publishDeferredSnapshot _).attempt.bind fun published => ?_
  exact .taking fun _ => preserves_ofExcept published

/-- The breakpoints of modules are rebound. -/
lemma rebindPendingModuleBreakpoints :
    Preserves S env (N []) GdbAi.rebindPendingModuleBreakpoints := by
  refine .reading fun running => ?_
  split
  · exact preserves_pure ()
  · refine .reading fun pending w hw => meets_forEach ?_ pending hw
    rintro ⟨breakpoint, _⟩ w' hw'
    refine Preserves.bind (I := N []) (d.requires _) (fun address => ?_) w' hw'
    split
    · exact preserves_pure ()
    · refine Preserves.bind (fun _ h => d.commandDeadline h) fun until_ => ?_
      exact d.replaceModuleBreakpoint (fun _ _ _ => rfl)

/-- They are parked before a fresh run. -/
lemma parkModuleBreakpoints : Preserves S env (N []) (GdbAi.parkModuleBreakpoints until_) := by
  refine .reading fun parked => Preserves.bind (fun w hw => ?_) fun _ =>
    d.updates fun _ => .of_core rfl
  refine meets_forEach ?_ parked hw
  rintro ⟨breakpoint, enabled⟩ w' hw'
  refine Preserves.bind (I := N []) (preserves_ofExcept _) (fun command => ?_) w' hw'
  exact d.replaceModuleBreakpoint (fun _ _ _ => rfl)

/-! ### Restoration -/

/-- Commands are restored one by one. -/
lemma runRestoration (hsite : site ≠ .handshake) (hw : N [] w) :
    Meets S env (GdbAi.runRestoration site commands until_) (fun _ => N []) (Left N O site) w := by
  refine meets_forEach (fun command w' hw' => ?_) commands hw
  exact (d.executeUntil (fun h => absurd h hsite) hw').seq
    (fun _ _ h => meets_pure h)

/-- At a site that is never quiet that keeps what holds between two commands. -/
lemma runRestoration_loud (hsite : site.Loud) :
    Preserves S env (N []) (GdbAi.runRestoration site commands until_) :=
  fun _ hw => (d.runRestoration hsite.ne_handshake hw).mono (fun _ _ h => h)
    fun _ _ h => h.normal hsite

/-- What an earlier request owes is restored. -/
lemma restoreDeferredCommands (hsite : site ≠ .handshake) (hw : N [] w) :
    Meets S env (GdbAi.restoreDeferredCommands site until_) (fun _ => N [])
      (fun _ w' => ∃ error, Left N O site error w') w := by
  refine meets_reads_bind ?_
  split
  · exact meets_pure hw
  · refine (d.runRestoration hsite hw).attempt_bind ?_ ?_
    · exact fun _ w' hw' => meets_update (d.frame hw' (.of_core rfl))
    · exact fun error w' hleft => meets_fail ⟨error, hleft⟩

/-- Before a command that keeps what holds between two commands. -/
lemma restoreDeferred :
    Preserves S env (N []) (GdbAi.restoreDeferredCommands .deferred until_) := by
  have hloud : Site.Loud .deferred := fun _ _ _ => rfl
  exact fun _ hw => (d.restoreDeferredCommands hloud.ne_handshake hw).mono (fun _ _ h => h)
    fun _ _ ⟨_, h⟩ => h.normal hloud

/-! ### Safe evaluation -/

/-- The settings of an evaluation are read. -/
lemma readSettings (hw : N [] w) :
    Meets S env (GdbAi.readSettings operation until_ settings) (fun _ => N [])
      (fun _ => Settled N O) w := by
  induction settings generalizing w with
  | nil => exact meets_pure hw
  | cons setting settings ih =>
    refine (d.requireActive w hw).bind (fun _ w₁ hw₁ => ?_) fun _ _ he => .inl he
    refine (preserves_ofExcept _ w₁ hw₁).bind (fun command w₂ hw₂ => ?_) fun _ _ he => .inl he
    refine (d.executeUntil (by simp) hw₂).bind (fun reply w₃ hw₃ => ?_) ?_
    · split
      · exact meets_fail (.inl hw₃)
      · exact (ih hw₃).seq fun _ _ h => meets_pure h
    · exact fun _ _ hleft => hleft.settled (by simp) (by simp [Site.quiet])

omit d in
/-- The worker has failed and no outcome is unknown. -/
def Idle (O : World → Prop) (w : World) : Prop :=
  O w ∧ w.fatal = true ∧ w.staleDue = false ∧ w.timedOutTokens = []

/-- An evaluation has a deadline. -/
lemma evaluationDeadline (first : Bool) (hw : N [] w) :
    Meets S env (GdbAi.evaluationDeadline first until_) (fun _ => N []) E w := by
  unfold GdbAi.evaluationDeadline
  split
  · exact meets_pure hw
  · exact d.commandDeadline hw

/-- An evaluation that is left quietly guards nothing and fails. -/
lemma evaluateCommands (guarded : List String) (first : Bool) (hw : N [] w) :
    Meets S env (GdbAi.evaluateCommands operation guarded commands first until_)
      (fun result w' => N [] w' ∨ guarded = [] ∧ (∃ error, result.1 = .error error) ∧ Idle O w')
      E w := by
  induction commands generalizing first until_ w with
  | nil => exact meets_pure (.inl hw)
  | cons command commands ih =>
    have hchecks : Preserves S env (N []) (do
        GdbAi.requireActive operation
        GdbAi.requireKnownOutcome command.name) :=
      d.requireActive.bind fun _ => Discipline.requireKnownOutcome S _ _
    refine (hchecks w hw).attempt_bind ?_ ?_
    swap
    · exact fun error w₁ hw₁ => meets_pure (.inl hw₁)
    intro _ w₁ hw₁
    refine (d.evaluationDeadline first hw₁).seq fun until₁ w₂ hw₂ => ?_
    -- the replies behind this one, whatever it is
    have hrest (reply : Except Error CommandReply) {w₃ : World} (hw₃ : N [] w₃) :
        Meets S env (do
          let result ← GdbAi.evaluateCommands operation guarded commands false until₁
          pure (result.1.map (reply :: ·), result.2))
          (fun result w' => N [] w' ∨ guarded = [] ∧ (∃ error, result.1 = .error error) ∧
            Idle O w') E w₃ := by
      refine (ih false hw₃).seq ?_
      rintro ⟨replies, until₂⟩ w₄ (hN | ⟨hguarded, ⟨error, herror⟩, hidle⟩)
      · exact meets_pure (.inl hN)
      · refine meets_pure (.inr ⟨hguarded, ⟨error, ?_⟩, hidle⟩)
        change Except.map _ replies = _
        rw [show replies = .error error from herror]
        rfl
    refine (d.executeUntil (by simp) hw₂).attempt_bind ?_ ?_
    · exact fun reply w₃ hw₃ => hrest (.ok reply) hw₃
    · rintro error w₃ (hN | ⟨hO, hfatal, hquiet⟩)
      · simp only
        split
        · exact hrest (.error error) hN
        · exact meets_pure (.inl hN)
      · simp only [World.quiet, Site.quiet, Bool.and_eq_true, Bool.not_eq_true',
          List.isEmpty_iff, Bool.not_eq_false'] at hquiet
        simp only [hquiet.2, Bool.false_eq_true, if_false]
        refine meets_pure (.inr ⟨hquiet.1.1.1, ⟨error, rfl⟩, hO, hfatal.resolve_right (by simp),
          hquiet.1.1.2, hquiet.1.2⟩)

/-- So does one whose settings could not be guarded. -/
lemma evaluateGuarded (hw : N [] w ∨ guarded = [] ∧ setupError.isSome = true ∧ Idle O w) :
    Meets S env (GdbAi.evaluateGuarded operation commands until_ guarded setupError)
      (fun result w' => N [] w' ∨ guarded = [] ∧ (∃ error, result.1 = .error error) ∧ Idle O w')
      E w := by
  rcases setupError with _ | error
  · exact d.evaluateCommands guarded true
      (hw.resolve_right fun h => by simp at h)
  · exact meets_pure (hw.imp_right fun h => ⟨h.1, ⟨error, rfl⟩, h.2.2⟩)

omit d in
/-- A failed worker with nothing to restore changes nothing. -/
lemma restoreSettings_idle (hw : Idle O w) :
    Meets S env (GdbAi.restoreSettings [] until_) (fun _ w' => w' = w) E w := by
  refine meets_reads_bind ?_
  simp only [hw.2.2.2, List.isEmpty_nil, Bool.not_true, Bool.false_eq_true, if_false]
  exact Meets.attempt_bind (V := fun _ w' => w' = w) (E := fun _ _ => False) (meets_pure rfl)
    (fun _ _ h => meets_pure h) fun _ _ h => h.elim

omit d in
/-- Without guarded settings there is nothing to restore. -/
lemma restorationCommands_nil (originals : List (String × String)) :
    restorationCommands originals [] = .ok [] := by
  have hfilter : (originals.filter fun original => ([] : List String).contains original.1) = [] :=
    List.filter_eq_nil_iff.mpr fun _ _ => by simp
  rw [restorationCommands, hfilter]
  rfl

/-- Guarding that is left quietly has guarded nothing. -/
lemma guardSettings (hw : N [] w) :
    Meets S env (GdbAi.guardSettings operation until_ settings guarded)
      (fun result w' => N [] w' ∨ result.1 = [] ∧ result.2.isSome = true ∧ Discipline.Idle O w')
      (fun _ => N []) w := by
  induction settings generalizing guarded w with
  | nil => exact meets_pure (.inl hw)
  | cons setting settings ih =>
    refine (d.requireActive w hw).attempt_bind ?_ ?_
    swap
    · exact fun error w₁ hw₁ => meets_pure (.inl hw₁)
    intro _ w₁ hw₁
    refine (preserves_ofExcept _ w₁ hw₁).seq fun command w₂ hw₂ => ?_
    refine (d.executeUntil (by simp) hw₂).attempt_bind ?_ ?_
    · exact fun reply w₃ hw₃ => ih hw₃
    · rintro error w₃ (hN | ⟨hO, hfatal, hquiet⟩)
      · simp only
        split
        · exact ih hN
        · exact meets_pure (.inl hN)
      · simp only [World.quiet, Site.quiet, Bool.and_eq_true, Bool.not_eq_true', bne_iff_ne,
          List.isEmpty_iff, Bool.not_eq_false'] at hquiet
        simp only [hquiet.2, and_false, if_false]
        refine meets_pure (.inr ⟨hquiet.1.1.1, rfl, hO, hfatal.resolve_right (by simp),
          hquiet.1.1.2, hquiet.1.2⟩)

/-- The settings are restored. -/
lemma restoreSettings (restoration : List MiCommand) :
    Preserves S env (N []) (GdbAi.restoreSettings restoration until_) := by
  refine .reading fun unknown => ?_
  split
  · exact Preserves.bind (d.updates fun _ => .of_core rfl) fun _ => (d.events []).applies _
  · have hloud : Site.Loud .evaluateRestore := fun _ _ _ => rfl
    refine (d.runRestoration_loud hloud).attempt.bind fun restored => ?_
    cases restored with
    | ok _ => exact preserves_pure ()
    | error error =>
      exact ((d.events []).applies _).bind fun _ => preserves_fail _

/-- A safe evaluation leaves the worker settled. -/
lemma executeSafe (hw : N [] w) :
    Meets S env (GdbAi.executeSafe operation commands until_) (fun _ => N [])
      (fun _ => Settled N O) w := by
  refine meets_reads_bind ?_
  have horiginals : Meets S env (GdbAi.originalSettings operation until_
      (safeEvaluationSettings w.profile).1 (safeEvaluationSettings w.profile).2) (fun _ => N [])
      (fun _ => Settled N O) w := by
    unfold GdbAi.originalSettings
    split
    · exact d.readSettings hw
    · exact meets_pure hw
  refine horiginals.seq fun originals w₁ hw₁ => ?_
  refine (d.guardSettings hw₁).bind ?_ fun _ _ he => .inl he
  rintro ⟨guarded, setupError⟩ w₂ hw₂
  refine (d.evaluateGuarded hw₂).seq ?_
  rintro ⟨result, until₁⟩ w₃ (hN | ⟨rfl, ⟨error, rfl⟩, hidle⟩)
  · refine (preserves_ofExcept _ w₃ hN).bind (fun restoration w₄ hw₄ => ?_)
      fun _ _ he => .inl he
    refine (d.restoreSettings restoration w₄ hw₄).bind (fun _ w₅ hw₅ => ?_)
      fun _ _ he => .inl he
    exact (preserves_ofExcept result w₅ hw₅).mono (fun _ _ h => h) fun _ _ h => .inl h
  · -- the evaluation was left quietly, so there is nothing to restore
    rw [restorationCommands_nil]
    change Meets S env (do
      GdbAi.restoreSettings [] until₁
      ofExcept (.error error)) _ _ w₃
    refine (Discipline.restoreSettings_idle hidle).seq ?_
    rintro _ w₄ rfl
    exact meets_fail (.inr ⟨hidle.1, hidle.2.1, hidle.2.2.1⟩)

/-! ### Requests that execute a command -/

/-- What comes before a command keeps what holds between two. -/
lemma prepareCommand : Preserves S env (N []) (GdbAi.prepareCommand command until_) := by
  refine (Discipline.requireKnownOutcome S _ _).bind fun _ =>
    d.restoreDeferred.bind fun _ => ?_
  split
  · exact d.parkModuleBreakpoints
  · exact preserves_pure _

/-- A request for a command. -/
lemma handleCommand (hw : N [] w) :
    Meets S env (GdbAi.handleCommand command operation until_) (Stops N O) E w := by
  refine (d.prepareCommand w hw).attempt_bind ?_ ?_
  · intro _ w₁ hw₁
    refine (d.executeOperationUntil (by simp)
      hw₁).attempt_bind ?_ ?_
    · exact fun reply w₂ hw₂ => d.respondAndFinish _ (.inl hw₂)
    · exact fun error w₂ hleft => d.respondAndFinish _ (hleft.settled (by simp) (by simp [Site.quiet]))
  · exact fun error w₁ hw₁ => d.refuse _ hw₁

/-- A request for the target's capabilities. -/
lemma handleRefresh (hw : N [] w) :
    Meets S env (GdbAi.handleRefresh operation until_) (Stops N O) E w := by
  have hrefresh : Meets S env (do
      GdbAi.requireKnownOutcome "-list-target-features"
      GdbAi.restoreDeferredCommands .refreshDeferred until_
      GdbAi.refreshTargetCapabilities operation until_) (fun _ => N []) (fun _ => Settled N O) w := by
    refine (Discipline.requireKnownOutcome S (N []) _ w hw).bind (fun _ w₁ hw₁ => ?_)
      fun _ _ he => .inl he
    refine (d.restoreDeferredCommands (by simp) hw₁).bind (fun _ w₂ hw₂ => ?_) ?_
    · refine (preserves_ofExcept _ w₂ hw₂).bind (fun command w₃ hw₃ => ?_) fun _ _ he => .inl he
      refine (d.executeOperationUntil (by simp) hw₃).bind
        (fun _ _ h => meets_pure h) ?_
      exact fun _ _ hleft => hleft.settled (by simp) (by simp [Site.quiet])
    · rintro _ _ ⟨_, hleft⟩
      exact hleft.settled (by simp) (by simp [Site.quiet])
  refine hrefresh.attempt_bind ?_ ?_
  · exact fun _ w₁ hw₁ => d.respondAndFinish _ (.inl hw₁)
  · exact fun error w₁ hw₁ => d.respondAndFinish _ hw₁

/-- A transaction up to its own command. -/
lemma executeTransaction (hw : N [] w) :
    Meets S env (GdbAi.executeTransaction before command after operation until_) (fun _ => N [])
      (Left N O (.transaction after)) w := by
  refine Meets.seq (V := fun _ => N []) (E := Left N O (.transaction after)) ?_ ?_
  · refine meets_forEach (fun command w₁ hw₁ => ?_) before hw
    refine (d.requireActive w₁ hw₁).bind (fun _ w₂ hw₂ => ?_) fun _ _ he => .inl he
    exact (d.executeUntil (by simp) hw₂).seq fun _ _ h => meets_pure h
  · exact fun _ w₁ hw₁ => d.executeOperationUntil (by simp) hw₁

/-- The commands behind a transaction. -/
lemma finishTransaction (hw : N [] w) :
    Meets S env (GdbAi.finishTransaction after until_ result) (fun _ => N []) E w := by
  refine meets_reads_bind ?_
  split
  · have hdeferred : N [] { w with deferredRestoration := after } := d.frame hw (.of_core rfl)
    refine meets_update_bind (((d.events []).applies _ _ hdeferred).attempt_bind ?_ ?_)
    · exact fun _ w' hw' => meets_update (d.frame hw' (.of_core rfl))
    · exact fun _ w' hw' => meets_update (d.frame hw' (.of_core rfl))
  · have hloud : Site.Loud .transactionAfter := fun _ _ _ => rfl
    refine (d.runRestoration_loud hloud w hw).attempt_bind ?_ ?_
    · exact fun _ w' hw' => meets_update (d.frame hw' (.of_core rfl))
    · intro error w' hw'
      exact ((d.events []).applies _ w' hw').attempt_either
        fun _ w'' hw'' => meets_update (d.frame hw'' (.of_core rfl))

/-- A transaction that was left quietly owes no command. -/
lemma finishTransaction_over (hw : Settled N O w) :
    Meets S env (GdbAi.finishTransaction [] until_ result) (fun _ => Settled N O) E w := by
  refine meets_reads_bind ?_
  simp only [ne_eq, not_true_eq_false, false_and, if_false]
  refine Meets.attempt_bind (V := fun _ => Settled N O) (E := fun _ _ => False) (meets_pure hw)
    ?_ fun _ _ h => h.elim
  exact fun _ w' hw' => meets_update (d.settled_respond hw' _)

/-- A request for a transaction. -/
lemma handleTransaction (hw : N [] w) :
    Meets S env (GdbAi.handleTransaction before command after operation until_) (Stops N O) E w := by
  refine (d.prepareCommand w hw).attempt_bind ?_ ?_
  swap
  · exact fun error w₁ hw₁ => d.refuse _ hw₁
  intro _ w₁ hw₁
  have hend {w' : World} (h : Settled N O w') : Meets S env (do
      GdbAi.cleanupOneStaleValue
      GdbAi.finishRequest) (Stops N O) E w' :=
    (d.cleanupOneStaleValue h).seq fun _ _ h => d.finishRequest h
  refine (d.executeTransaction hw₁).attempt_bind ?_ ?_
  · exact fun reply w₂ hw₂ => (d.finishTransaction hw₂).seq
      (fun _ _ h => hend (.inl h))
  · rintro error w₂ (hN | hover)
    · exact (d.finishTransaction hN).seq fun _ _ h => hend (.inl h)
    · obtain rfl : after = [] := by
        have hquiet := hover.2.2
        simp only [World.quiet, Site.quiet, Bool.and_eq_true, List.isEmpty_iff] at hquiet
        exact hquiet.1
      have hsettled : Settled N O w₂ :=
        Left.settled (.inr hover) (by simp) (by simp [Site.quiet])
      exact (d.finishTransaction_over hsettled).seq fun _ _ h => hend h

/-- A request for a safe evaluation. -/
lemma handleSafeEvaluate (hw : N [] w) :
    Meets S env (GdbAi.handleSafeEvaluate commands operation until_) (Stops N O) E w := by
  have hprepare : Preserves S env (N []) (do
      forEach commands fun command => GdbAi.requireKnownOutcome command.name
      GdbAi.restoreDeferredCommands .deferred until_) := by
    refine Preserves.bind (fun w' hw' => meets_forEach ?_ commands hw') fun _ =>
      d.restoreDeferred
    exact fun command => Discipline.requireKnownOutcome S (N []) command.name
  refine (hprepare w hw).attempt_bind ?_ ?_
  · intro _ w₁ hw₁
    refine (d.executeSafe hw₁).attempt_bind ?_ ?_
    · exact fun replies w₂ hw₂ => d.respondAndFinish _ (.inl hw₂)
    · exact fun error w₂ hw₂ => d.respondAndFinish _ hw₂
  · exact fun error w₁ hw₁ => d.refuse _ hw₁

/-! ### Requests on the worker's own data -/

/-- A checkpoint is flushed. -/
lemma flushCheckpoint : Preserves S env (N []) GdbAi.flushCheckpoint := by
  have hflush : Preserves S env (N []) (do
      checkpoint applyEvent false
      flushJournal) :=
    ((d.events []).checkpoint false).bind fun _ => (d.events []).flush
  exact hflush.attempt.bind fun flushed => (d.events []).journalResult flushed

/-- A breakpoint of a module is registered. -/
lemma registerPendingModuleBreakpoint (breakpoint : PendingModuleBreakpoint) :
    Preserves S env (N []) (GdbAi.registerPendingModuleBreakpoint breakpoint) := by
  refine .reading fun refused => ?_
  split
  · exact preserves_fail _
  · exact d.updates fun _ => .of_core rfl

/-- A value is registered. -/
lemma registerValue (binding : ValueBinding) :
    Preserves S env (N []) (GdbAi.registerValue binding) := by
  refine .reading fun values => ?_
  split
  · exact preserves_fail _
  · split
    · exact preserves_fail _
    · exact d.updates fun _ => .of_core rfl

omit d in
/-- A value is looked up. -/
lemma getValue (valueId : String) : Preserves S env (N []) (GdbAi.getValue valueId) := by
  refine .reading fun binding => ?_
  split
  · exact preserves_pure _
  · refine .reading fun current => ?_
    split
    · exact preserves_fail _
    · exact preserves_fail _

/-- A value is removed. -/
lemma removeValue (valueId : String) : Preserves S env (N []) (GdbAi.removeValue valueId) := by
  refine .reading fun binding => ?_
  split
  · exact Preserves.bind (d.updates fun _ => .of_core rfl) fun _ => preserves_pure _
  · exact preserves_fail _

/-- A tracking definition is stored and added. -/
lemma addTracking (definition : TrackingDefinition) :
    Preserves S env (N []) (GdbAi.addTracking definition) := by
  refine .reading fun ⟨tracking, memory⟩ => ?_
  simp only
  split
  · exact preserves_fail _
  split
  · exact preserves_fail _
  split
  · exact preserves_fail _
  · exact ((d.events []).storeUnlessFailed (d.events []).storeResult).bind fun _ =>
      d.updates fun _ => .of_core rfl

/-- A tracking definition is removed. -/
lemma removeTracking (trackingId : String) :
    Preserves S env (N []) (GdbAi.removeTracking trackingId) := by
  refine .reading fun definition => ?_
  split
  · exact preserves_fail _
  · refine ((d.events []).storeUnlessFailed (d.events []).storeResult).bind fun _ => ?_
    exact Preserves.bind (d.updates fun _ => .of_core rfl) fun _ => preserves_pure _

/-- Observations are added to the history. -/
lemma recordObservations (observations : List (String × String)) :
    Preserves S env (N []) (GdbAi.recordObservations observations) := by
  induction observations with
  | nil => exact preserves_pure []
  | cons observation observations ih =>
    refine Preserves.bind ?_ fun change => ih.bind fun changes => preserves_pure _
    refine .reading fun definition => ?_
    split
    · exact preserves_pure []
    · refine .reading fun history => ?_
      refine Preserves.bind (d.updates fun _ => .of_core rfl) fun _ => ?_
      split
      · exact preserves_pure _
      · exact preserves_pure []

omit d in
/-- An observation of another stop is refused. -/
lemma requireContext (stopId : StopId) (executionEpoch : ℕ) (subject : String) :
    Preserves S env (N []) (GdbAi.requireContext stopId executionEpoch subject) := by
  refine .reading fun state => ?_
  split
  · exact preserves_pure ()
  · exact preserves_fail _

/-- Observations are recorded. -/
lemma recordTracking (observations : List (String × String)) : Preserves S env (N [])
      (GdbAi.recordTracking observations stopId executionEpoch operation) :=
  d.requireActive.bind fun _ => (requireContext stopId executionEpoch _).bind fun _ =>
    d.recordObservations observations

/-- A snapshot is stored and published. -/
lemma commitSnapshot (content : String) (partialRead publishSnapshot : Bool) :
    Preserves S env (N []) (GdbAi.commitSnapshot content stopId executionEpoch partialRead
      publishSnapshot operation) := by
  refine d.requireActive.bind fun _ => ?_
  refine (requireContext stopId executionEpoch _).bind fun _ => ?_
  refine .reading fun revision => ?_
  refine ((d.events []).storeSnapshotValue _).bind fun snapshot => ?_
  exact (((d.events []).applies _).onlyIf publishSnapshot).bind fun _ => preserves_pure snapshot

omit d in
/-- An operation is looked up. -/
lemma getOperation (operationId : String) :
    Preserves S env (N []) (GdbAi.getOperation operationId) := by
  refine .reading fun operation => ?_
  split
  · exact preserves_pure _
  · exact preserves_fail _

/-- Input of the inferior is recorded and written. -/
lemma writeInferior (bytes : Bytes) : Preserves S env (N []) (GdbAi.writeInferior bytes) :=
  ((d.events []).appends _ rfl).bind fun _ => d.requires _

/-! ### Controls -/

/-- A control that records something. -/
lemma handleRecord {m : Action Unit} (hm : Preserves S env (N []) m) (hw : N [] w) :
    Meets S env (do
      respond (.done (← attempt m))
      observe fun w => w.fatal) (Stops N O) E w := by
  have hend {w' : World} (response : Response) (hw' : N [] w') : Meets S env (do
      respond response
      observe fun w => w.fatal) (Stops N O) E w' := by
    have hN : N [] { w' with responses := w'.responses ++ [response] } :=
      d.frame hw' (.of_core rfl)
    exact meets_update_bind (meets_reads ⟨.inl hN, fun _ => hN⟩)
  exact (hm w hw).attempt_either fun _ _ h => hend _ h

/-- A failed interrupt gets no deadline. -/
lemma stopping_finishInterrupt (hw : Stopping N O w) (hresult : N [] w ∨ result.isOk = false) :
    Meets S env (GdbAi.finishInterrupt result) (fun _ => Stopping N O) E w := by
  rcases hresult with hN | herror
  · exact (d.finishInterrupt hN).mono (fun _ _ h => .inl h) fun _ _ h => h
  · refine meets_reads_bind ?_
    simp only [herror, Bool.false_and, Bool.false_eq_true, if_false]
    exact meets_pure hw

/-- An interrupt between two commands. -/
lemma handleInterrupt (hw : N [] w) :
    Meets S env (GdbAi.handleInterrupt command until_) (Stops N O) E w := by
  have hexecute : Meets S env (do
      GdbAi.requireKnownOutcome command.name
      if until_ ≤ (← ask Environment.clock) then
        fail ⟨.timeout, "interrupt deadline expired while queued", true⟩
      else GdbAi.executeUntil .interrupt command until_) (fun _ => N [])
      (Left N O .interrupt) w := by
    refine (Discipline.requireKnownOutcome S (N []) _ w hw).bind (fun _ w₁ hw₁ => ?_)
      fun _ _ he => .inl he
    refine meets_ask_bind ?_
    have hw₂ := d.frame hw₁ (frame_question w₁)
    split
    · exact meets_fail (.inl hw₂)
    · exact d.executeUntil (by simp) hw₂
  have hend {w' : World} (result : Except Error CommandReply) (hw' : Stopping N O w') :
      Meets S env (do
        respond (.reply result)
        observe fun w => w.fatal) (Stops N O) E w' := by
    refine meets_update_bind (meets_reads ?_)
    rcases hw' with hN | ⟨hO, hfatal⟩
    · have hN' : N [] { w' with responses := w'.responses ++ [.reply result] } :=
        d.frame hN (.of_core rfl)
      exact ⟨.inl hN', fun _ => hN'⟩
    · exact ⟨.inr (d.still_respond hO _), fun h => absurd (hfatal.symm.trans h) (by simp)⟩
  refine hexecute.attempt_bind ?_ ?_
  · intro reply w₁ hw₁
    exact (d.stopping_finishInterrupt (.inl hw₁) (.inl hw₁)).seq fun _ _ h => hend _ h
  · intro error w₁ hleft
    have hstopping : Stopping N O w₁ :=
      hleft.imp_right fun h => ⟨h.1, h.2.1.resolve_right (by simp)⟩
    exact (d.stopping_finishInterrupt hstopping (.inr rfl)).seq fun _ _ h => hend _ h

/-- A cancellation between two commands. -/
lemma cancelIdle (operationId : String) :
    Preserves S env (N []) (GdbAi.cancelIdle operationId) := by
  intro w hw
  refine (d.ownedInterruptCommand operationId hw).seq ?_
  rintro command w₁ ⟨-, hw₁⟩
  have hend {w' : World} (result : Except Error CommandReply) (hw' : N [] w') :
      Meets S env (do
        GdbAi.finishInterrupt result
        let _ ← ofExcept result) (fun _ => N []) (fun _ => N []) w' := by
    refine (d.finishInterrupt hw').seq fun _ w'' hw'' => ?_
    exact (preserves_ofExcept result w'' hw'').seq fun _ _ h => meets_pure h
  have hloud : Site.Loud .cancel := fun _ _ _ => rfl
  exact (d.execute_loud hloud w₁ hw₁).attempt_either fun _ _ h => hend _ h

/-- A close between two commands, which ends the loop when it succeeds. -/
lemma closeIdle {m : Action Unit} (stops : Except Error Unit → Bool)
    (hstops : stops (.ok ()) = true) (hm : Meets S env m (fun _ => O) (fun _ => N []) w) :
    Meets S env (do
      let result ← attempt m
      respond (.done result)
      pure (stops result)) (Stops N O) E w := by
  refine hm.attempt_bind ?_ ?_
  · intro _ w₁ hw₁
    refine meets_update_bind (meets_pure ⟨.inr (d.still_respond hw₁ _), fun h => ?_⟩)
    exact absurd (hstops.symm.trans h) (by simp)
  · intro error w₁ hw₁
    have hN : N [] { w₁ with responses := w₁.responses ++ [.done (.error error)] } :=
      d.frame hw₁ (.of_core rfl)
    exact meets_update_bind (meets_pure ⟨.inl hN, fun _ => hN⟩)

/-- A control between two commands. -/
lemma handleControl (control : ControlRequest) (hw : N [] w) :
    Meets S env (GdbAi.handleControl control) (Stops N O) E w := by
  match control with
  | .recordApi request => exact d.handleRecord ((d.events []).recordApi request) hw
  | .recordOperation operation => exact d.handleRecord (d.recordOperation operation) hw
  | .interrupt command until_ => exact d.handleInterrupt hw
  | .cancelOperation operationId .interruptTarget =>
    exact (d.cancelIdle operationId w hw).attempt_either fun _ _ hw₁ => d.refuse _ hw₁
  | .cancelOperation operationId .closeSession =>
    have hclose : Meets S env (do
        GdbAi.requireActiveResume operationId
        GdbAi.close) (fun _ => O) (fun _ => N []) w :=
      (d.requireActiveResume operationId w hw).seq fun _ _ h => d.closes h
    exact d.closeIdle Except.isOk rfl hclose
  | .close => exact d.closeIdle (fun _ => true) rfl (d.closes hw)

end Discipline

/-! ### Sessions -/

/-- What holds before GDB has started, when there is no worker yet. -/
structure Startup (env : Environment) (N : List ℕ → World → Prop) (S B : World → Prop) :
    Prop where
  safe : ∀ {w}, B w → S w
  frame : ∀ {w w'}, B w → Frame w w' → B w'
  append : ∀ payload : Payload, payload.isEvidence = true →
    Preserves S env B (appendJournal payload)
  event : ∀ event, Preserves S env B (journalEvent event)
  starts : ∀ {w}, B w →
    Meets S env (applyEvent .backendStarted) (fun _ => N []) (fun _ => S) w

namespace Startup

variable {B : World → Prop} (h : Startup env N S B)
include h

/-- A question to the environment. -/
lemma asks (answer : Environment → ℕ → α) : Preserves S env B (ask answer) :=
  preserves_ask fun w hw => h.frame hw (frame_question w)

/-- An input before the prompt. -/
lemma promptInput (input : BackendInput) : Preserves S env B (GdbAi.promptInput input) := by
  cases input with
  | mi raw record =>
    refine (h.append _ rfl).bind fun _ => Preserves.bind ?_ fun _ => preserves_pure _
    cases normalize record with
    | none => exact preserves_pure ()
    | some event => exact (h.event event).bind fun _ => preserves_pure _
  | gdbStderr bytes => exact (h.append _ rfl).bind fun _ => preserves_pure _
  | protocolError error => exact preserves_fail error
  | gdbEof => exact preserves_fail _
  | inferiorPty => exact preserves_pure _

/-- An arrival is taken. -/
lemma nextArrival : Preserves S env B GdbAi.nextArrival := by
  intro w hw
  unfold Meets GdbAi.nextArrival
  cases harrivals : w.arrivals with
  | nil => exact h.safe hw
  | cons arrival arrivals =>
    have hsuffix : arrivals <:+ w.arrivals := by
      rw [harrivals]
      exact List.suffix_cons arrival arrivals
    exact h.frame hw { frame_refl w with arrivals := hsuffix }

/-- One turn of waiting for the prompt. -/
lemma promptTurn : Preserves S env B (GdbAi.promptTurn ()) := by
  refine h.nextArrival.bind fun arrival => ?_
  match arrival with
  | .wake => exact preserves_fail _
  | .backend none => exact preserves_fail _
  | .backend (some input) => exact h.promptInput input
  | .tick => exact preserves_wait fun _ hw => h.safe hw
  | .control _ => exact preserves_wait fun _ hw => h.safe hw
  | .request _ => exact preserves_wait fun _ hw => h.safe hw

/-- The prompt is waited for. -/
lemma waitForPrompt : Preserves S env B GdbAi.waitForPrompt := by
  refine .reading fun turns w hw => ?_
  refine meets_loop (I := fun _ => B) (fun _ w' hw' => ?_) ?_ turns hw
  · refine (h.promptTurn w' hw').mono ?_ fun _ _ he => he
    rintro (_ | _) w'' hw''
    · exact hw''
    · exact hw''
  · exact fun _ w' hw' => h.safe hw'

/-- GDB is started with the first MI version that works. -/
lemma startBackend (versions : List String) (lastError : Option Error) :
    Preserves S env B (GdbAi.startBackend versions lastError) := by
  induction versions generalizing lastError with
  | nil => exact preserves_fail _
  | cons version versions ih =>
    refine Preserves.bind ((h.asks _).bind fun spawned => preserves_ofExcept spawned) fun _ => ?_
    refine h.waitForPrompt.attempt.bind fun prompted => ?_
    cases prompted with
    | ok _ => exact preserves_pure version
    | error error => exact (h.asks _).bind fun _ => ih (some error)

end Startup

namespace Discipline

variable (d : Discipline env admits N O S)
include d

/-- A request between two commands. -/
lemma handleRequest (request : WorkerRequest) (hw : N [] w) :
    Meets S env (GdbAi.handleRequest request) (Stops N O) E w := by
  cases request with
  | command command operation until_ => exact d.handleCommand hw
  | transaction before command after operation until_ =>
    exact d.handleTransaction hw
  | safeEvaluate commands operation until_ =>
    exact d.handleSafeEvaluate hw
  | refreshTargetCapabilities operation until_ => exact d.handleRefresh hw
  | recordEvent event => exact d.answerRequest _ ((d.events []).applies event) hw
  | registerPendingModuleBreakpoint breakpoint =>
    refine (d.registerPendingModuleBreakpoint breakpoint w hw).attempt_bind ?_ ?_
    · exact fun _ w' hw' =>
        meets_update_bind (d.finishRequest (.inl (d.frame hw' (.of_core rfl))))
    · exact fun error w' hw' => d.refuse _ hw'
  | getOperation operationId => exact d.answerRequest _ (Discipline.getOperation operationId) hw
  | flushJournal => exact d.answerRequest _ d.flushCheckpoint hw
  | registerValue binding => exact d.answerRequest _ (d.registerValue binding) hw
  | getValue valueId => exact d.answerRequest _ (Discipline.getValue valueId) hw
  | removeValue valueId => exact d.answerRequest _ (d.removeValue valueId) hw
  | addTracking definition => exact d.answerRequest _ (d.addTracking definition) hw
  | removeTracking trackingId => exact d.answerRequest _ (d.removeTracking trackingId) hw
  | listTracking =>
    exact meets_reads_bind (meets_update_bind (d.finishRequest (.inl (d.frame hw (.of_core rfl)))))
  | recordTracking observations stopId executionEpoch operation =>
    exact d.answerRequest _ (d.recordTracking observations) hw
  | commitSnapshot content stopId executionEpoch partialRead publishSnapshot operation =>
    exact d.answerRequest _
      (d.commitSnapshot content partialRead publishSnapshot) hw
  | writeInferior bytes eof until_ => exact d.answerRequest _ (d.writeInferior bytes) hw

/-! ### The idle loop -/

/-- Breakpoints are rebound between two requests. -/
lemma rebindWhenNeeded (hw : N [] w) :
    Meets S env GdbAi.rebindWhenNeeded (fun _ => N []) E w := by
  refine meets_reads_bind ?_
  split
  · have hN : N [] { w with moduleRebindNeeded := false } := d.frame hw (.of_core rfl)
    exact meets_update_bind ((d.rebindPendingModuleBreakpoints _ hN).attempt_either
      fun _ _ h => meets_pure h)
  · exact meets_pure hw

/-- The worker has failed outside of a command and stops. -/
lemma failAndStop (hw : N [] w) :
    Meets S env (do
      markFailed
      let _ ← ask Environment.shutdown
      pure true : Action Bool) (Stops N O) E w := by
  have hfailed : N [] w.failClosed := (d.events []).failed w hw
  refine meets_update_bind (meets_ask_bind (meets_pure ?_))
  exact ⟨.inl (d.frame hfailed (frame_question _)), fun h => absurd h (by simp)⟩

/-- A tick between two requests. -/
lemma idleTick (hw : N [] w) : Meets S env GdbAi.idleTick (Stops N O) E w :=
  (d.flushCheckpoint w hw).attempt_bind (fun _ _ h => meets_pure ⟨.inl h, fun _ => h⟩)
    fun _ _ h => d.failAndStop h

/-- GDB has gone. -/
lemma idleChannelClosed (hw : N [] w) : Meets S env GdbAi.idleChannelClosed (Stops N O) E w :=
  ((d.events []).applies _ w hw).attempt_either fun _ _ h => d.failAndStop h

/-- A record between two requests. -/
lemma idleRecord (taken : Except Error (Option (MiRecord × ℕ))) (hw : N [] w) :
    Meets S env (GdbAi.idleRecord taken) (fun _ => N []) E w := by
  match taken with
  | .ok (some (record, _)) =>
    refine (d.takeDelayedToken record hw).seq fun delayed w₁ hw₁ => ?_
    cases delayed with
    | none => exact (d.unmatched record w₁ hw₁).attempt_either fun _ _ h => meets_pure h
    | some token =>
      exact ((d.events []).applies _ w₁ hw₁).attempt_either fun _ _ h => meets_pure h
  | .ok none => exact meets_pure hw
  | .error _ => exact meets_pure hw

/-- An input between two requests. -/
lemma idleInput (input : BackendInput) (hw : N [] w) :
    Meets S env (GdbAi.idleInput input) (Stops N O) E w := by
  have hend {w' : World} (taken : Except Error (Option (MiRecord × ℕ))) (hw' : N [] w') :
      Meets S env (do
        GdbAi.idleRecord taken
        GdbAi.finishRequest) (Stops N O) E w' :=
    (d.idleRecord taken hw').seq fun _ _ h => d.finishRequest (.inl h)
  exact ((d.events []).processInput input w hw).attempt_either fun _ _ hw' => hend _ hw'

/-- A deadline between two requests. -/
lemma idleWake (hw : N [] w) : Meets S env GdbAi.idleWake (fun _ => N []) E w :=
  (d.escalateAcknowledgedInterrupt w hw).attempt_bind (fun _ _ h => meets_pure h)
    fun _ w' h => meets_update ((d.events []).failed w' h)

/-- Whatever arrives between two requests. -/
lemma idleArrival (arrival : Arrival) (hw : N [] w) :
    Meets S env (GdbAi.idleArrival arrival) (Stops N O) E w := by
  match arrival with
  | .tick => exact d.idleTick hw
  | .control request =>
    refine meets_reads_bind ?_
    split
    · cases request with
      | some control => exact d.handleControl control hw
      | none =>
        have hN : N [] { w with controlsOpen := false } := d.frame hw (.of_core rfl)
        exact meets_update_bind (meets_pure ⟨.inl hN, fun _ => hN⟩)
    · exact meets_wait ((d.events []).safe w hw)
  | .request none =>
    refine (d.closes hw).attempt_bind ?_ ?_
    · exact fun _ _ h => meets_pure ⟨.inr h, fun h => absurd h (by simp)⟩
    · exact fun _ _ h => meets_pure ⟨.inl h, fun h => absurd h (by simp)⟩
  | .request (some request) => exact d.handleRequest request hw
  | .backend none => exact d.idleChannelClosed hw
  | .backend (some input) => exact d.idleInput input hw
  | .wake =>
    refine meets_reads_bind ?_
    split
    · exact (d.idleWake hw).seq fun _ _ h => meets_pure ⟨.inl h, fun _ => h⟩
    · exact meets_wait ((d.events []).safe w hw)

/-- One turn of the worker's loop. -/
lemma idleTurn (hw : N [] w) :
    Meets S env (GdbAi.idleTurn ()) (fun
      | .inl _ => N []
      | .inr _ => fun w' => N [] w' ∨ O w') E w := by
  refine (d.rebindWhenNeeded hw).seq fun _ w₁ hw₁ => ?_
  refine (d.nextArrival hw₁).seq fun arrival w₂ hw₂ => ?_
  refine (d.idleArrival arrival hw₂.1).seq fun stops w₃ hw₃ => ?_
  cases stops with
  | false => exact meets_pure (hw₃.2 rfl)
  | true => exact meets_pure hw₃.1

/-- The worker runs to its end. -/
lemma run (hw : N [] w) : Meets S env GdbAi.run (fun _ => S) (fun _ => S) w := by
  refine meets_reads_bind (Meets.seq (V := fun _ w' => N [] w' ∨ O w') (E := fun _ => S) ?_
    (fun _ _ h => d.tail h))
  refine meets_loop (I := fun _ => N []) (fun _ w' hw' => ?_) ?_ _ hw
  · refine (d.idleTurn hw').mono ?_ fun _ _ he => he
    rintro (_ | _) w'' hw''
    · exact hw''
    · exact hw''
  · exact fun _ w' hw' => (d.events []).safe w' hw'

/-! ### Startup -/

omit d in
/-- Bare arguments leave the name of a command. -/
lemma name_foldlM_bare (values : List String) {command command' : MiCommand}
    (h : values.foldlM MiCommand.bare command = .ok command') : command'.name = command.name := by
  induction values generalizing command with
  | nil =>
    cases h
    rfl
  | cons value values ih =>
    rw [List.foldlM_cons] at h
    cases hbare : command.bare value with
    | error error =>
      rw [hbare] at h
      cases h
    | ok next =>
      rw [hbare] at h
      have hname : next.name = command.name := by
        unfold MiCommand.bare at hbare
        split at hbare
        · cases hbare
        · cases hbare
          rfl
      exact (ih h).trans hname

omit d in
/-- A command with bare arguments has the given name. -/
lemma name_withBare {name : String} {values : List String} {command : MiCommand}
    (h : MiCommand.withBare name values = .ok command) : command.name = name := by
  unfold MiCommand.withBare at h
  cases hnew : MiCommand.new name with
  | error error =>
    rw [hnew] at h
    cases h
  | ok first =>
    rw [hnew] at h
    have hname : first.name = name := by
      unfold MiCommand.new at hnew
      split at hnew
      · cases hnew
        rfl
      · cases hnew
    exact (name_foldlM_bare values h).trans hname

/-- A command of the handshake that inserts no breakpoint. -/
lemma handshakeCommand {command : Except Error MiCommand}
    (hname : ∀ c, command = .ok c → c.name ≠ "-break-insert") (hw : N [] w) :
    Meets S env (GdbAi.handshakeCommand command) (fun _ => N []) (fun _ => S) w := by
  refine Meets.bind (V := fun c w' => N [] w' ∧ command = .ok c) (E := fun _ => N [])
    (meets_ofExcept (fun c h => ⟨hw, h⟩) fun _ _ => hw) ?_ fun _ w' he => (d.events []).safe w' he
  rintro c w₁ ⟨hw₁, hc⟩
  refine (d.commandDeadline hw₁).bind (fun until_ w₂ hw₂ => ?_) fun _ w' he => he
  exact (d.executeUntil (fun _ => hname c hc) hw₂).mono (fun _ _ h => h)
    fun _ _ h => d.left_safe h

/-- A setting of the handshake. -/
lemma handshakeSetting (values : List String) (hw : N [] w) :
    Meets S env (GdbAi.handshakeCommand (MiCommand.withBare "-gdb-set" values)) (fun _ => N [])
      (fun _ => S) w :=
  d.handshakeCommand (fun c hc => by rw [name_withBare hc]; decide) hw

/-- A probe of the handshake. -/
lemma probeCommand (name : String) (hw : N [] w) :
    Meets S env (GdbAi.probeCommand name) (fun _ => N []) (fun _ => S) w := by
  refine d.handshakeCommand (fun c hc => ?_) hw
  cases hc
  exact (by decide : "-info-gdb-mi-command" ≠ "-break-insert")

omit d in
/-- A command of the handshake whose reply is not used. -/
lemma ignoreReply {m : Action CommandReply} {w : World}
    (hm : Meets S env m (fun _ => N []) (fun _ => S) w) :
    Meets S env (do let _ ← m) (fun _ => N []) (fun _ => S) w :=
  hm.seq fun _ _ h => meets_pure h

/-- The fix of breakpoint scripts is asked for if GDB knows it. -/
lemma fixBreakpointScripts (hw : N [] w) :
    Meets S env GdbAi.fixBreakpointScripts (fun _ => N []) (fun _ => S) w := by
  refine (d.probeCommand _ hw).seq fun reply w₁ hw₁ => ?_
  refine Meets.onlyIf (fun _ => ignoreReply (d.handshakeCommand (fun c hc => ?_) hw₁))
    fun _ => hw₁
  cases hc
  decide

/-- The handshake. -/
lemma handshake (version : String) (ptyPath : Bytes) (hw : N [] w) :
    Meets S env (GdbAi.handshake version ptyPath) (fun _ => N []) (fun _ => S) w := by
  refine Meets.seq (V := fun _ => N []) (E := fun _ => S)
    (Meets.onlyIf (fun _ => d.fixBreakpointScripts hw) fun _ => hw) ?_
  intro _ w₁ hw₁
  refine (meets_forEach (fun setting w' hw' => ignoreReply (d.handshakeSetting setting hw')) _
    hw₁).seq ?_
  intro _ w₂ hw₂
  refine meets_reads_bind ((meets_forEach
    (fun setting w' hw' => ignoreReply (d.handshakeSetting [setting, _] hw')) _ hw₂).seq ?_)
  intro _ w₃ hw₃
  refine (d.handshakeCommand (fun c hc => ?_) hw₃).seq fun _ w₄ hw₄ => ?_
  · cases hc
    decide
  refine (d.handshakeCommand (fun c hc => ?_) hw₄).seq fun reply w₅ hw₅ => ?_
  · cases hc
    decide
  refine meets_update_bind ?_
  have hw₆ : N [] { w₅ with
      moduleOffsetRebinding := moduleRebindingStatus (consoleText reply.streamRecords) } :=
    d.frame hw₅ (.of_core rfl)
  refine (meets_forEach (fun name w' hw' => ignoreReply (d.probeCommand name hw')) _ hw₆).seq ?_
  intro _ w₇ hw₇
  refine ignoreReply (d.handshakeCommand (fun c hc => ?_) hw₇)
  cases hc
  exact (by decide : "-inferior-tty-set" ≠ "-break-insert")

/-- The extension is loaded and probed. -/
lemma loadExtension (extension : Except Error (Option Bytes)) :
    Preserves S env (N []) (GdbAi.loadExtension extension) := by
  have hloud : Site.Loud .extension := fun _ _ _ => rfl
  refine .taking fun source => ?_
  cases source with
  | none => exact preserves_pure ()
  | some source =>
    refine .taking fun _ => (d.execute_loud hloud).attempt.bind fun loaded => ?_
    cases loaded with
    | error _ => exact preserves_pure ()
    | ok _ =>
      exact .taking fun _ => (d.execute_loud hloud).attempt.bind fun _ => preserves_pure _

/-- Every state that a session reaches is one that is asked for. -/
theorem session {B : World → Prop} (hstartup : Startup env N S B) (config : Configuration)
    {arrivals : List Arrival} (hinitial : B (World.initial config arrivals)) :
    S (World.after env config arrivals) := by
  have hsafe {w' : World} (h : N [] w') : S w' := (d.events []).safe w' h
  have hbootstrap {w₀ : World} (hw₀ : B w₀) :
      Meets S env (GdbAi.bootstrap config) (fun _ => N []) (fun _ => S) w₀ := by
    refine (hstartup.startBackend _ none w₀ hw₀).bind (fun version w₁ hw₁ => ?_)
      fun _ _ he => hstartup.safe he
    refine (hstartup.starts hw₁).seq fun _ w₂ hw₂ => ?_
    refine (d.handshake version config.ptyPath hw₂).seq fun _ w₃ hw₃ => ?_
    refine (d.loadExtension config.extension w₃ hw₃).bind (fun _ w₄ hw₄ => ?_)
      fun _ _ he => hsafe he
    exact ((d.events []).checkpoint true w₄ hw₄).mono (fun _ _ h => h) fun _ _ h => hsafe h
  have hsession : Meets S env (GdbAi.session config) (fun _ => S) (fun _ => S)
      (World.initial config arrivals) := by
    refine (hstartup.append _ rfl _ hinitial).bind (fun _ w₁ hw₁ => ?_)
      fun _ _ he => hstartup.safe he
    exact (hbootstrap hw₁).seq fun _ _ h => d.run h
  unfold Meets at hsession
  unfold World.after
  rcases hrun : GdbAi.session config env (World.initial config arrivals) with ⟨_ | _ | _, w'⟩
  all_goals
    rw [hrun] at hsession
    exact hsession

end Discipline

/-! ### Invariants of recording alone -/

namespace Recorder

variable {I : World → Prop} (h : Recorder env S I)
include h

/-- The evidence of the output is published late. -/
lemma finalizeLate : Preserves S env I GdbAi.finalizeLate := by
  refine (h.asks _).bind fun _ => h.finalizeOutputEvidence.attempt.bind fun finalized => ?_
  cases finalized with
  | ok _ => exact preserves_pure ()
  | error _ => exact h.markFailed

/-- The last checkpoint. -/
lemma finalCheckpoint : Preserves S env I GdbAi.finalCheckpoint := by
  refine .reading fun fatal => ?_
  split
  · exact (h.asks _).bind fun _ => preserves_pure _
  · exact (h.checkpoint false).attempt.bind fun _ => preserves_pure _

/-- What a worker does at its end. -/
lemma shutdownTail : Preserves S env I GdbAi.shutdownTail := by
  refine .reading fun late => (h.finalizeLate.onlyIf late).bind fun _ => ?_
  exact h.finalCheckpoint.bind fun _ => h.flush.attempt.bind fun _ => preserves_pure _

/-- A session that keeps its invariant to the end. -/
lemma tail (hw : I w) : Meets S env GdbAi.shutdownTail (fun _ => S) (fun _ => S) w :=
  (h.shutdownTail w hw).mono (fun _ w' h' => h.safe w' h') fun _ w' h' => h.safe w' h'

end Recorder

namespace EventInvariant

variable {I : World → Prop} (h : EventInvariant env S I)
include h

/-- An invariant of recording holds from the start. -/
lemma startup (hN : N [] = I) (hframe : ∀ {w w'}, I w → Frame w w' → I w')
    (hevent : ∀ event, Preserves S env I (journalEvent event)) : Startup env N S I where
  safe hw := h.safe _ hw
  frame := hframe
  append := h.append
  event := hevent
  starts hw := by
    rw [hN]
    exact (h.applyEvent _ _ hw).mono (fun _ _ h => h) fun _ w' hw' => h.safe w' hw'

/-- What recording keeps holds in a whole session, if nothing but the owner of the target's run
matters to it besides. -/
lemma discipline
    (hsame : ∀ {w w' : World}, I w → w'.journal = w.journal → w'.state = w.state →
      w'.diverged = w.diverged → w'.late = w.late → w'.ownership = w.ownership → I w')
    (hstarts : ∀ {w : World} (operationId : Option String), I w → I (w.startResume operationId))
    (hreleases : ∀ {w : World}, I w → I { w with activeResumeOperation := none })
    (hclaims : ∀ {w : World} {operationId : String}, I w →
      w.activeResumeOperation = some operationId → I (w.claim operationId))
    (hfinish : Preserves S env I finishJournal) :
    Discipline env (fun _ => True) (fun _ => I) I S := by
  have hframe {w w' : World} (hw : I w) (hframe : Frame w w') : I w' :=
    hsame hw hframe.journal hframe.state (congrArg Trace.diverged hframe.trace)
      (congrArg Trace.late hframe.trace) hframe.ownership
  exact
    { events := fun _ => h.recorder
      overSafe := fun hw => h.safe _ hw
      frame := hframe
      still := fun hw hstill => hframe hw hstill.toFrame
      admitted := fun _ _ => trivial
      permutes := fun hw _ => hw
      begins := fun _ hw _ _ _ => hsame hw rfl rfl rfl rfl rfl
      answers := fun hw _ => hsame hw rfl rfl rfl rfl rfl
      timesOut := fun hw _ => hsame hw rfl rfl rfl rfl rfl
      delays := fun hw => hsame hw rfl rfl rfl rfl rfl
      leaves := fun _ _ hw => .inl (hsame hw rfl rfl rfl rfl rfl)
      drops := fun _ _ hw _ => hsame hw rfl rfl rfl rfl rfl
      closes := fun hw =>
        h.recorder.close hfinish (fun _ _ hw => hsame hw rfl rfl rfl rfl rfl) _ hw
      leavesClosed := fun _ _ hw => .inl (hsame hw rfl rfl rfl rfl rfl)
      starts := hstarts
      releases := hreleases
      releasesOver := hreleases
      claims := hclaims
      tail := fun hw => h.recorder.tail (hw.elim id id) }

end EventInvariant

end GdbAi
