import GdbAi.Reducer.StopFence

/-!
# Waits and terminal inferiors

A wait compares the current state with the baseline of an earlier one.  What satisfies it happened
after the baseline: the stop, the snapshot's stop and the running edge are events of the run in
between, and an inferior that exited was not terminal at the baseline in the same generation.

An inferior that is terminal stays so until it is removed, its process is replaced or a core is
opened for it, with one exception: a `TargetRunning` that names it makes it run again.
-/

namespace GdbAi

open Runs

/-! ### Terminal inferiors -/

/-- The event starts the inferior at the key anew, removes it or opens a core for it. -/
def DomainEvent.replaces (k : String) : DomainEvent → Bool
  | .inferiorAdded b pid => b = k && pid.isSome
  | .inferiorRemoved b | .coreOpened b => b = k
  | _ => false

/-- The event resumes the inferior at the key. -/
def DomainEvent.resumes (k : String) : DomainEvent → Bool
  | .targetRunning names => names.isEmpty || names.contains k
  | _ => false

namespace SessionState

lemma registerThread_status (seq : ℕ) (thread : String) (i : InferiorState) :
    (registerThread seq thread i).1.status = i.status := by
  unfold registerThread
  split <;> rfl

lemma stopInferior_of_terminal {i : InferiorState} (h : i.status.isTerminal = true) :
    stopInferior i = i := if_pos h

/-- A terminal inferior that is not replaced stays terminal exactly when it is not resumed. -/
lemma update_terminal (s : SessionState) {k : String} {e : DomainEvent} {i : InferiorState}
    (hi : i.status.isTerminal = true) (hreplaces : e.replaces k = false) :
    (s.update k e i).status.isTerminal = !e.resumes k := by
  cases e with
  | backendExited status =>
    have hsurvives : i.status.survivesFailure = true := by
      simp [InferiorStatus.survivesFailure, hi]
    simp only [update, hsurvives, if_true]
    exact hi
  | inferiorAdded b pid =>
    simp only [update]
    split
    · rename_i hk
      have hpid : pid = none := by simpa [DomainEvent.replaces, hk] using hreplaces
      subst hpid
      exact hi
    · exact hi
  | inferiorExited b exitCode fromStop =>
    simp only [update]
    split
    · unfold exitProcess
      cases s.losesConnection k exitCode fromStop <;> rfl
    · exact hi
  | targetRunning names =>
    simp only [update, DomainEvent.resumes]
    split
    · rename_i hnamed
      rw [hnamed]
      rfl
    · rename_i hnamed
      rw [Bool.eq_false_iff.mpr hnamed, hi]
      rfl
  | targetStopped b t reason detail frame =>
    simp only [update, stopInferior_of_terminal hi]
    split
    · split <;> exact hi
    · exact hi
  | threadCreated b thread =>
    simp only [update]
    split
    · rw [registerThread_status]
      exact hi
    · exact hi
  | threadExited b thread =>
    simp only [update]
    split <;> exact hi
  | targetDisconnected => rfl
  | targetDetached => rfl
  | coreOpened b =>
    have hk : b ≠ k := by simpa [DomainEvent.replaces] using hreplaces
    simp only [update, if_neg hk]
    exact hi
  | _ => exact hi

/-- An inferior that is terminal and is neither replaced nor removed stays terminal exactly when no
`TargetRunning` resumes it. -/
theorem terminal_stays_terminal (s s' : SessionState) (journaled : ℕ × DomainEvent) (k : String)
    (i : InferiorState) (hstep : s.Applies journaled s') (hi : s.inferiors[k]? = some i)
    (hterminal : i.status.isTerminal = true) (hreplaces : journaled.2.replaces k = false) :
    (∃ i', s'.inferiors[k]? = some i' ∧ i'.status.isTerminal = true) ↔
      journaled.2.resumes k = false := by
  obtain ⟨-, revision, rfl⟩ := hstep.reduce
  set t := { s with eventSeq := journaled.1 } with ht
  have hkept : journaled.2 ≠ .inferiorRemoved k := by
    intro heq
    rw [heq] at hreplaces
    simp [DomainEvent.replaces] at hreplaces
  have hlookup : (t.reduce journaled.2).1.inferiors[k]? = some (t.update k journaled.2 i) := by
    rw [t.reduce_getElem? _ k hkept]
    have hat : t.inferiors[k]? = some i := hi
    split
    · rw [inferiorAt_eq hat, Option.map_some]
    · rw [hat, Option.map_some]
  have hstatus := t.update_terminal hterminal hreplaces
  constructor
  · rintro ⟨i', hi', hterminal'⟩
    obtain rfl := Option.some.inj (hlookup.symm.trans hi')
    rw [hstatus] at hterminal'
    simpa using hterminal'
  · intro hresumes
    refine ⟨_, hlookup, ?_⟩
    rw [hstatus, hresumes]
    rfl

/-- The only inferior of a session has exited. -/
def exitedSession : SessionState :=
  { ({ creating ⟨"sess_x"⟩ with eventSeq := 1 }.reduce
      (.inferiorExited (some "i1") (some "0") false)).1 with revision := 1 }

lemma applies_exitedSession : (creating ⟨"sess_x"⟩).Applies
    (1, .inferiorExited (some "i1") (some "0") false) exitedSession := ⟨true, rfl⟩

lemma exitedSession_inferior : ∃ i, exitedSession.inferiors["i1"]? = some i ∧
    i.status.isTerminal = true := by
  have hlookup := { creating ⟨"sess_x"⟩ with eventSeq := 1 }.reduce_getElem?
    (.inferiorExited (some "i1") (some "0") false) "i1" (by simp)
  exact ⟨_, hlookup, rfl⟩

/-- A stop that names no inferior leaves the exited one terminal. -/
theorem exited_stays_exited : ∃ i', ({ exitedSession with eventSeq := 2 }.reduce
    (.targetStopped none none "signal-received" none none)).1.inferiors["i1"]? = some i' ∧
      i'.status.isTerminal = true := by
  obtain ⟨i, hi, hterminal⟩ := exitedSession_inferior
  exact (terminal_stays_terminal exitedSession _
    (2, .targetStopped none none "signal-received" none none) "i1" i ⟨true, rfl⟩ hi hterminal
    rfl).mpr rfl

/-- A `TargetRunning` with an empty list of groups revives the exited inferior: the session is
reported as running again. -/
theorem exited_revived_by_running : exitedSession.Reachable ∧
    (∃ i, exitedSession.inferiors["i1"]? = some i ∧ i.status = .exited) ∧
    ∃ s', exitedSession.Applies (2, .targetRunning []) s' ∧
      (∃ i', s'.inferiors["i1"]? = some i' ∧ i'.status = .running) ∧ s'.isRunning = true := by
  refine ⟨⟨_, _, .cons applies_exitedSession (.nil _)⟩, ?_, _, ⟨true, rfl⟩, ?_, ?_⟩
  · exact ⟨_, rfl, rfl⟩
  · exact ⟨_, rfl, rfl⟩
  · decide +kernel

end SessionState

/-! ### Waits -/

/-- What a wait compares the current state with. -/
structure WaitBaseline where
  eventSeq : ℕ
  executionEpoch : ℕ
  stopId : Option StopId
  terminalInferiors : List String
  terminalInferiorGenerations : Registry ℕ

/-- The baseline of a state. -/
def WaitBaseline.from_ (state : SessionState) : WaitBaseline :=
  let terminal := state.inferiors.filter fun _ inferior => inferior.status.isTerminal
  { eventSeq := state.eventSeq
    executionEpoch := state.executionEpoch
    stopId := state.stopId
    terminalInferiors := terminal.keys
    terminalInferiorGenerations := terminal.map fun _ inferior => inferior.generation }

/-- What a wait is for. -/
inductive WaitUntil where
  | running | stopped | settled | snapshot | exited
  deriving DecidableEq, Repr

namespace SessionState

/-- A stop that the baseline does not have. -/
def stoppedAfter (s : SessionState) (baseline : Option WaitBaseline) : Bool :=
  (baseline.all fun baseline => s.eventSeq > baseline.eventSeq) && s.stopId.isSome &&
    (baseline.all fun baseline => s.stopId ≠ baseline.stopId) &&
    s.inferiors.anyEntry fun _ inferior => inferior.status = .stopped

/-- The first terminal inferior that was not terminal in the same generation at the baseline. -/
def terminalAfter (s : SessionState) (baseline : Option WaitBaseline) : Option InferiorState :=
  (s.inferiors.first fun backendId inferior =>
    inferior.status.isTerminal && baseline.all fun baseline =>
      match baseline.terminalInferiorGenerations[backendId]? with
      | none => !baseline.terminalInferiors.contains backendId
      | some generation => generation ≠ inferior.generation).map Prod.snd

def exitedAfter (s : SessionState) (baseline : Option WaitBaseline) : Bool :=
  (s.terminalAfter baseline).isSome

/-- What settles a target: a stop, or else an exit. -/
def settledBy (s : SessionState) (baseline : Option WaitBaseline) : Option String :=
  if s.stoppedAfter baseline then some "stopped"
  else if s.exitedAfter baseline then some "exited"
  else none

/-- Whether a state satisfies a wait. -/
def waitSatisfied (s : SessionState) (until_ : WaitUntil) (baseline : Option WaitBaseline) : Bool :=
  let afterBaseline := baseline.all fun baseline => s.eventSeq > baseline.eventSeq
  match until_ with
  | .running =>
    match baseline with
    | none => s.isRunning
    | some baseline => s.executionEpoch > baseline.executionEpoch
  | .stopped => s.stoppedAfter baseline
  | .settled => (s.settledBy baseline).isSome
  | .snapshot => s.snapshot.any fun snapshot =>
      afterBaseline && snapshot.status = .ready &&
        baseline.all fun baseline => some snapshot.stopId ≠ baseline.stopId
  | .exited => s.exitedAfter baseline

/-! ### Evidence -/

/-- A step of the run turns the property true. -/
def BecomesTrue (P : SessionState → Prop) (b : SessionState) (es : List (ℕ × DomainEvent))
    (s : SessionState) (Q : ℕ × DomainEvent → Prop) : Prop :=
  ∃ es₁ journaled es₂ s₁ s₂, es = es₁ ++ journaled :: es₂ ∧ Run Applies b es₁ s₁ ∧
    s₁.Applies journaled s₂ ∧ Run Applies s₂ es₂ s ∧ ¬ P s₁ ∧ P s₂ ∧ Q journaled

/-- A `TargetStopped` of the run created the stop. -/
def StopCreated (b : SessionState) (es : List (ℕ × DomainEvent)) (s : SessionState) (id : StopId) :
    Prop :=
  BecomesTrue (fun s => s.stopId = some id) b es s fun journaled =>
    id = StopId.fromEvent b.sessionId journaled.1 ∧
      ∃ inferior thread reason detail frame,
        journaled.2 = .targetStopped inferior thread reason detail frame

/-- The inferior at the key is terminal. -/
def TerminalAt (k : String) (s : SessionState) : Prop :=
  ∃ i, s.inferiors[k]? = some i ∧ i.status.isTerminal = true

/-- The inferior at the key was absent, not terminal or of another generation at the baseline. -/
def NotTerminalYet (b : SessionState) (k : String) (i : InferiorState) : Prop :=
  ∀ old, b.inferiors[k]? = some old → old.status.isTerminal = true → old.generation ≠ i.generation

/-- Some inferior is terminal that was not so at the baseline: it became terminal in the run. -/
def ExitSeen (b : SessionState) (es : List (ℕ × DomainEvent)) (s : SessionState) : Prop :=
  ∃ k i, s.inferiors[k]? = some i ∧ i.status.isTerminal = true ∧ NotTerminalYet b k i ∧
    BecomesTrue (TerminalAt k) b es s fun _ => True

/-- A stop that the state has not is created by a `TargetStopped`. -/
lemma Applies.stopCreated {s s' : SessionState} {journaled : ℕ × DomainEvent}
    (h : s.Applies journaled s') {id : StopId} (hs : s.stopId ≠ some id)
    (hs' : s'.stopId = some id) :
    id = StopId.fromEvent s.sessionId journaled.1 ∧
      ∃ inferior thread reason detail frame,
        journaled.2 = .targetStopped inferior thread reason detail frame := by
  obtain ⟨-, revision, rfl⟩ := h.reduce
  have heffect := { s with eventSeq := journaled.1 }.reduce_stop journaled.2
  cases heffect with
  | kept context _ _ _ _ =>
    have hkept := congrArg StopContext.stopId context
    exact absurd (hkept.symm.trans hs') hs
  | cleared context _ =>
    have hnone := congrArg StopContext.stopId context
    cases hnone.symm.trans hs'
  | set stopId _ stopped =>
    exact ⟨Option.some.inj (hs'.symm.trans stopId), stopped⟩

variable {b s : SessionState} {es : List (ℕ × DomainEvent)}

/-- A stop that the baseline does not have was created after it. -/
lemma run_stopCreated (h : Run Applies b es s) {id : StopId} (hb : b.stopId ≠ some id)
    (hs : s.stopId = some id) : StopCreated b es s id := by
  obtain ⟨es₁, journaled, es₂, s₁, s₂, rfl, hrun, hstep, hrest, hs₁, hs₂⟩ :=
    h.exists_change (P := fun s => s.stopId = some id) hb hs
  have hcreated := hstep.stopCreated hs₁ hs₂
  rw [(run_identity hrun).1] at hcreated
  exact ⟨es₁, journaled, es₂, s₁, s₂, rfl, hrun, hstep, hrest, hs₁, hs₂, hcreated⟩

/-- Clearing the stop leaves the inferiors, so the edge is seen in the result. -/
lemma resume_executionEpoch (s : SessionState) (names : List String) :
    (s.resume names).1.executionEpoch =
      if !s.isRunning && (s.resume names).1.isRunning then s.executionEpoch + 1
      else s.executionEpoch := rfl

/-- The epoch changes only on the edge from no running inferior to some. -/
lemma reduce_executionEpoch (s : SessionState) (e : DomainEvent) :
    (s.reduce e).1.executionEpoch = s.executionEpoch ∨
      (s.isRunning = false ∧ (s.reduce e).1.isRunning = true) := by
  cases ht : e.isTargetEvent with
  | false => exact .inl (congrArg Target.executionEpoch (s.reduce_target ht))
  | true =>
    cases e with
    | targetRunning names =>
      have hepoch := s.resume_executionEpoch names
      split at hepoch
      · rename_i hedge
        rw [Bool.and_eq_true, Bool.not_eq_true'] at hedge
        exact .inr hedge
      · exact .inl hepoch
    | inferiorRemoved _ | inferiorExited _ _ _ | threadCreated _ _ | threadExited _ _ =>
      simp only [reduce, removeInferior, exitInferior, createThread, exitThread]
      repeat' split
      all_goals exact .inl rfl
    | backendExited _ | targetStopped _ _ _ _ _ | inferiorAdded _ _ | targetDisconnected
    | targetDetached | coreOpened _ => exact .inl rfl
    | _ => simp [DomainEvent.isTargetEvent] at ht

/-- A later epoch than the baseline's comes from a running edge after it. -/
lemma run_runningEdge (h : Run Applies b es s) (hepoch : b.executionEpoch < s.executionEpoch) :
    BecomesTrue (fun s => s.isRunning = true) b es s fun _ => True := by
  obtain ⟨es₁, journaled, es₂, s₁, s₂, rfl, hrun, hstep, hrest, hs₁, hs₂⟩ :=
    h.exists_change (P := fun s => b.executionEpoch < s.executionEpoch) (lt_irrefl _) hepoch
  obtain ⟨-, revision, rfl⟩ := hstep.reduce
  rcases { s₁ with eventSeq := journaled.1 }.reduce_executionEpoch journaled.2 with
    hsame | ⟨hidle, hrunning⟩
  · have hlater : b.executionEpoch < s₁.executionEpoch := hsame ▸ hs₂
    exact absurd hlater hs₁
  · have hbefore : s₁.isRunning = false := hidle
    exact ⟨es₁, journaled, es₂, s₁, _, rfl, hrun, hstep, hrest, by simp [hbefore], hrunning, trivial⟩

variable {k : String}

/-- A process that replaces a terminal inferior is not terminal. -/
lemma addProcess_terminal {session : SessionId} {seq : ℕ} {pid : Option ℕ} {i : InferiorState}
    (hi : i.status.isTerminal = true)
    (h : (addProcess session seq k pid i).status.isTerminal = true) :
    (addProcess session seq k pid i).generation = i.generation := by
  cases pid with
  | none => rfl
  | some pid =>
    simp only [addProcess, Option.isSome_some, hi, Bool.or_true, Bool.and_true, if_true] at h
    cases h

/-- An event that leaves an inferior terminal leaves its generation. -/
lemma InferiorStep.generation {s : SessionState} {e : DomainEvent} {i i' : InferiorState}
    (h : InferiorStep s k e i i') (hi : i.status.isTerminal = true)
    (hi' : i'.status.isTerminal = true) : i'.generation = i.generation := by
  cases h with
  | process _ => exact addProcess_terminal hi hi'
  | stop _ => rw [stopInferior_of_terminal hi]
  | stopThread _ frame thread =>
    rw [stopInferior_of_terminal hi] at hi' ⊢
    rfl
  | createThread _ =>
    unfold registerThread
    split <;> rfl
  | same _ _ | status _ _ _ | resume _ | exitThread _ _ => rfl

/-- A step between two states in which the inferior is terminal keeps its generation. -/
lemma Applies.generation {s s' : SessionState} {journaled : ℕ × DomainEvent}
    (h : s.Applies journaled s') {i i' : InferiorState} (hi : s.inferiors[k]? = some i)
    (hi' : s'.inferiors[k]? = some i') (hterminal : i.status.isTerminal = true)
    (hterminal' : i'.status.isTerminal = true) : i'.generation = i.generation := by
  obtain ⟨-, revision, rfl⟩ := h.reduce
  rcases { s with eventSeq := journaled.1 }.reduce_inferior journaled.2 k with
    ⟨hnone, -⟩ | ⟨j, hj, hstep⟩
  · cases hnone.symm.trans hi'
  · obtain rfl := Option.some.inj (hj.symm.trans hi')
    have hat : { s with eventSeq := journaled.1 }.inferiors[k]? = some i := hi
    rw [inferiorAt_eq hat] at hstep
    exact hstep.generation hterminal hterminal'

/-- A terminal inferior that was not so at the baseline became terminal after it. -/
lemma run_becomesTerminal (h : Run Applies b es s) {i : InferiorState}
    (hi : s.inferiors[k]? = some i) (hterminal : i.status.isTerminal = true)
    (hyet : NotTerminalYet b k i) : BecomesTrue (TerminalAt k) b es s fun _ => True := by
  -- the last generation is what turns terminal; the inferior is not terminal just before
  obtain ⟨es₁, journaled, es₂, s₁, s₂, rfl, hrun, hstep, hrest, hs₁, i₂, hi₂, hterminal₂, hgen⟩ :=
    h.exists_change (P := fun s => ∃ j, s.inferiors[k]? = some j ∧ j.status.isTerminal = true ∧
      j.generation = i.generation)
      (fun ⟨old, hold, hterminal, hgen⟩ => hyet old hold hterminal hgen) ⟨i, hi, hterminal, rfl⟩
  refine ⟨es₁, journaled, es₂, s₁, s₂, rfl, hrun, hstep, hrest, ?_, ⟨i₂, hi₂, hterminal₂⟩, trivial⟩
  rintro ⟨i₁, hi₁, hterminal₁⟩
  have hsame := hstep.generation hi₁ hi₂ hterminal₁ hterminal₂
  exact hs₁ ⟨i₁, hi₁, hterminal₁, hsame.symm.trans hgen⟩

/-! ### The wait predicates against the baseline of a state -/

/-- What the baseline knows of the inferior at a key. -/
lemma baseline_generation (b : SessionState) (k : String) :
    (WaitBaseline.from_ b).terminalInferiorGenerations[k]? =
      (b.inferiors[k]?.filter fun i => i.status.isTerminal).map fun i => i.generation := by
  unfold WaitBaseline.from_
  rw [Registry.getElem?_map, Registry.getElem?_filter]

lemma stopCreated_of_stoppedAfter (h : Run Applies b es s)
    (hwait : s.stoppedAfter (some (.from_ b)) = true) :
    ∃ id, s.stopId = some id ∧ StopCreated b es s id := by
  unfold stoppedAfter at hwait
  simp only [Option.all_some, Bool.and_eq_true, decide_eq_true_eq] at hwait
  obtain ⟨⟨⟨-, hsome⟩, hother⟩, -⟩ := hwait
  obtain ⟨id, hid⟩ := Option.isSome_iff_exists.mp hsome
  have hb : b.stopId ≠ some id := by
    intro hb
    exact hother (hid.trans hb.symm)
  exact ⟨id, hid, run_stopCreated h hb hid⟩

lemma exitSeen_of_exitedAfter (h : Run Applies b es s)
    (hwait : s.exitedAfter (some (.from_ b)) = true) : ExitSeen b es s := by
  unfold exitedAfter terminalAfter at hwait
  rw [Option.isSome_map] at hwait
  obtain ⟨⟨k, i⟩, hfirst⟩ := Option.isSome_iff_exists.mp hwait
  obtain ⟨hi, hp⟩ := Registry.first_eq_some hfirst
  rw [Bool.and_eq_true, Option.all_some, baseline_generation] at hp
  obtain ⟨hterminal, hnew⟩ := hp
  have hyet : NotTerminalYet b k i := by
    intro old hold hterminal hgen
    simp [hold, Option.filter_some, hterminal, hgen] at hnew
  exact ⟨k, i, hi, hterminal, hyet, run_becomesTerminal h hi hterminal hyet⟩

lemma of_settledBy {s : SessionState} {baseline : Option WaitBaseline} {word : String}
    (h : s.settledBy baseline = some word) :
    (word = "stopped" ∧ s.stoppedAfter baseline = true) ∨
      (word = "exited" ∧ s.exitedAfter baseline = true) := by
  unfold settledBy at h
  split at h
  · rename_i hstopped
    exact .inl ⟨(Option.some.inj h).symm, hstopped⟩
  split at h
  · rename_i _ hexited
    exact .inr ⟨(Option.some.inj h).symm, hexited⟩
  · cases h

/-- Waits are satisfied only by evidence after their baseline: the stop and the stop of a ready
snapshot were created by a `TargetStopped` of the run from the baseline, a running wait has seen
the edge to a running inferior, and an exit wait has seen an inferior become terminal that was
absent, not terminal or of another generation. -/
theorem wait_needs_later_evidence (session : SessionId) (es₀ es : List (ℕ × DomainEvent))
    (b s : SessionState) (h₀ : Run Applies (creating session) es₀ b) (h : Run Applies b es s) :
    let satisfied := fun until_ => s.waitSatisfied until_ (some (.from_ b))
    (satisfied .stopped = true → ∃ id, s.stopId = some id ∧ StopCreated b es s id) ∧
    (satisfied .snapshot = true → ∃ sn, s.snapshot = some sn ∧ sn.status = .ready ∧
      s.stopId = some sn.stopId ∧ StopCreated b es s sn.stopId) ∧
    (satisfied .running = true → BecomesTrue (fun s => s.isRunning = true) b es s fun _ => True) ∧
    (satisfied .exited = true → ExitSeen b es s) ∧
    (satisfied .settled = true →
      (s.settledBy (some (.from_ b)) = some "stopped" ∧
        ∃ id, s.stopId = some id ∧ StopCreated b es s id) ∨
      (s.settledBy (some (.from_ b)) = some "exited" ∧ ExitSeen b es s)) := by
  intro satisfied
  refine ⟨fun hwait => ?_, fun hwait => ?_, fun hwait => ?_, fun hwait => ?_, fun hwait => ?_⟩
  · exact stopCreated_of_stoppedAfter h hwait
  · obtain ⟨sn, hsn, hready⟩ := (Option.any_eq_true _ _).mp hwait
    simp only [Option.all_some, Bool.and_eq_true, decide_eq_true_eq] at hready
    obtain ⟨⟨-, hready⟩, hother⟩ := hready
    have hstop : s.stopId = some sn.stopId :=
      (((coherent_creating session).run h₀).run h).snapshot sn hsn
    exact ⟨sn, hsn, hready, hstop, run_stopCreated h (Ne.symm hother) hstop⟩
  · exact run_runningEdge h (of_decide_eq_true hwait)
  · exact exitSeen_of_exitedAfter h hwait
  · obtain ⟨word, hword⟩ := Option.isSome_iff_exists.mp hwait
    rcases of_settledBy hword with ⟨rfl, hstopped⟩ | ⟨rfl, hexited⟩
    · exact .inl ⟨hword, stopCreated_of_stoppedAfter h hstopped⟩
    · exact .inr ⟨hword, exitSeen_of_exitedAfter h hexited⟩

/-- A breakpoint stop satisfies a wait from before it, and was created by the event in between. -/
theorem wait_for_breakpoint :
    stoppedSession.waitSatisfied .stopped (some (.from_ (creating ⟨"sess_x"⟩))) = true ∧
      ∃ id, stoppedSession.stopId = some id ∧ StopCreated (creating ⟨"sess_x"⟩)
        [(1, .targetStopped (some "i1") (some "1") "breakpoint-hit" none none)] stoppedSession id := by
  have hwait : stoppedSession.waitSatisfied .stopped (some (.from_ (creating ⟨"sess_x"⟩))) = true := by
    decide +kernel
  have hevidence := wait_needs_later_evidence ⟨"sess_x"⟩ _ _ _ _ (.nil _)
    (.cons applies_stoppedSession (.nil _))
  exact ⟨hwait, hevidence.1 hwait⟩

end SessionState

end GdbAi
