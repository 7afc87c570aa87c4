import GdbAi.Reducer.Invariants

/-!
# The registries and the stop context of every reachable state

Beyond what `Coherent` says of the stop and of the running inferiors, the parts of a stop context
come and go together, every entry of a registry is stored under its own identifier, and no thread
of a stopped inferior is marked as running.
-/

namespace GdbAi

open Runs

namespace SessionState

/-- An inferior under its key: it and its threads are stored under their own identifiers, and if
it is stopped then no thread runs. -/
structure Settled (k : String) (i : InferiorState) : Prop where
  key : i.backendId = k
  threads : Registry.All (fun t thread => thread.backendId = t) i.threads
  halted : i.status = .stopped → Registry.All (fun _ thread => thread.running = false) i.threads

/-- The parts of a stop context are all there or all missing, and every registry stores its entries
under their own identifiers. -/
structure Filed (s : SessionState) : Prop where
  inferiors : Registry.All Settled s.inferiors
  breakpoints : Registry.All (fun k breakpoint => breakpoint.backendNumber = k) s.breakpoints
  modules : Registry.All (fun k module => module.id = k) s.modules
  context : s.stopId.isSome = true →
    s.stopReason.isSome ∧ s.stopReasonDetail.isSome ∧ s.stoppedInferiorId.isSome

lemma filed_creating (session : SessionId) : (creating session).Filed where
  inferiors := Registry.All.empty
  breakpoints := Registry.All.empty
  modules := Registry.All.empty
  context h := absurd h Bool.false_ne_true

/-! ### Inferiors -/

lemma settled_fresh (session : SessionId) (seq : ℕ) (k : String) :
    Settled k (freshInferior session seq k) where
  key := rfl
  threads := Registry.All.empty
  halted _ := Registry.All.empty

variable {k : String} {i : InferiorState}

/-- Another status than stopped. -/
lemma Settled.withStatus (h : Settled k i) {status : InferiorStatus} (exitCode : Option String)
    (hstatus : status ≠ .stopped) :
    Settled k { i with status := status, exitCode := exitCode } where
  key := h.key
  threads := h.threads
  halted hstopped := absurd hstopped hstatus

lemma Settled.addProcess {k : String} {i : InferiorState} (h : Settled k i) (session : SessionId)
    (seq : ℕ) (pid : Option ℕ) : Settled k (addProcess session seq k pid i) := by
  unfold GdbAi.addProcess
  simp only
  have hbase : ∀ {base : InferiorState}, Settled k base → Settled k
      (if (pid.isSome && decide (({ base with pid := pid } : InferiorState).status = .empty)) = true
        then { base with pid := pid, status := .connecting } else { base with pid := pid }) := by
    intro base hsettled
    split
    · exact ⟨hsettled.key, hsettled.threads, fun hstopped => by cases hstopped⟩
    · exact ⟨hsettled.key, hsettled.threads, hsettled.halted⟩
  split
  · exact hbase (settled_fresh session seq k)
  · exact hbase h

/-- A change of the threads that keeps their identifiers. -/
lemma Settled.mapThreads (h : Settled k i) {f : ThreadState → ThreadState}
    (hf : ∀ thread, (f thread).backendId = thread.backendId) :
    Registry.All (fun t thread => thread.backendId = t) (i.threads.map fun _ thread => f thread) := by
  intro t thread ht
  rw [Registry.getElem?_map, Option.map_eq_some_iff] at ht
  obtain ⟨known, hknown, rfl⟩ := ht
  rw [hf]
  exact h.threads t known hknown

lemma Settled.resume (h : Settled k i) : Settled k (resumeInferior i) where
  key := h.key
  threads := h.mapThreads fun _ => rfl
  halted hstopped := by cases hstopped

lemma Settled.stop (h : Settled k i) : Settled k (stopInferior i) := by
  unfold stopInferior
  split
  · exact h
  · refine ⟨h.key, h.mapThreads fun _ => rfl, fun _ t thread ht => ?_⟩
    rw [Registry.getElem?_map, Option.map_eq_some_iff] at ht
    obtain ⟨known, -, rfl⟩ := ht
    rfl

lemma Settled.stopThread {k : String} {i : InferiorState} (h : Settled k i) (seq : ℕ)
    (frame : Option FrameSummary) (thread : String) :
    Settled k (stopThread seq frame thread i).1 where
  key := h.key
  threads := h.threads.insert rfl
  halted hstopped := (h.halted hstopped).insert rfl

/-- A thread is registered as running exactly if its inferior runs. -/
lemma Settled.registerThread {k : String} {i : InferiorState} (h : Settled k i) (seq : ℕ)
    (thread : String) : Settled k (registerThread seq thread i).1 := by
  have hrunning : i.status = .stopped → decide (i.status = .running) = false := by
    intro hstopped
    rw [hstopped]
    rfl
  unfold GdbAi.SessionState.registerThread
  split
  · rename_i known hknown
    refine ⟨h.key, h.threads.insert (h.threads thread known hknown), fun hstopped => ?_⟩
    exact (h.halted hstopped).insert (hrunning hstopped)
  · refine ⟨h.key, h.threads.insert rfl, fun hstopped => ?_⟩
    exact (h.halted hstopped).insert (hrunning hstopped)

variable {s : SessionState}

/-- Every event keeps the inferiors settled. -/
lemma Settled.update (h : Settled k i) (e : DomainEvent) : Settled k (s.update k e i) := by
  cases e with
  | backendExited status =>
    simp only [SessionState.update]
    split
    · exact h
    · exact h.withStatus i.exitCode (by decide)
  | inferiorAdded b pid =>
    simp only [SessionState.update]
    split
    · rename_i hk
      subst hk
      exact h.addProcess _ _ _
    · exact h
  | inferiorExited b exitCode fromStop =>
    simp only [SessionState.update]
    split
    · exact h.withStatus _ (by split <;> decide)
    · exact h
  | targetRunning names =>
    simp only [SessionState.update]
    split
    · exact h.resume
    · exact h
  | targetStopped b t reason detail frame =>
    simp only [SessionState.update]
    split
    · split
      · exact h.stop.stopThread _ _ _
      · exact h.stop
    · exact h.stop
  | threadCreated b thread =>
    simp only [SessionState.update]
    split
    · exact h.registerThread _ _
    · exact h
  | threadExited b thread =>
    simp only [SessionState.update]
    split
    · exact ⟨h.key, h.threads.erase _, fun hstopped => (h.halted hstopped).erase _⟩
    · exact h
  | targetDisconnected => exact h.withStatus i.exitCode (by decide)
  | targetDetached => exact h.withStatus i.exitCode (by decide)
  | coreOpened b =>
    simp only [SessionState.update]
    split
    · exact h.withStatus i.exitCode (by decide)
    · exact h
  | _ => exact h

lemma settled_reduce (h : Registry.All Settled s.inferiors) (e : DomainEvent) :
    Registry.All Settled (s.reduce e).1.inferiors := by
  intro k i hi
  by_cases hremoved : e = .inferiorRemoved k
  · subst hremoved
    rw [reduce_getElem?_removed] at hi
    cases hi
  rw [s.reduce_getElem? e k hremoved, Option.map_eq_some_iff] at hi
  obtain ⟨before, hbefore, rfl⟩ := hi
  refine Settled.update ?_ e
  split at hbefore
  · obtain rfl := Option.some.inj hbefore
    unfold inferiorAt
    cases hk : s.inferiors[k]? with
    | none => exact settled_fresh _ _ k
    | some i => exact h k i hk
  · exact h k before hbefore

/-! ### Breakpoints and modules -/

/-- Every event keeps breakpoints and modules under their own identifiers. -/
lemma breakpoints_modules_reduce
    (h : Registry.All (fun k breakpoint => breakpoint.backendNumber = k) s.breakpoints)
    (h' : Registry.All (fun k module => module.id = k) s.modules) (e : DomainEvent) :
    Registry.All (fun k breakpoint => breakpoint.backendNumber = k) (s.reduce e).1.breakpoints ∧
      Registry.All (fun k module => module.id = k) (s.reduce e).1.modules := by
  cases e with
  | breakpointCreated | breakpointModified => exact ⟨h.insert rfl, h'⟩
  | breakpointDeleted number => exact ⟨h.erase number, h'⟩
  | breakpointLocations number locations =>
    refine ⟨fun k breakpoint hk => ?_, h'⟩
    have hlookup : (s.breakpoints.modify number fun known =>
        { known with locations := locations })[k]? = some breakpoint := hk
    rw [Registry.getElem?_modify] at hlookup
    split at hlookup
    · rename_i hkey
      obtain ⟨known, hknown, rfl⟩ := Option.map_eq_some_iff.mp hlookup
      exact hkey ▸ h number known hknown
    · exact h k breakpoint hlookup
  | breakpointRebound id old new enabled address =>
    exact ⟨((h.erase old).erase new).insert rfl, h'⟩
  | libraryLoaded => exact ⟨h, h'.insert rfl⟩
  | libraryUnloaded id => exact ⟨h, h'.erase id⟩
  | commandOutcomeUnknown | consistencyDirty | unknownBackendNotification | consistencyRestored
  | commandOutcomeResolved | snapshotStarted | snapshotReady | snapshotFailed | inferiorRemoved
  | inferiorExited | threadCreated | threadExited | consistencyReconciling =>
    simp only [reduce, markDirty, limit, restoreConsistency, removeInferior, exitInferior,
      createThread, exitThread]
    repeat' split
    all_goals exact ⟨h, h'⟩
  | _ => exact ⟨h, h'⟩

/-! ### The stop context -/

/-- A new stop has a reason, its detail and an inferior. -/
lemma context_stop (s : SessionState) (b t : Option String) (reason : String)
    (detail : Option StopReason) (frame : Option FrameSummary) :
    let s' := s.stop b t reason detail frame
    s'.stopReason.isSome ∧ s'.stopReasonDetail.isSome ∧ s'.stoppedInferiorId.isSome := by
  intro s'
  have hdetail : (detail <|> some (StopReason.unknown reason)).isSome = true := by
    cases detail <;> rfl
  have hinferior : ((s.ensureInferior (s.stoppedBackend b t)).inferiors.map fun _ i =>
      stopInferior i)[s.stoppedBackend b t]? =
        some (stopInferior (s.inferiorAt (s.stoppedBackend b t))) := by
    rw [Registry.getElem?_map, ensureInferior_getElem?, if_pos rfl]
    rfl
  refine ⟨rfl, hdetail, ?_⟩
  change (Option.map _ _).isSome = true
  rw [hinferior]
  rfl

lemma context_reduce (h : s.Filed) (e : DomainEvent) (hstop : (s.reduce e).1.stopId.isSome = true) :
    (s.reduce e).1.stopReason.isSome ∧ (s.reduce e).1.stopReasonDetail.isSome ∧
      (s.reduce e).1.stoppedInferiorId.isSome := by
  cases s.reduce_stop e with
  | kept hcontext _ _ _ _ =>
    obtain ⟨hid, hreason, hdetail, hinferior, -⟩ := StopContext.mk.inj hcontext
    rw [hreason, hdetail, hinferior]
    exact h.context (hid ▸ hstop)
  | cleared hcontext _ =>
    have hnone : (s.reduce e).1.stopId = none := congrArg StopContext.stopId hcontext
    rw [hnone] at hstop
    exact absurd hstop Bool.false_ne_true
  | set _ _ hevent =>
    obtain ⟨b, t, reason, detail, frame, rfl⟩ := hevent
    exact s.context_stop b t reason detail frame

/-- Every event keeps the state filed. -/
lemma Filed.reduce (h : s.Filed) (e : DomainEvent) : (s.reduce e).1.Filed := by
  obtain ⟨hbreakpoints, hmodules⟩ := breakpoints_modules_reduce h.breakpoints h.modules e
  exact ⟨settled_reduce h.inferiors e, hbreakpoints, hmodules, context_reduce h e⟩

/-- So does every event that is applied. -/
lemma Filed.applies {s s' : SessionState} {journaled : ℕ × DomainEvent} (h : s.Filed)
    (hstep : s.Applies journaled s') : s'.Filed := by
  obtain ⟨seq, e⟩ := journaled
  obtain ⟨-, revision, rfl⟩ := hstep.reduce
  have hat : { s with eventSeq := seq }.Filed :=
    ⟨h.inferiors, h.breakpoints, h.modules, h.context⟩
  exact { hat.reduce e with }

/-- Every reachable state is filed. -/
lemma Filed.run {s s' : SessionState} {es : List (ℕ × DomainEvent)} (h : s.Filed)
    (hrun : Run Applies s es s') : s'.Filed :=
  hrun.invariant h fun _ _ _ hs hstep => hs.applies hstep

/-- In every state that events lead to from a new session: the identifier, the reason, its detail
and the inferior of a stop are all there or all missing; a stopped thread and a snapshot are there
only with a stop; the threads of a running inferior all run and have no frame; no thread of a
stopped inferior is marked as running; and every inferior, thread, breakpoint and module is stored
under its own identifier. -/
theorem stop_and_registries_coherent (session : SessionId) (es : List (ℕ × DomainEvent))
    (s : SessionState) (hrun : Run Applies (creating session) es s) :
    (s.stopReason.isSome = s.stopId.isSome ∧ s.stopReasonDetail.isSome = s.stopId.isSome ∧
        s.stoppedInferiorId.isSome = s.stopId.isSome) ∧
      (s.stoppedThreadId.isSome → s.stopId.isSome) ∧ (s.snapshot.isSome → s.stopId.isSome) ∧
      (∀ (k : String) (i : InferiorState), s.inferiors[k]? = some i →
        ∀ (t : String) (thread : ThreadState), i.threads[t]? = some thread →
          (i.status = .running → thread.running = true ∧ thread.frame = none) ∧
            (i.status = .stopped → thread.running = false)) ∧
      (∀ (k : String) (i : InferiorState), s.inferiors[k]? = some i → i.backendId = k ∧
        ∀ (t : String) (thread : ThreadState), i.threads[t]? = some thread →
          thread.backendId = t) ∧
      (∀ (k : String) (breakpoint : BreakpointState), s.breakpoints[k]? = some breakpoint →
        breakpoint.backendNumber = k) ∧
      ∀ (k : String) (module : ModuleState), s.modules[k]? = some module → module.id = k := by
  have hcoherent : s.Coherent := (coherent_creating session).run hrun
  have hfiled : s.Filed := (filed_creating session).run hrun
  refine ⟨?_, ?_, ?_, ?_, ?_, hfiled.breakpoints, hfiled.modules⟩
  · cases hstop : s.stopId with
    | none =>
      obtain ⟨-, hreason, hdetail, hinferior, -⟩ :=
        StopContext.mk.inj (hcoherent.cleared hstop).1
      rw [hreason, hdetail, hinferior]
      exact ⟨rfl, rfl, rfl⟩
    | some id => exact hfiled.context (by rw [hstop]; rfl)
  · intro hthread
    by_contra hstop
    rw [Bool.not_eq_true, Option.isSome_eq_false_iff, Option.isNone_iff_eq_none] at hstop
    obtain ⟨-, -, -, -, hnone⟩ := StopContext.mk.inj (hcoherent.cleared hstop).1
    rw [hnone] at hthread
    exact absurd hthread Bool.false_ne_true
  · intro hsnapshot
    obtain ⟨snapshot, hsome⟩ := Option.isSome_iff_exists.mp hsnapshot
    rw [hcoherent.snapshot snapshot hsome]
    rfl
  · intro k i hi t thread ht
    refine ⟨fun hrunning => ?_, fun hstopped => ?_⟩
    · exact hcoherent.threads k i hi hrunning t thread ht
    · exact (hfiled.inferiors k i hi).halted hstopped t thread ht
  · intro k i hi
    have hsettled := hfiled.inferiors k i hi
    exact ⟨hsettled.key, hsettled.threads⟩

/-- The stopped session has a stop with all its parts. -/
theorem stoppedSession_coherent :
    stoppedSession.stopId.isSome = true ∧ stoppedSession.stopReasonDetail.isSome = true ∧
      stoppedSession.stoppedInferiorId.isSome = true := by
  have hrun : Run Applies (creating ⟨"sess_x"⟩)
      [(1, .targetStopped (some "i1") (some "1") "breakpoint-hit" none none)] stoppedSession :=
    .cons applies_stoppedSession (.nil _)
  obtain ⟨⟨-, hdetail, hinferior⟩, -⟩ := stop_and_registries_coherent ⟨"sess_x"⟩ _ _ hrun
  have hstop : stoppedSession.stopId.isSome = true := rfl
  exact ⟨hstop, hdetail.trans hstop, hinferior.trans hstop⟩

end SessionState

end GdbAi
