import GdbAi.Reducer.Effects

/-!
# The stop context of every reachable state

`Coherent` collects what holds in every state a session reaches: without a stop the whole
context and the snapshot are clear, a snapshot belongs to the current stop, the stop carries the
sequence number of the event that set it, running inferiors hold only running threads without
frames, and while a stop is current no inferior runs.
-/

namespace GdbAi

open Runs

lemma append_toString_injective (lead : String) :
    Function.Injective fun n : ℕ => lead ++ toString n := by
  intro n m h
  have hlist := congrArg String.toList h
  simp only [String.toList_append, List.append_cancel_left_eq, String.toList_inj] at hlist
  exact Nat.repr_inj.mp hlist

/-- Stop handles of one session tell events apart. -/
lemma StopId.fromEvent_injective (session : SessionId) :
    Function.Injective (StopId.fromEvent session) := by
  intro n m h
  unfold StopId.fromEvent at h
  split at h
  · exact append_toString_injective "s" (StopId.mk.inj h)
  · exact append_toString_injective ("stop_" ++ session.text ++ "_") (StopId.mk.inj h)

/-- A running inferior holds only running threads, without frames. -/
def RunningThreads (i : InferiorState) : Prop :=
  i.status = .running →
    Registry.All (fun _ thread => thread.running = true ∧ thread.frame = none) i.threads

namespace SessionState

/-- The invariant of the stop context and of the running inferiors. -/
structure Coherent (s : SessionState) : Prop where
  cleared : s.stopId = none → s.stopContext = .clear ∧ s.snapshot = none
  snapshot : ∀ sn, s.snapshot = some sn → s.stopId = some sn.stopId
  fresh : ∀ id, s.stopId = some id → ∃ n ≤ s.eventSeq, id = StopId.fromEvent s.sessionId n
  threads : Registry.All (fun _ i => RunningThreads i) s.inferiors
  halted : s.stopId ≠ none → Registry.All (fun _ i => i.status ≠ .running) s.inferiors

lemma coherent_creating (session : SessionId) : (creating session).Coherent where
  cleared _ := ⟨rfl, rfl⟩
  snapshot _ h := by cases h
  fresh _ h := by cases h
  threads := Registry.All.empty
  halted h := absurd rfl h

/-! ### Inferiors -/

lemma runningThreads_fresh (session : SessionId) (seq : ℕ) (k : String) :
    RunningThreads (freshInferior session seq k) := by
  intro h
  cases h

lemma stopInferior_not_running (i : InferiorState) : (stopInferior i).status ≠ .running := by
  unfold stopInferior
  split
  · rename_i h
    intro hrunning
    simp [hrunning, InferiorStatus.isTerminal] at h
  · simp

lemma addProcess_status (session : SessionId) (seq : ℕ) (k : String) (pid : Option ℕ)
    (i : InferiorState) (h : (addProcess session seq k pid i).status = .running) :
    i.status = .running ∧ (addProcess session seq k pid i).threads = i.threads := by
  unfold addProcess at h ⊢
  dsimp only at h ⊢
  split at h
  · split at h <;> cases h
  · rename_i hsame
    rw [if_neg hsame]
    split at h
    · cases h
    · rename_i hempty
      rw [if_neg hempty]
      exact ⟨h, rfl⟩

variable {s : SessionState} {k : String} {e : DomainEvent} {i i' : InferiorState}

/-- Every step of an inferior keeps its threads running while it runs. -/
lemma InferiorStep.runningThreads (h : InferiorStep s k e i i') (hi : RunningThreads i) :
    RunningThreads i' := by
  cases h with
  | same _ _ => exact hi
  | process _ =>
    intro hrunning
    obtain ⟨hstatus, hthreads⟩ := addProcess_status _ _ _ _ _ hrunning
    rw [hthreads]
    exact hi hstatus
  | status _ _ hstatus => exact fun hrunning => absurd hrunning hstatus
  | resume _ =>
    intro _ t thread ht
    obtain ⟨known, -, rfl⟩ : ∃ known, i.threads[t]? = some known ∧
        { known with running := true, frame := none } = thread := by
      simpa [resumeInferior, Registry.getElem?_map] using ht
    exact ⟨rfl, rfl⟩
  | stop _ => exact fun hrunning => absurd hrunning (stopInferior_not_running i)
  | stopThread _ _ _ => exact fun hrunning => absurd hrunning (stopInferior_not_running i)
  | @createThread thread _ =>
    unfold registerThread
    split
    · rename_i known hknown
      intro hrunning
      have hrun : i.status = .running := hrunning
      exact (hi hrun).insert ⟨by simp [hrun], (hi hrun _ _ hknown).2⟩
    · intro hrunning
      have hrun : i.status = .running := hrunning
      exact (hi hrun).insert ⟨by simp [hrun], rfl⟩
  | exitThread _ _ => exact fun hrunning => (hi hrunning).erase _

/-- Only `TargetRunning` makes an inferior run. -/
lemma InferiorStep.not_running (h : InferiorStep s k e i i')
    (he : ∀ names, e ≠ .targetRunning names) (hi : i.status ≠ .running) : i'.status ≠ .running := by
  cases h with
  | same _ _ => exact hi
  | process _ => exact fun hrunning => hi (addProcess_status _ _ _ _ _ hrunning).1
  | status _ _ hstatus => exact hstatus
  | resume _ => exact absurd rfl (he _)
  | stop _ => exact stopInferior_not_running i
  | stopThread _ _ _ => exact stopInferior_not_running i
  | @createThread thread _ =>
    unfold registerThread
    split <;> exact hi
  | exitThread _ _ => exact hi

/-- `TargetStopped` leaves no inferior running. -/
lemma InferiorStep.not_running_of_stopped {b t : Option String} {reason : String}
    {detail : Option StopReason} {frame : Option FrameSummary}
    (h : InferiorStep s k (.targetStopped b t reason detail frame) i i') :
    i'.status ≠ .running := by
  cases h with
  | same _ hnot => exact absurd rfl (hnot b t reason detail frame)
  | status _ _ hstatus => exact hstatus
  | stop _ => exact stopInferior_not_running i
  | stopThread _ _ _ => exact stopInferior_not_running i

/-- A condition that a fresh inferior satisfies and every step of an inferior keeps. -/
lemma reduce_all {P : InferiorState → Prop}
    (hfresh : ∀ k, P (freshInferior s.sessionId s.eventSeq k))
    (hstep : ∀ {k i i'}, InferiorStep s k e i i' → P i → P i')
    (h : Registry.All (fun _ i => P i) s.inferiors) :
    Registry.All (fun _ i => P i) (s.reduce e).1.inferiors := by
  intro k i' hi'
  rcases s.reduce_inferior e k with ⟨hnone, -⟩ | ⟨_, hsome, hinferior⟩
  · rw [hnone] at hi'
    cases hi'
  · obtain rfl := Option.some.inj (hsome.symm.trans hi')
    refine hstep hinferior ?_
    unfold inferiorAt
    cases hk : s.inferiors[k]? with
    | none => exact hfresh k
    | some i => exact h k i hk

/-! ### The stop context -/

lemma snapshotStop_eq_none : s.snapshotStop = none ↔ s.snapshot = none :=
  Option.map_eq_none_iff

/-- The invariant survives an event. -/
lemma Coherent.reduce (h : s.Coherent) (e : DomainEvent) : (s.reduce e).1.Coherent := by
  have hthreads := reduce_all (e := e) (P := RunningThreads)
    (fun k => runningThreads_fresh s.sessionId s.eventSeq k) (fun hstep hi => hstep.runningThreads hi)
    h.threads
  obtain ⟨hsession, hseq⟩ := s.reduce_identity e
  cases s.reduce_stop e with
  | kept hcontext _ hsnapshot hrunning _ =>
    have hstop : (s.reduce e).1.stopId = s.stopId := congrArg StopContext.stopId hcontext
    have hnone : s.stopId = none → s.snapshotStop = none := fun hn =>
      snapshotStop_eq_none.mpr (h.cleared hn).2
    refine ⟨fun hn => ?_, fun sn hsn => ?_, fun id hid => ?_, hthreads, fun hn => ?_⟩
    · rw [hstop] at hn
      refine ⟨hcontext.trans (h.cleared hn).1, snapshotStop_eq_none.mp ?_⟩
      rcases hsnapshot with hsame | hdropped | hstarted
      · exact hsame.trans (hnone hn)
      · exact hdropped
      · exact hstarted.trans hn
    · have hsome : (s.reduce e).1.snapshotStop = some sn.stopId := by rw [snapshotStop, hsn]; rfl
      rw [hstop]
      rcases hsnapshot with hsame | hdropped | hstarted
      · rw [hsame, snapshotStop, Option.map_eq_some_iff] at hsome
        obtain ⟨known, hknown, heq⟩ := hsome
        rw [h.snapshot known hknown, heq]
      · rw [hdropped] at hsome
        cases hsome
      · exact hstarted.symm.trans hsome
    · rw [hsession, hseq]
      exact h.fresh id (hstop ▸ hid)
    · refine reduce_all (P := fun i => i.status ≠ .running) (fun _ => by simp [freshInferior])
        (fun hstep hi => hstep.not_running hrunning hi) ?_
      exact h.halted (hstop ▸ hn)
  | cleared hcontext hsnapshot =>
    have hstop : (s.reduce e).1.stopId = none := congrArg StopContext.stopId hcontext
    refine ⟨fun _ => ⟨hcontext, hsnapshot⟩, fun sn hsn => ?_, fun id hid => ?_, hthreads,
      fun hn => absurd hstop hn⟩
    · rw [hsnapshot] at hsn
      cases hsn
    · rw [hstop] at hid
      cases hid
  | set hstop hsnapshot hevent =>
    refine ⟨fun hn => ?_, fun sn hsn => ?_, fun id hid => ?_, hthreads, fun _ => ?_⟩
    · rw [hstop] at hn
      cases hn
    · rw [← hsnapshot, snapshotStop, hsn]
      rfl
    · rw [hsession, hseq]
      exact ⟨s.eventSeq, le_rfl, Option.some.inj (hid.symm.trans hstop)⟩
    · obtain ⟨b, t, reason, detail, frame, rfl⟩ := hevent
      intro k i' hi'
      rcases s.reduce_inferior (.targetStopped b t reason detail frame) k with
        ⟨hnone, -⟩ | ⟨_, hsome, hinferior⟩
      · rw [hnone] at hi'
        cases hi'
      · obtain rfl := Option.some.inj (hsome.symm.trans hi')
        exact hinferior.not_running_of_stopped

/-- The invariant survives an applied event. -/
lemma Coherent.applies {s s' : SessionState} {journaled : ℕ × DomainEvent} (h : s.Coherent)
    (hstep : s.Applies journaled s') : s'.Coherent := by
  obtain ⟨hlt, revision, rfl⟩ := hstep.reduce
  have hat : { s with eventSeq := journaled.1 }.Coherent :=
    { h with
      fresh := fun id hid => by
        obtain ⟨n, hn, rfl⟩ := h.fresh id hid
        exact ⟨n, le_trans hn hlt.le, rfl⟩ }
  exact { hat.reduce journaled.2 with }

/-- The invariant holds along every run from a coherent state. -/
lemma Coherent.run {s s' : SessionState} {es : List (ℕ × DomainEvent)} (h : s.Coherent)
    (hrun : Run Applies s es s') : s'.Coherent :=
  hrun.invariant h fun _ _ _ hs hstep => hs.applies hstep

/-- Every reachable state is coherent. -/
lemma Reachable.coherent (h : s.Reachable) : s.Coherent := by
  obtain ⟨session, es, hrun⟩ := h
  exact (coherent_creating session).run hrun

end SessionState

end GdbAi
