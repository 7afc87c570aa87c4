import GdbAi.Reducer.Effects

/-!
# The stop context refers to registered inferiors and threads

Default contexts resolve the stopped inferior and thread of the current stop in the registries.
Removing, exiting and releasing inferiors restore the link by clearing the stop.  Two events do
not: the exit of the stopped thread, and a new process for the stopped inferior.  A run without
them never lets the stop context dangle.
-/

namespace GdbAi

open Runs

namespace SessionState

/-- While a stop is current, its inferior is registered, and so is its thread, if it has one, in
that same inferior. -/
def Anchored (s : SessionState) : Prop :=
  s.stopId ≠ none → ∃ (k : String) (i : InferiorState),
    s.inferiors[k]? = some i ∧ s.stoppedInferiorId = some i.id ∧
      ∀ id, s.stoppedThreadId = some id →
        ∃ (t : String) (thread : ThreadState), i.threads[t]? = some thread ∧ thread.id = id

/-- The events that leave a dangling stop: the stopped thread exits, or the stopped inferior gets
a new process. -/
def Orphans (s : SessionState) : DomainEvent → Prop
  | .threadExited b t => s.stopId ≠ none ∧ ∃ (k : String) (i : InferiorState) (thread : ThreadState),
      s.threadOwner b t = some k ∧ s.inferiors[k]? = some i ∧ i.threads[t]? = some thread ∧
        s.stoppedInferiorId = some i.id ∧ s.stoppedThreadId = some thread.id
  | .inferiorAdded b pid => s.stopId ≠ none ∧ pid ≠ none ∧ ∃ i : InferiorState,
      s.inferiors[b]? = some i ∧ s.stoppedInferiorId = some i.id ∧
        (i.pid ≠ pid ∨ i.status.isTerminal = true)
  | _ => False

/-- An inferior after a step still has its identity and the thread. -/
def Retains (id : Option ThreadId) (i i' : InferiorState) : Prop :=
  i'.id = i.id ∧ ∀ (t : String) (thread : ThreadState), i.threads[t]? = some thread →
    some thread.id = id →
      ∃ thread' : ThreadState, i'.threads[t]? = some thread' ∧ thread'.id = thread.id

lemma retains_of_threads {id : Option ThreadId} {i i' : InferiorState} (hid : i'.id = i.id)
    (h : ∀ (t : String) (thread : ThreadState), i.threads[t]? = some thread →
      ∃ thread' : ThreadState, i'.threads[t]? = some thread' ∧ thread'.id = thread.id) :
    Retains id i i' :=
  ⟨hid, fun t thread ht _ => h t thread ht⟩

/-- A map of threads that keeps their handles. -/
lemma exists_of_map {threads : Registry ThreadState} {f : String → ThreadState → ThreadState}
    (hf : ∀ t thread, (f t thread).id = thread.id) {t : String} {thread : ThreadState}
    (h : threads[t]? = some thread) :
    ∃ thread' : ThreadState, (threads.map f)[t]? = some thread' ∧ thread'.id = thread.id :=
  ⟨f t thread, by rw [Registry.getElem?_map, h]; rfl, hf t thread⟩

/-- Registering a thread under a known key keeps its handle. -/
lemma exists_of_insert {threads : Registry ThreadState} {key : String} {new : ThreadState}
    (hnew : ∀ known : ThreadState, threads[key]? = some known → new.id = known.id) {t : String}
    {thread : ThreadState} (h : threads[t]? = some thread) :
    ∃ thread' : ThreadState, (threads.insert key new)[t]? = some thread' ∧
      thread'.id = thread.id := by
  rw [Registry.getElem?_insert]
  split
  · rename_i hkey
    subst hkey
    exact ⟨new, rfl, hnew thread h⟩
  · exact ⟨thread, h, rfl⟩

lemma retains_stopInferior (id : Option ThreadId) (i : InferiorState) :
    Retains id i (stopInferior i) := by
  unfold stopInferior
  split
  · exact retains_of_threads rfl fun t thread ht => ⟨thread, ht, rfl⟩
  · refine retains_of_threads rfl fun t thread ht => exists_of_map ?_ ht
    exact fun _ _ => rfl

/-- Away from the orphaning events, the stopped inferior keeps its identity and its stopped
thread. -/
lemma InferiorStep.retains {s : SessionState} {k : String} {e : DomainEvent}
    {i i' : InferiorState} (h : InferiorStep s k e i i') (hstop : s.stopId ≠ none)
    (hi : s.inferiors[k]? = some i) (hid : s.stoppedInferiorId = some i.id)
    (hsafe : ¬ s.Orphans e) : Retains s.stoppedThreadId i i' := by
  cases h with
  | same _ _ => exact retains_of_threads rfl fun t thread ht => ⟨thread, ht, rfl⟩
  | @process pid _ =>
    have hsame : ¬ (pid.isSome && (decide (i.pid ≠ pid) || i.status.isTerminal)) = true := by
      intro hnew
      rw [Bool.and_eq_true, Option.isSome_iff_ne_none, Bool.or_eq_true, decide_eq_true_eq] at hnew
      exact hsafe ⟨hstop, hnew.1, i, hi, hid, hnew.2⟩
    unfold addProcess
    rw [if_neg hsame]
    dsimp only
    split <;> exact retains_of_threads rfl fun t thread ht => ⟨thread, ht, rfl⟩
  | status _ _ _ => exact retains_of_threads rfl fun t thread ht => ⟨thread, ht, rfl⟩
  | resume _ =>
    refine retains_of_threads rfl fun t thread ht => exists_of_map ?_ ht
    exact fun _ _ => rfl
  | stop _ => exact retains_stopInferior _ i
  | stopThread _ frame thread =>
    obtain ⟨hidentity, hthreads⟩ := retains_stopInferior s.stoppedThreadId i
    refine ⟨hidentity, fun t known ht hknown => ?_⟩
    obtain ⟨known', ht', hid'⟩ := hthreads t known ht hknown
    rw [← hid']
    refine exists_of_insert (fun other hother => ?_) ht'
    simp [hother]
  | @createThread thread _ =>
    unfold registerThread
    split
    · rename_i known hknown
      exact retains_of_threads rfl fun t other ht => exists_of_insert
        (fun known' hk => by rw [Option.some.inj (hknown.symm.trans hk)]) ht
    · rename_i hnone
      exact retains_of_threads rfl fun t other ht => exists_of_insert
        (fun known' hk => by rw [hnone] at hk; cases hk) ht
  | @exitThread b thread _ howner =>
    refine ⟨rfl, fun t known ht hknown => ⟨known, ?_, rfl⟩⟩
    have hother : thread ≠ t := by
      rintro rfl
      exact hsafe ⟨hstop, k, i, known, howner, hi, ht, hid, hknown.symm⟩
    rw [Registry.getElem?_erase, if_neg hother]
    exact ht

/-- A removed inferior takes its stop along. -/
lemma removeInferior_cleared {s : SessionState} {b : String} {i : InferiorState}
    (hi : s.inferiors[b]? = some i) (hid : s.stoppedInferiorId = some i.id) :
    (s.reduce (.inferiorRemoved b)).1.stopId = none := by
  simp only [reduce, removeInferior, hi]
  rw [if_pos hid]
  rfl

/-- The inferior of a new stop is registered, and so is its thread. -/
lemma anchored_stop (s : SessionState) (b t : Option String) (reason : String)
    (detail : Option StopReason) (frame : Option FrameSummary) :
    (s.stop b t reason detail frame).Anchored := by
  intro _
  set backendId := s.stoppedBackend b t with hbackend
  set i := stopInferior (s.inferiorAt backendId) with hi
  have hstopped : ((s.ensureInferior backendId).inferiors.map
      fun _ i => stopInferior i)[backendId]? = some i := by
    rw [Registry.getElem?_map, ensureInferior_getElem?, if_pos rfl, hi]
    rfl
  cases t with
  | none =>
    refine ⟨backendId, i, ?_, ?_, fun id hid => ?_⟩
    · simpa only [SessionState.stop, Option.bind_none] using hstopped
    · simp only [SessionState.stop]
      rw [← hbackend, hstopped]
      rfl
    · simp [SessionState.stop] at hid
  | some thread =>
    refine ⟨backendId, (stopThread s.eventSeq frame thread i).1, ?_, ?_, fun id hid => ?_⟩
    · simp only [SessionState.stop, Option.bind_some]
      rw [← hbackend, hstopped, Option.map_some]
      dsimp only
      rw [Registry.getElem?_insert, if_pos rfl]
      rfl
    · simp only [SessionState.stop]
      rw [← hbackend, hstopped]
      rfl
    · have hid' : id = (stopThread s.eventSeq frame thread i).2 := by
        simp only [SessionState.stop, Option.bind_some] at hid
        rw [← hbackend, hstopped] at hid
        exact (Option.some.inj hid).symm
      refine ⟨thread, ⟨_, thread, false, frame⟩, ?_, hid'.symm⟩
      simp only [stopThread]
      rw [Registry.getElem?_insert, if_pos rfl]

/-- An event that orphans nothing keeps the stop anchored. -/
lemma Anchored.reduce {s : SessionState} (h : s.Anchored) {e : DomainEvent}
    (hsafe : ¬ s.Orphans e) : (s.reduce e).1.Anchored := by
  cases s.reduce_stop e with
  | cleared hcontext _ =>
    exact fun hstop => absurd (congrArg StopContext.stopId hcontext) hstop
  | set _ _ hevent =>
    obtain ⟨b, t, reason, detail, frame, rfl⟩ := hevent
    exact s.anchored_stop b t reason detail frame
  | kept hcontext _ _ _ _ =>
    obtain ⟨hstopId, -, -, hinferiorId, hthreadId⟩ := StopContext.mk.inj hcontext
    intro hstop
    have hold : s.stopId ≠ none := fun hnone => hstop (hstopId.trans hnone)
    obtain ⟨k, i, hi, hid, hthread⟩ := h hold
    rcases s.reduce_inferior e k with ⟨hnone, hmissing | rfl⟩ | ⟨i', hi', hstep⟩
    · rw [hi] at hmissing
      cases hmissing
    · exact absurd (removeInferior_cleared hi hid) hstop
    · rw [inferiorAt_eq hi] at hstep
      obtain ⟨hidentity, hretained⟩ := hstep.retains hold hi hid hsafe
      refine ⟨k, i', hi', by rw [hinferiorId, hidentity, hid], fun id hid' => ?_⟩
      obtain ⟨t, thread, ht, rfl⟩ := hthread id (hthreadId ▸ hid')
      obtain ⟨thread', ht', heq⟩ := hretained t thread ht (hthreadId ▸ hid').symm
      exact ⟨t, thread', ht', heq⟩

/-- One event applied at its sequence number that orphans nothing. -/
def AppliesSafely (s : SessionState) (journaled : ℕ × DomainEvent) (s' : SessionState) : Prop :=
  s.Applies journaled s' ∧ ¬ s.Orphans journaled.2

/-- In every run whose events orphan nothing, every state reached has an anchored stop. -/
theorem anchored_of_run (session : SessionId) (es : List (ℕ × DomainEvent)) (s : SessionState)
    (hrun : Run AppliesSafely (creating session) es s) : s.Anchored := by
  refine hrun.invariant (fun hstop => absurd rfl hstop) ?_
  rintro s ⟨seq, e⟩ s' hs ⟨hstep, hsafe⟩
  obtain ⟨-, revision, rfl⟩ := hstep.reduce
  have hat : { s with eventSeq := seq }.Anchored := hs
  have hsafe' : ¬ { s with eventSeq := seq }.Orphans e := by
    cases e <;> exact hsafe
  exact hat.reduce hsafe'

lemma run_stoppedSession :
    Run AppliesSafely (creating ⟨"sess_x"⟩)
      [(1, .targetStopped (some "i1") (some "1") "breakpoint-hit" none none)] stoppedSession :=
  .cons ⟨applies_stoppedSession, fun h => h⟩ (.nil _)

/-- The exit of the stopped thread leaves the stop with a thread that is not registered. -/
theorem threadExited_dangles :
    ∃ es s, Run Applies (creating ⟨"sess_x"⟩) es s ∧ ¬ s.Anchored := by
  have hrun := run_stoppedSession.mono fun _ _ _ h => h.1
  refine ⟨_, _, hrun.snoc (e := (2, .threadExited (some "i1") "1")) ⟨true, rfl⟩, fun h => ?_⟩
  obtain ⟨k, i, hi, -, hthread⟩ := h (by decide)
  have hempty := Registry.anyEntry_eq_false.mp
    (show (stoppedSession.exitThread (some "i1") "1").1.inferiors.anyEntry
      (fun _ i => !i.threads.isEmpty) = false by decide) k i hi
  obtain ⟨t, thread, ht, -⟩ := hthread ⟨"thr_inf_sess_x_1_i1_1_1"⟩ (by decide)
  rw [Bool.not_eq_false', Std.ExtTreeMap.isEmpty_iff] at hempty
  rw [hempty] at ht
  simp at ht

/-- The stop of the stopped session is anchored. -/
theorem stoppedSession_anchored : stoppedSession.stopId ≠ none ∧ stoppedSession.Anchored :=
  ⟨by decide, anchored_of_run ⟨"sess_x"⟩ _ stoppedSession run_stoppedSession⟩

end SessionState

end GdbAi
