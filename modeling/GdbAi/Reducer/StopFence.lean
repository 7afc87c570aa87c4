import GdbAi.Reducer.Invariants

/-!
# Stop handles as fences

A composite observation checks the stop and the execution epoch before it starts and again
before it returns.  The check is sound because a stop handle is never current again after it
has been left: every stop carries the sequence number of its own event.
-/

namespace GdbAi

open Runs

/-- Events that resume the target or stop it anew. -/
def DomainEvent.movesTarget : DomainEvent → Bool
  | .targetRunning _ | .targetStopped .. => true
  | _ => false

namespace SessionState

/-- `SessionHandle::require_observation_context`. -/
def requireObservationContext (current expected : SessionState) : Except Error Unit :=
  if current.stopId = expected.stopId ∧ current.executionEpoch = expected.executionEpoch then
    .ok ()
  else
    .error ⟨.staleContext, "target stop changed during composite operation", false⟩

variable {s s' : SessionState} {id : StopId}

/-- The stop behind an event was there before, under the same epoch, or is the event's own. -/
lemma Applies.stop_kept_or_fresh {journaled : ℕ × DomainEvent} (h : s.Applies journaled s')
    (hid : s'.stopId = some id) : (s.stopId = some id ∧ s'.executionEpoch = s.executionEpoch ∧
        journaled.2.movesTarget = false) ∨
      (s.eventSeq < journaled.1 ∧ id = StopId.fromEvent s.sessionId journaled.1) := by
  obtain ⟨hlt, revision, rfl⟩ := h.reduce
  cases { s with eventSeq := journaled.1 }.reduce_stop journaled.2 with
  | kept hcontext hepoch _ hrunning hstopped =>
    refine .inl ⟨(congrArg StopContext.stopId hcontext).symm.trans hid, hepoch, ?_⟩
    cases he : journaled.2 with
    | targetRunning names => exact absurd he (hrunning names)
    | targetStopped b t reason detail frame => exact absurd he (hstopped b t reason detail frame)
    | _ => rfl
  | cleared hcontext _ =>
    have hnone := congrArg StopContext.stopId hcontext
    cases hnone.symm.trans hid
  | set hstop _ _ => exact .inr ⟨hlt, Option.some.inj (hid.symm.trans hstop)⟩

variable {es : List (ℕ × DomainEvent)}

/-- The stop at the end of a run was current throughout it or was set during it. -/
lemma run_stop_kept_or_fresh (h : Run Applies s es s') (hid : s'.stopId = some id) :
    (s.stopId = some id ∧ s'.executionEpoch = s.executionEpoch ∧
        ∀ journaled ∈ es, journaled.2.movesTarget = false) ∨
      ∃ n, s.eventSeq < n ∧ id = StopId.fromEvent s.sessionId n := by
  induction h with
  | nil s => exact .inl ⟨hid, rfl, by simp⟩
  | @cons s₁ s₂ s₃ journaled es head tail ih =>
    obtain ⟨hsession, hlt, -⟩ := head.identity
    rcases ih hid with ⟨hstop, hepoch, hquiet⟩ | ⟨n, hn, hfresh⟩
    · rcases head.stop_kept_or_fresh hstop with ⟨hfirst, hfirstEpoch, hfirstQuiet⟩ | ⟨hseq, hown⟩
      · refine .inl ⟨hfirst, hepoch.trans hfirstEpoch, ?_⟩
        intro later hlater
        rcases List.mem_cons.mp hlater with rfl | hlater
        · exact hfirstQuiet
        · exact hquiet later hlater
      · exact .inr ⟨journaled.1, hseq, hown⟩
    · exact .inr ⟨n, hlt.trans hn, hsession ▸ hfresh⟩

lemma run_identity (h : Run Applies s es s') :
    s'.sessionId = s.sessionId ∧ s.eventSeq ≤ s'.eventSeq := by
  induction h with
  | nil s => exact ⟨rfl, le_rfl⟩
  | cons head _ ih =>
    obtain ⟨hsession, hlt, -⟩ := head.identity
    exact ⟨ih.1.trans hsession, hlt.le.trans ih.2⟩

/-- A stop that is current at both ends of a run is current throughout it. -/
lemma run_stop_unchanged (h : Run Applies s es s') {n : ℕ} (hn : n ≤ s.eventSeq)
    (hid : s'.stopId = some (StopId.fromEvent s.sessionId n)) :
    s.stopId = some (StopId.fromEvent s.sessionId n) ∧ s'.executionEpoch = s.executionEpoch ∧
      ∀ journaled ∈ es, journaled.2.movesTarget = false := by
  rcases run_stop_kept_or_fresh h hid with hkept | ⟨m, hm, hfresh⟩
  · exact hkept
  · have heq := StopId.fromEvent_injective s.sessionId hfresh
    omega

/-- What holds at a point `s` of a run between two points `s₁` and `s₂` of the stop `id`, with the
events `es` between them. -/
structure Fenced (id : StopId) (s₁ s s₂ : SessionState) (es : List (ℕ × DomainEvent)) : Prop where
  stop : s.stopId = some id
  epoch : s.executionEpoch = s₁.executionEpoch
  lastEpoch : s₂.executionEpoch = s₁.executionEpoch
  halted : ∀ (k : String) (i : InferiorState), s.inferiors[k]? = some i → i.status ≠ .running
  snapshot : ∀ sn, s.snapshot = some sn → sn.stopId = id
  quiet : ∀ journaled ∈ es, journaled.2.movesTarget = false

/-- Between two points with the same stop, that stop stays current. -/
lemma run_fenced {s₁ s s₂ : SessionState} {es₁ es₂ : List (ℕ × DomainEvent)} (hc₁ : s₁.Coherent)
    (h₁ : Run Applies s₁ es₁ s) (h₂ : Run Applies s es₂ s₂) (hid₁ : s₁.stopId = some id)
    (hid₂ : s₂.stopId = some id) : Fenced id s₁ s s₂ (es₁ ++ es₂) := by
  have hc := hc₁.run h₁
  obtain ⟨n, hn, rfl⟩ := hc₁.fresh id hid₁
  obtain ⟨hsession, hle⟩ := run_identity h₁
  -- the stop at the end reaches back to the middle, and from there to the start
  obtain ⟨hid, hepoch₂, hquiet₂⟩ := run_stop_unchanged h₂ (hn.trans hle) (hsession.symm ▸ hid₂)
  rw [hsession] at hid
  obtain ⟨-, hepoch₁, hquiet₁⟩ := run_stop_unchanged h₁ hn hid
  refine ⟨hid, hepoch₁, hepoch₂.trans hepoch₁, ?_, fun sn hsn => ?_, fun journaled hmem => ?_⟩
  · exact hc.halted (by simp [hid])
  · exact Option.some.inj ((hc.snapshot sn hsn).symm.trans hid)
  · rcases List.mem_append.mp hmem with hmem | hmem
    · exact hquiet₁ journaled hmem
    · exact hquiet₂ journaled hmem

lemma stopId_of_requireObservationContext {current expected : SessionState}
    (h : current.requireObservationContext expected = .ok ()) :
    current.stopId = expected.stopId := by
  unfold requireObservationContext at h
  split at h
  · rename_i hsame
    exact hsame.1
  · cases h

/-- Stop fences have no ABA: between two points of a run with the same stop, that stop stays
current under one epoch, no inferior runs, the snapshot is of that stop and no event resumes or
stops the target.  So checking the observation context at both ends detects every resume. -/
theorem stop_fence (session : SessionId) (es₀ es₁ es₂ : List (ℕ × DomainEvent))
    (s₁ s s₂ : SessionState) (h₀ : Run Applies (creating session) es₀ s₁)
    (h₁ : Run Applies s₁ es₁ s) (h₂ : Run Applies s es₂ s₂) :
    (∀ id, s₁.stopId = some id → s₂.stopId = some id → Fenced id s₁ s s₂ (es₁ ++ es₂)) ∧
      ∀ expected : SessionState, expected.stopId ≠ none →
        s₁.requireObservationContext expected = .ok () →
        s₂.requireObservationContext expected = .ok () →
        ∀ journaled ∈ es₁ ++ es₂, ∀ names, journaled.2 ≠ .targetRunning names := by
  have hc₁ := (coherent_creating session).run h₀
  refine ⟨fun id => run_fenced hc₁ h₁ h₂, fun expected hsome hok₁ hok₂ journaled hmem names heq => ?_⟩
  obtain ⟨id, hid⟩ := Option.ne_none_iff_exists'.mp hsome
  have hfenced := run_fenced hc₁ h₁ h₂ ((stopId_of_requireObservationContext hok₁).trans hid)
    ((stopId_of_requireObservationContext hok₂).trans hid)
  have hmoves := hfenced.quiet journaled hmem
  rw [heq] at hmoves
  cases hmoves

/-- A breakpoint stop stays current while memory is written and the target prints. -/
theorem stop_fence_at_breakpoint :
    let written := { stoppedSession with eventSeq := 2, revision := 2, snapshot := none }
    let printed := { written with eventSeq := 5 }
    Run Applies stoppedSession [(2, .memoryChanged)] written ∧
      Run Applies written [(5, .output .miTargetStream [])] printed ∧
      Fenced ⟨"stop_sess_x_1"⟩ stoppedSession written printed
        [(2, .memoryChanged), (5, .output .miTargetStream [])] := by
  intro written printed
  have hwritten : Run Applies stoppedSession [(2, .memoryChanged)] written :=
    .cons ⟨true, rfl⟩ (.nil _)
  have hprinted : Run Applies written [(5, .output .miTargetStream [])] printed :=
    .cons ⟨false, rfl⟩ (.nil _)
  have hfence := stop_fence ⟨"sess_x"⟩ _ _ _ _ _ _ (.cons applies_stoppedSession (.nil _))
    hwritten hprinted
  exact ⟨hwritten, hprinted, hfence.1 _ (by decide) (by decide)⟩

end SessionState

end GdbAi
