import GdbAi.Reducer.Effects

/-!
# Taint and loss

Eight kinds of events write the consistency of a session, each with a guard of its own.  Read as
one function of the consistency before the event (`nextConsistency`), they show that only a loss
replaces a taint and that a loss gives way to every guarded write.  A tainted session therefore
stays tainted or lost as long as no such write comes behind a loss.
-/

namespace GdbAi

open Runs

/-- The events that mark a session as dirty unless it is tainted. -/
def DomainEvent.marksDirty : DomainEvent → Bool
  | .commandOutcomeUnknown _ | .consistencyDirty _ | .unknownBackendNotification _ => true
  | _ => false

/-- The events of a reconciliation. -/
def DomainEvent.reconciles : DomainEvent → Bool
  | .consistencyReconciling | .consistencyRestored _ => true
  | _ => false

/-- `Clean | ManagedDirty | Reconciling`: neither tainted nor lost. -/
def Consistency.isRecoverable : Consistency → Bool
  | .clean | .managedDirty | .reconciling => true
  | .tainted | .lost => false

/-- The consistency behind an event. -/
def nextConsistency (before : Consistency) : DomainEvent → Consistency
  | .commandOutcomeUnknown _ | .consistencyDirty _ | .unknownBackendNotification _ =>
    if before = .tainted then .tainted else .managedDirty
  | .consistencyReconciling => if before = .tainted then .tainted else .reconciling
  | .consistencyRestored _ => if before = .tainted then .tainted else .clean
  | .consistencyTainted _ | .unknownBackendEvent _ => .tainted
  | .consistencyLost _ => .lost
  | _ => before

namespace SessionState

lemma markDirty_consistency (s : SessionState) :
    s.markDirty.consistency = if s.consistency = .tainted then .tainted else .managedDirty := by
  unfold markDirty
  by_cases h : s.consistency = .tainted
  · rw [if_neg (not_not.mpr h), if_pos h, h]
  · rw [if_pos h, if_neg h]

/-- What every event does to the consistency. -/
lemma reduce_consistency (s : SessionState) (e : DomainEvent) :
    (s.reduce e).1.consistency = nextConsistency s.consistency e := by
  cases e with
  | commandOutcomeUnknown | consistencyDirty | unknownBackendNotification =>
    exact markDirty_consistency _
  | consistencyReconciling | consistencyRestored =>
    simp only [reduce, restoreConsistency, nextConsistency]
    by_cases h : s.consistency = .tainted
    · rw [if_pos h, if_pos h, h]
    · rw [if_neg h, if_neg h]
  | commandOutcomeResolved | snapshotStarted | snapshotReady | snapshotFailed | inferiorRemoved
  | inferiorExited | threadCreated | threadExited =>
    simp only [reduce, removeInferior, exitInferior, createThread, exitThread, nextConsistency]
    repeat' split
    all_goals rfl
  | _ => rfl

lemma Applies.consistency {s s' : SessionState} {journaled : ℕ × DomainEvent}
    (h : s.Applies journaled s') :
    s'.consistency = nextConsistency s.consistency journaled.2 := by
  obtain ⟨-, revision, rfl⟩ := h.reduce
  exact { s with eventSeq := journaled.1 }.reduce_consistency journaled.2

/-- The event downgrades a loss. -/
def Downgrades (s : SessionState) (e : DomainEvent) : Prop :=
  s.consistency = .lost ∧ (e.marksDirty = true ∨ e.reconciles = true)

/-- A session that is tainted or lost becomes recoverable exactly by a downgrade of its loss. -/
lemma nextConsistency_isRecoverable {s : SessionState} {e : DomainEvent}
    (h : s.consistency.isRecoverable = false) :
    (nextConsistency s.consistency e).isRecoverable = true ↔ s.Downgrades e := by
  unfold Downgrades
  cases hs : s.consistency with
  | clean | managedDirty | reconciling =>
    rw [hs] at h
    exact absurd h (by decide)
  | tainted =>
    cases e <;> simp [nextConsistency, Consistency.isRecoverable]
  | lost =>
    cases e <;> simp [nextConsistency, Consistency.isRecoverable, DomainEvent.marksDirty,
      DomainEvent.reconciles]

/-- One event applied at its sequence number that downgrades no loss. -/
def AppliesWithoutDowngrade (s : SessionState) (journaled : ℕ × DomainEvent) (s' : SessionState) :
    Prop := s.Applies journaled s' ∧ ¬ s.Downgrades journaled.2

/-- Without a downgrade, a session that is tainted or lost stays so. -/
lemma not_recoverable_of_run {s s' : SessionState} {es : List (ℕ × DomainEvent)}
    (hrun : Run AppliesWithoutDowngrade s es s') (h : s.consistency.isRecoverable = false) :
    s'.consistency.isRecoverable = false := by
  refine hrun.invariant (P := fun s => s.consistency.isRecoverable = false) h ?_
  rintro s journaled s' hs ⟨hstep, hkept⟩
  rw [hstep.consistency]
  by_contra hrecoverable
  have htrue := Bool.eq_true_of_not_eq_false hrecoverable
  exact hkept ((nextConsistency_isRecoverable hs).mp htrue)

/-- Behind a taint no state is recoverable in a run without a downgrade of a loss, and an event
other than those of a reconciliation makes a lost session recoverable exactly when it marks the
session as dirty. -/
theorem taint_and_loss_persist (s : SessionState) :
    (∀ (s₀ s' : SessionState) (journaled : ℕ × DomainEvent) (es : List (ℕ × DomainEvent)),
      s₀.Applies journaled s → s.consistency = .tainted → Run AppliesWithoutDowngrade s es s' →
        s'.consistency.isRecoverable = false) ∧
      ∀ (s' : SessionState) (journaled : ℕ × DomainEvent),
        s.consistency = .lost → s.Applies journaled s' → journaled.2.reconciles = false →
          (s'.consistency.isRecoverable = true ↔ journaled.2.marksDirty = true) := by
  constructor
  · intro s₀ s' journaled es _ htainted hrun
    refine not_recoverable_of_run hrun ?_
    rw [htainted]
    rfl
  · intro s' journaled hlost hstep hreconciles
    have hbefore : s.consistency.isRecoverable = false := by
      rw [hlost]
      rfl
    rw [hstep.consistency, nextConsistency_isRecoverable hbefore]
    simp [Downgrades, hlost, hreconciles]

/-- A session that an unknown event has tainted. -/
def taintedByEvent : SessionState :=
  { { creating ⟨"sess_x"⟩ with eventSeq := 1 }.reduce (.unknownBackendEvent "exec:odd") |>.1 with
    revision := 1 }

lemma applies_taintedByEvent :
    (creating ⟨"sess_x"⟩).Applies (1, .unknownBackendEvent "exec:odd") taintedByEvent :=
  ⟨true, rfl⟩

/-- A restored consistency leaves the tainted session tainted. -/
theorem taintedByEvent_stays :
    ∃ s, Run AppliesWithoutDowngrade taintedByEvent [(2, .consistencyRestored [])] s ∧
      s.consistency.isRecoverable = false := by
  have hrun : Run AppliesWithoutDowngrade taintedByEvent [(2, .consistencyRestored [])]
      { taintedByEvent with eventSeq := 2, reconciliationRequired := false } :=
    .cons ⟨⟨false, rfl⟩, fun h => absurd h.1 (by decide)⟩ (.nil _)
  exact ⟨_, hrun, (taint_and_loss_persist _).1 _ _ _ _ applies_taintedByEvent rfl hrun⟩

/-- A loss replaces the taint and a restored consistency cleans the loss; a dirty mark downgrades
it too. -/
theorem taint_lost_and_restored :
    ∃ tainted lost clean dirty,
      Run Applies (creating ⟨"sess_x"⟩) [(1, .unknownBackendEvent "exec:odd")] tainted ∧
      Run Applies tainted [(2, .consistencyLost "framing")] lost ∧
      Run Applies lost [(3, .consistencyRestored [])] clean ∧
      Run Applies lost [(3, .consistencyDirty "noise")] dirty ∧
      tainted.consistency = .tainted ∧ lost.consistency = .lost ∧ clean.consistency = .clean ∧
      dirty.consistency = .managedDirty := by
  refine ⟨taintedByEvent, _, _, _, .cons applies_taintedByEvent (.nil _), .cons ⟨true, rfl⟩ (.nil _),
    .cons ⟨true, rfl⟩ (.nil _), .cons ⟨true, rfl⟩ (.nil _), rfl, rfl, rfl, rfl⟩

end SessionState

end GdbAi
