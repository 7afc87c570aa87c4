import GdbAi.Reducer.Invariants

/-!
# Events that do not advance the revision

Clients compare revisions to learn whether the state they acted on is current, so an event that
returns `Ok(false)` should leave every field but the sequence number alone.  Two branches of the
reducer do not: resolving a token while no outcome is unknown, and restoring a tainted session
without warnings.  `applyEvent_false_iff` shows that these are the only ones.
-/

namespace GdbAi

namespace SessionState

/-- The events that change a state without advancing its revision: a resolved outcome while none
is unknown, when it repairs the backend or requires reconciliation, and a restoration without
warnings that lifts a tainted session's required reconciliation. -/
def SilentChange (s : SessionState) : DomainEvent → Prop
  | .commandOutcomeResolved _ =>
    s.outcomeUnknownTokens = ∅ ∧ (s.backend ≠ .healthy ∨ s.reconciliationRequired = false)
  | .consistencyRestored warnings =>
    warnings = [] ∧ s.consistency = .tainted ∧ s.reconciliationRequired = true
  | _ => False

lemma markDirty_revision (s : SessionState) : s.markDirty.revision = s.revision := by
  unfold markDirty
  split <;> rfl

/-- The reducer leaves the revision to `apply_event`. -/
lemma reduce_revision (s : SessionState) (e : DomainEvent) :
    (s.reduce e).1.revision = s.revision := by
  cases e with
  | commandOutcomeUnknown | consistencyDirty | unknownBackendNotification =>
    exact markDirty_revision _
  | snapshotStarted | snapshotReady | snapshotFailed | commandOutcomeResolved
  | consistencyReconciling | consistencyRestored | inferiorRemoved | inferiorExited | threadCreated
  | threadExited =>
    simp only [reduce, restoreConsistency, removeInferior, exitInferior, createThread, exitThread]
    repeat' split
    all_goals rfl
  | _ => rfl

/-- The revision numbers the events that report a change. -/
lemma applyEvent_revision {s s' : SessionState} {seq : ℕ} {e : DomainEvent} {changed : Bool}
    (h : s.applyEvent seq e = .ok (s', changed)) :
    s'.revision = s.revision + if changed then 1 else 0 := by
  have hrevision := { s with eventSeq := seq }.reduce_revision e
  unfold applyEvent at h
  cases hreduce : { s with eventSeq := seq }.reduce e with
  | mk r reported =>
    rw [hreduce] at h hrevision
    split at h
    · cases h
    · obtain ⟨rfl, rfl⟩ := Prod.mk.inj (Except.ok.inj h)
      cases reported with
      | true => exact congrArg (· + 1) hrevision
      | false => exact hrevision

variable {s : SessionState}

lemma clearStopContext_eq_self (hcontext : s.stopContext = .clear) (hsnapshot : s.snapshot = none) :
    s.clearStopContext = s := by
  obtain ⟨h₁, h₂, h₃, h₄, h₅⟩ := StopContext.mk.inj hcontext
  cases s
  simp only [clearStopContext] at *
  subst h₁ h₂ h₃ h₄ h₅ hsnapshot
  rfl

/-- `fail_backend` reports every change it makes. -/
lemma failBackend_false (hs : s.Coherent) (h : s.failBackend.2 = false) : s.failBackend.1 = s := by
  simp only [failBackend, Bool.or_eq_false_iff, decide_eq_false_iff_not, not_not,
    Option.isSome_eq_false_iff, Option.isNone_iff_eq_none, Registry.anyEntry_eq_false,
    Bool.not_eq_false'] at h
  obtain ⟨⟨⟨hlifecycle, hbackend⟩, hstop⟩, hall⟩ := h
  have hmap : (s.inferiors.map fun _ (i : InferiorState) =>
      if i.status.survivesFailure then i else { i with status := .disconnected }) = s.inferiors :=
    Registry.map_eq_self fun k i hi => if_pos (hall k i hi)
  have hclear := clearStopContext_eq_self (hs.cleared hstop).1 (hs.cleared hstop).2
  simp only [failBackend, hmap]
  rw [← hlifecycle, ← hbackend]
  exact hclear

/-- A running inferior is resumed to itself. -/
lemma resumeInferior_eq_self {i : InferiorState} (hi : RunningThreads i)
    (hrunning : i.status = .running) : resumeInferior i = i := by
  have hthreads : (i.threads.map fun _ (t : ThreadState) =>
      { t with running := true, frame := none }) = i.threads := by
    refine Registry.map_eq_self fun k t ht => ?_
    obtain ⟨hrun, hframe⟩ := hi hrunning k t ht
    rw [← hrun, ← hframe]
  rw [resumeInferior, hthreads, ← hrunning]

/-- The inferior that `TargetRunning` registers for an empty registry is one it names. -/
lemma named_head (names : List String) :
    (names.isEmpty || names.contains (names.head?.getD "i1")) = true := by
  cases names with
  | nil => rfl
  | cons name names => simp

/-- `TargetRunning` reports every change it makes. -/
lemma resume_false (hs : s.Coherent) {names : List String} (h : (s.resume names).2 = false) :
    (s.resume names).1 = s := by
  simp only [resume, Bool.or_eq_false_iff, Registry.anyEntry_eq_false, decide_eq_false_iff_not,
    not_not, Option.isSome_eq_false_iff, Option.isNone_iff_eq_none] at h
  obtain ⟨⟨⟨-, hstatus⟩, hstop⟩, hlifecycle⟩ := h
  have hnonempty : s.inferiors.isEmpty = false := by
    -- otherwise the inferior registered here would change its status
    by_contra hempty
    rw [Bool.not_eq_false] at hempty
    have hmissing : s.inferiors[names.head?.getD "i1"]? = none := by
      rw [Std.ExtTreeMap.isEmpty_iff.mp hempty]
      rfl
    have hfresh := s.ensureInferior_getElem? (names.head?.getD "i1") (names.head?.getD "i1")
    rw [if_pos rfl, inferiorAt, hmissing, Option.getD_none] at hfresh
    have hchanged := hstatus (names.head?.getD "i1") _ (by rw [if_pos hempty]; exact hfresh)
    rw [named_head] at hchanged
    simp [freshInferior] at hchanged
  simp only [hnonempty, Bool.false_eq_true, if_false] at hstatus
  have hmap : (s.inferiors.map fun k i =>
      if names.isEmpty || names.contains k then resumeInferior i else i) = s.inferiors := by
    refine Registry.map_eq_self fun k i hi => ?_
    split
    · rename_i hnamed
      have hrunning := hstatus k i hi
      rw [hnamed] at hrunning
      exact resumeInferior_eq_self (hs.threads k i hi) (by simpa using hrunning)
    · rfl
  have hclear := clearStopContext_eq_self (hs.cleared hstop).1 (hs.cleared hstop).2
  have hsteady : ¬ (!s.isRunning && s.isRunning) = true := by cases s.isRunning <;> simp
  simp only [resume, hnonempty, Bool.false_eq_true, if_false, hmap]
  rw [← hlifecycle]
  change { s with executionEpoch := if (!s.isRunning && s.isRunning) = true then
    s.executionEpoch + 1 else s.executionEpoch }.clearStopContext = s
  rw [if_neg hsteady]
  exact hclear

/-- `ThreadCreated` reports every change it makes. -/
lemma createThread_false {b t : String} (h : (s.createThread b t).2 = false) :
    (s.createThread b t).1 = s := by
  have hb := s.ensureInferior_getElem? b b
  rw [if_pos rfl] at hb
  simp only [createThread, hb, registerThread] at h ⊢
  cases hthread : (s.inferiorAt b).threads[t]? with
  | none => simp [hthread] at h
  | some known =>
    simp only [hthread, bne_eq_false_iff_eq] at h ⊢
    -- a thread is known, so its inferior was registered
    obtain ⟨i, hi⟩ : ∃ i, s.inferiors[b]? = some i := by
      cases hi : s.inferiors[b]? with
      | some i => exact ⟨i, rfl⟩
      | none => simp [inferiorAt, hi, freshInferior] at hthread
    have hsame : (s.inferiorAt b).threads.insert t { known with
        running := decide ((s.inferiorAt b).status = .running) } = (s.inferiorAt b).threads := by
      rw [← h]
      exact Registry.insert_eq_self hthread
    have hensure : (s.ensureInferior b).inferiors = s.inferiors := by
      refine Registry.ext fun k => ?_
      rw [ensureInferior_getElem?]
      split
      · rename_i hk
        rw [← hk, inferiorAt_eq hi, hi]
      · rfl
    simp only [hsame, hensure]
    rw [Registry.insert_eq_self (inferiorAt_eq hi ▸ hi)]
    rfl

/-- Outcomes that are not unknown can be resolved without a trace. -/
lemma resolve_false {token : ℕ} (hsilent : ¬ s.SilentChange (.commandOutcomeResolved token))
    (h : (s.reduce (.commandOutcomeResolved token)).2 = false) :
    (s.reduce (.commandOutcomeResolved token)).1 = s := by
  have hmissing : s.outcomeUnknownTokens.contains token = false := h
  have herase : s.outcomeUnknownTokens.erase token = s.outcomeUnknownTokens := by
    refine Std.ExtTreeSet.ext_contains fun a => ?_
    rw [Std.ExtTreeSet.contains_erase]
    by_cases ha : token = a
    · subst ha
      simp [hmissing]
    · simp [ha]
  simp only [reduce, herase]
  split
  · rename_i hempty
    have hbackend : s.backend = .healthy ∧ s.reconciliationRequired = true := by
      by_contra hnot
      refine hsilent ⟨Std.ExtTreeSet.isEmpty_iff.mp hempty, ?_⟩
      by_cases hb : s.backend = .healthy
      · exact .inr (by simpa [hb] using hnot)
      · exact .inl hb
    rw [← hbackend.1, ← hbackend.2]
  · rfl

variable {e : DomainEvent}

/-- Away from the two silent changes, an event that reports no change makes none. -/
lemma reduce_false (hs : s.Coherent) (hsilent : ¬ s.SilentChange e) (h : (s.reduce e).2 = false) :
    (s.reduce e).1 = s := by
  cases e with
  | backendExited _ => exact failBackend_false hs h
  | targetRunning names => exact resume_false hs h
  | threadCreated b t => exact createThread_false h
  | commandOutcomeResolved token => exact resolve_false hsilent h
  | inferiorRemoved b =>
    simp only [reduce, removeInferior] at h ⊢
    split at h
    · rfl
    · cases h
  | inferiorExited b exitCode fromStop =>
    simp only [reduce, exitInferior] at h ⊢
    split at h
    · rfl
    · cases h
  | threadExited b t =>
    simp only [reduce, exitThread] at h ⊢
    split at h
    · cases h
    · rfl
  | breakpointDeleted number =>
    have herase := Registry.erase_eq_self (Registry.contains_eq_false.mp h)
    simp only [reduce, herase]
  | breakpointLocations number locations =>
    have hmissing : s.breakpoints[number]? = none := Registry.contains_eq_false.mp h
    have hmodify := Registry.modify_eq_self (f := fun breakpoint : BreakpointState =>
      { breakpoint with locations := locations }) (fun v hv => by
        rw [hmissing] at hv
        cases hv)
    simp only [reduce, hmodify]
  | libraryUnloaded id =>
    have herase := Registry.erase_eq_self (Registry.contains_eq_false.mp h)
    simp only [reduce, herase]
  | snapshotStarted stopId | snapshotFailed stopId =>
    simp only [reduce] at h ⊢
    split at h
    · rename_i hstop
      rw [if_pos hstop]
      split at h
      · rename_i hready
        rw [if_pos hready]
      · cases h
    · rename_i hstop
      rw [if_neg hstop]
  | snapshotReady stopId snapshotId partialRead =>
    simp only [reduce] at h ⊢
    split at h
    · cases h
    · rename_i hstop
      rw [if_neg hstop]
  | consistencyReconciling =>
    simp only [reduce] at h ⊢
    split at h
    · rename_i htainted
      rw [if_pos htainted]
    · cases h
  | consistencyRestored warnings =>
    simp only [reduce, restoreConsistency] at h ⊢
    split at h
    · rename_i htainted
      have hempty : warnings = [] := by simpa using h
      subst hempty
      have hlifted : s.reconciliationRequired = false := by
        by_contra hrequired
        exact hsilent ⟨rfl, htainted, by simpa using hrequired⟩
      rw [if_pos htainted, List.foldl_nil, ← hlifted]
    · cases h
  | output _ _ | outputAdvanced _ _ _ _ => rfl
  | _ => cases h

/-- The two silent changes do change the state. -/
lemma SilentChange.changes (h : s.SilentChange e) :
    (s.reduce e).2 = false ∧ (s.reduce e).1 ≠ s := by
  cases e with
  | commandOutcomeResolved token =>
    obtain ⟨hempty, hchange⟩ := h
    simp only [reduce, hempty]
    refine ⟨rfl, fun heq => ?_⟩
    have hbackend := congrArg SessionState.backend heq
    have hrequired := congrArg SessionState.reconciliationRequired heq
    rcases hchange with hunhealthy | hnone
    · exact hunhealthy hbackend.symm
    · rw [hnone] at hrequired
      cases hrequired
  | consistencyRestored warnings =>
    obtain ⟨rfl, htainted, hrequired⟩ := h
    simp only [reduce, restoreConsistency, htainted, if_true]
    refine ⟨rfl, fun heq => ?_⟩
    have hlifted := congrArg SessionState.reconciliationRequired heq
    rw [hrequired] at hlifted
    cases hlifted
  | _ => exact h.elim

/-- An applied event reports what the reducer reports. -/
lemma applyEvent_eq_ok_false {s s' : SessionState} {seq : ℕ} (hseq : s.eventSeq < seq) :
    s.applyEvent seq e = .ok (s', false) ↔
      ({ s with eventSeq := seq }.reduce e).2 = false ∧
        s' = ({ s with eventSeq := seq }.reduce e).1 := by
  unfold applyEvent
  rw [if_neg (by omega)]
  cases hreduce : { s with eventSeq := seq }.reduce e with
  | mk r changed =>
    cases changed with
    | true => simp
    | false => simp [eq_comm]

/-- From every reachable state, an event that is applied without advancing the revision leaves
every field but the sequence number alone exactly when it is none of the two silent changes. -/
theorem applyEvent_false_iff (s : SessionState) (hreach : s.Reachable) (seq : ℕ)
    (hseq : s.eventSeq < seq) (e : DomainEvent) :
    (∀ s', s.applyEvent seq e = .ok (s', false) → s' = { s with eventSeq := seq }) ↔
      ¬ s.SilentChange e := by
  have hat : { s with eventSeq := seq }.Coherent :=
    { hreach.coherent with
      fresh := fun id hid => by
        obtain ⟨n, hn, rfl⟩ := hreach.coherent.fresh id hid
        exact ⟨n, le_trans hn hseq.le, rfl⟩ }
  have hsame : { s with eventSeq := seq }.SilentChange e ↔ s.SilentChange e := by
    cases e <;> rfl
  constructor
  · intro h hsilent
    obtain ⟨hfalse, hne⟩ := (hsame.mpr hsilent).changes
    exact hne (h _ ((applyEvent_eq_ok_false hseq).mpr ⟨hfalse, rfl⟩))
  · intro hsilent s' h
    obtain ⟨hfalse, rfl⟩ := (applyEvent_eq_ok_false hseq).mp h
    exact reduce_false hat (fun hs => hsilent (hsame.mp hs)) hfalse

/-- A session that an unknown raw command has tainted. -/
def taintedSession : SessionState :=
  { creating ⟨"sess_x"⟩ with
    consistency := .tainted
    reconciliationRequired := true
    eventSeq := 1
    revision := 1
    limitations := ["unknown raw command"] }

lemma reachable_taintedSession : taintedSession.Reachable :=
  ⟨⟨"sess_x"⟩, [(1, .consistencyTainted "unknown raw command")],
    .cons ⟨true, rfl⟩ (.nil _)⟩

/-- Reconciling a tainted session lifts the required reconciliation under the same revision. -/
theorem restored_without_revision :
    taintedSession.Reachable ∧
      ∃ s', taintedSession.applyEvent 2 (.consistencyRestored []) = .ok (s', false) ∧
        s' ≠ { taintedSession with eventSeq := 2 } :=
  ⟨reachable_taintedSession,
    { taintedSession with eventSeq := 2, reconciliationRequired := false }, rfl, by decide⟩

/-- A backend that reports output leaves the tainted session as it was. -/
theorem output_leaves_taintedSession :
    taintedSession.eventSeq < 2 ∧
      ∀ s', taintedSession.applyEvent 2 (.output .gdbLogStream []) = .ok (s', false) →
        s' = { taintedSession with eventSeq := 2 } :=
  ⟨by decide,
    (applyEvent_false_iff taintedSession reachable_taintedSession 2 (by decide)
      (.output .gdbLogStream [])).mpr fun h => h⟩

end SessionState

end GdbAi
