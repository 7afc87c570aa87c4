import GdbAi.Reducer
import GdbAi.Library.Runs

/-!
# What an event can do to the target

Most events leave the inferiors, the execution epoch and the stop context alone; `reduce_target`
says so once.  Of the others, `reduce_stop` says what becomes of the stop: it is kept together
with the epoch, it is cleared, or `TargetStopped` sets a fresh one.  A run of the reducer applies
events with increasing sequence numbers.
-/

namespace GdbAi

open Runs

namespace SessionState

/-- The part of the state that belongs to the debugged target. -/
structure Target where
  sessionId : SessionId
  eventSeq : ℕ
  executionEpoch : ℕ
  stopId : Option StopId
  stopReason : Option String
  stopReasonDetail : Option StopReason
  stoppedInferiorId : Option InferiorId
  stoppedThreadId : Option ThreadId
  inferiors : Registry InferiorState

/-- The target of a session state. -/
def target (s : SessionState) : Target where
  sessionId := s.sessionId
  eventSeq := s.eventSeq
  executionEpoch := s.executionEpoch
  stopId := s.stopId
  stopReason := s.stopReason
  stopReasonDetail := s.stopReasonDetail
  stoppedInferiorId := s.stoppedInferiorId
  stoppedThreadId := s.stoppedThreadId
  inferiors := s.inferiors

end SessionState

/-- Events about the target itself. -/
def DomainEvent.isTargetEvent : DomainEvent → Bool
  | .backendExited _ | .targetRunning _ | .targetStopped .. | .inferiorAdded .. | .inferiorRemoved _
  | .inferiorExited .. | .threadCreated .. | .threadExited .. | .targetDisconnected
  | .targetDetached | .coreOpened _ => true
  | _ => false

namespace SessionState

@[simp] lemma markDirty_target (s : SessionState) : s.markDirty.target = s.target := by
  unfold markDirty
  split <;> rfl

@[simp] lemma markDirty_snapshot (s : SessionState) : s.markDirty.snapshot = s.snapshot := by
  unfold markDirty
  split <;> rfl

variable {e : DomainEvent}

/-- The other events leave the target alone. -/
lemma reduce_target (s : SessionState) (h : e.isTargetEvent = false) :
    (s.reduce e).1.target = s.target := by
  cases e with
  | backendExited | targetRunning | targetStopped | inferiorAdded | inferiorRemoved
  | inferiorExited | threadCreated | threadExited | targetDisconnected | targetDetached
  | coreOpened => simp [DomainEvent.isTargetEvent] at h
  | commandOutcomeUnknown token => exact markDirty_target _
  | consistencyDirty reason => exact markDirty_target _
  | unknownBackendNotification cls => exact markDirty_target _
  | snapshotStarted stopId | snapshotReady stopId snapshotId partialRead | snapshotFailed stopId
  | commandOutcomeResolved token | consistencyReconciling =>
    simp only [reduce]
    repeat' split
    all_goals rfl
  | consistencyRestored warnings =>
    simp only [reduce, restoreConsistency]
    split <;> rfl
  | _ => rfl

/-- The stop a snapshot was taken at. -/
def snapshotStop (s : SessionState) : Option StopId := s.snapshot.map (·.stopId)

/-- The other events keep the snapshot's stop, drop the snapshot or start one for this stop. -/
lemma reduce_snapshotStop (s : SessionState) (h : e.isTargetEvent = false) :
    (s.reduce e).1.snapshotStop = s.snapshotStop ∨ (s.reduce e).1.snapshotStop = none ∨
      (s.reduce e).1.snapshotStop = s.stopId := by
  cases e with
  | backendExited | targetRunning | targetStopped | inferiorAdded | inferiorRemoved
  | inferiorExited | threadCreated | threadExited | targetDisconnected | targetDetached
  | coreOpened => simp [DomainEvent.isTargetEvent] at h
  | memoryChanged | registerChanged _ => exact .inr (.inl rfl)
  | snapshotStarted stopId =>
    simp only [reduce]
    split
    · rename_i hstop
      split
      · exact .inl rfl
      · exact .inr (.inr hstop.symm)
    · exact .inl rfl
  | snapshotReady stopId snapshotId partialRead =>
    left
    simp only [reduce]
    split
    · simp [snapshotStop, Function.comp_def]
    · rfl
  | snapshotFailed stopId =>
    left
    simp only [reduce]
    split
    · split
      · rfl
      · simp [snapshotStop, Function.comp_def]
    · rfl
  | commandOutcomeUnknown token =>
    exact .inl (congrArg (Option.map _) (markDirty_snapshot _))
  | consistencyDirty reason => exact .inl (congrArg (Option.map _) (markDirty_snapshot _))
  | unknownBackendNotification cls => exact .inl (congrArg (Option.map _) (markDirty_snapshot _))
  | commandOutcomeResolved token | consistencyReconciling =>
    left
    simp only [reduce]
    split <;> rfl
  | consistencyRestored warnings =>
    left
    simp only [reduce, restoreConsistency]
    split <;> rfl
  | _ => exact .inl rfl

/-- The context of a stop: everything that is meaningful only while it is current. -/
structure StopContext where
  stopId : Option StopId
  stopReason : Option String
  stopReasonDetail : Option StopReason
  stoppedInferiorId : Option InferiorId
  stoppedThreadId : Option ThreadId
  deriving DecidableEq

/-- The stop context of a state. -/
def stopContext (s : SessionState) : StopContext :=
  ⟨s.stopId, s.stopReason, s.stopReasonDetail, s.stoppedInferiorId, s.stoppedThreadId⟩

/-- The context without a stop. -/
def StopContext.clear : StopContext := ⟨none, none, none, none, none⟩

/-- What an event does to the stop. -/
inductive StopEffect (s : SessionState) (e : DomainEvent) (s' : SessionState) : Prop
  | kept (context : s'.stopContext = s.stopContext)
      (epoch : s'.executionEpoch = s.executionEpoch)
      (snapshot : s'.snapshotStop = s.snapshotStop ∨ s'.snapshotStop = none ∨
        s'.snapshotStop = s.stopId)
      (notRunning : ∀ names, e ≠ .targetRunning names)
      (notStopped : ∀ b t reason detail frame, e ≠ .targetStopped b t reason detail frame)
  | cleared (context : s'.stopContext = .clear) (snapshot : s'.snapshot = none)
  | set (stopId : s'.stopId = some (StopId.fromEvent s.sessionId s.eventSeq))
      (snapshot : s'.snapshotStop = s'.stopId)
      (stopped : ∃ b t reason detail frame, e = .targetStopped b t reason detail frame)

variable {s s' : SessionState}

/-- A step that changes neither the context nor the snapshot. -/
lemma StopEffect.of_same (context : s'.stopContext = s.stopContext)
    (epoch : s'.executionEpoch = s.executionEpoch) (snapshot : s'.snapshot = s.snapshot)
    (notRunning : ∀ names, e ≠ .targetRunning names)
    (notStopped : ∀ b t reason detail frame, e ≠ .targetStopped b t reason detail frame) :
    StopEffect s e s' :=
  .kept context epoch (.inl (congrArg (Option.map _) snapshot)) notRunning notStopped

/-- Every event keeps the stop with its epoch, clears it, or sets a fresh one. -/
lemma reduce_stop (s : SessionState) (e : DomainEvent) : StopEffect s e (s.reduce e).1 := by
  cases ht : e.isTargetEvent with
  | false =>
    have htarget := s.reduce_target ht
    refine .kept ?_ (congrArg Target.executionEpoch htarget) (s.reduce_snapshotStop ht) ?_ ?_
    · exact congrArg (fun t : Target => StopContext.mk t.stopId t.stopReason t.stopReasonDetail
        t.stoppedInferiorId t.stoppedThreadId) htarget
    · rintro names rfl
      simp [DomainEvent.isTargetEvent] at ht
    · rintro b t reason detail frame rfl
      simp [DomainEvent.isTargetEvent] at ht
  | true =>
    cases e with
    | backendExited _ | targetRunning _ | targetDisconnected | targetDetached =>
      exact .cleared rfl rfl
    | targetStopped b t reason detail frame => exact .set rfl rfl ⟨b, t, reason, detail, frame, rfl⟩
    | inferiorAdded _ _ | coreOpened _ => exact .of_same rfl rfl rfl (by simp) (by simp)
    | inferiorRemoved backendId =>
      simp only [reduce, removeInferior]
      split
      · exact .of_same rfl rfl rfl (by simp) (by simp)
      split
      · exact .cleared rfl rfl
      · exact .of_same rfl rfl rfl (by simp) (by simp)
    | inferiorExited backendId exitCode fromStopRecord =>
      simp only [reduce, exitInferior]
      split
      · exact .of_same rfl rfl rfl (by simp) (by simp)
      split
      · exact .cleared rfl rfl
      · exact .of_same rfl rfl rfl (by simp) (by simp)
    | threadCreated backendInferior backendThread =>
      simp only [reduce, createThread]
      repeat' split
      all_goals exact .of_same rfl rfl rfl (by simp) (by simp)
    | threadExited backendInferior backendThread =>
      simp only [reduce, exitThread]
      split <;> exact .of_same rfl rfl rfl (by simp) (by simp)
    | _ => simp [DomainEvent.isTargetEvent] at ht

/-- Events keep the session and the sequence number they are applied at. -/
lemma reduce_identity (s : SessionState) (e : DomainEvent) :
    (s.reduce e).1.sessionId = s.sessionId ∧ (s.reduce e).1.eventSeq = s.eventSeq := by
  cases ht : e.isTargetEvent with
  | false =>
    have htarget := s.reduce_target ht
    exact ⟨congrArg Target.sessionId htarget, congrArg Target.eventSeq htarget⟩
  | true =>
    cases e with
    | inferiorRemoved _ | inferiorExited _ _ _ | threadCreated _ _ | threadExited _ _ =>
      simp only [reduce, removeInferior, exitInferior, createThread, exitThread]
      repeat' split
      all_goals exact ⟨rfl, rfl⟩
    | backendExited _ | targetRunning _ | targetStopped _ _ _ _ _ | inferiorAdded _ _
    | targetDisconnected | targetDetached | coreOpened _ => exact ⟨rfl, rfl⟩
    | _ => simp [DomainEvent.isTargetEvent] at ht

/-! ### One inferior at a time -/

/-- What an event can do to the inferior registered at the key `k`. -/
inductive InferiorStep (s : SessionState) (k : String) :
    DomainEvent → InferiorState → InferiorState → Prop
  | same {e : DomainEvent} (i : InferiorState)
      (notStopped : ∀ b t reason detail frame, e ≠ .targetStopped b t reason detail frame) :
      InferiorStep s k e i i
  | process {pid : Option ℕ} (i : InferiorState) :
      InferiorStep s k (.inferiorAdded k pid) i (addProcess s.sessionId s.eventSeq k pid i)
  | status {e : DomainEvent} (i : InferiorState) {status : InferiorStatus}
      (exitCode : Option String) (notRunning : status ≠ .running) :
      InferiorStep s k e i { i with status := status, exitCode := exitCode }
  | resume {names : List String} (i : InferiorState) :
      InferiorStep s k (.targetRunning names) i (resumeInferior i)
  | stop {e : DomainEvent} (i : InferiorState) : InferiorStep s k e i (stopInferior i)
  | stopThread {e : DomainEvent} (i : InferiorState) (frame : Option FrameSummary)
      (thread : String) :
      InferiorStep s k e i (stopThread s.eventSeq frame thread (stopInferior i)).1
  | createThread {thread : String} (i : InferiorState) :
      InferiorStep s k (.threadCreated k thread) i (registerThread s.eventSeq thread i).1
  | exitThread {b : Option String} {thread : String} (i : InferiorState)
      (owner : s.threadOwner b thread = some k) :
      InferiorStep s k (.threadExited b thread) i { i with threads := i.threads.erase thread }

/-- The inferior at a key, or the one that `ensure_inferior` would register there. -/
def inferiorAt (s : SessionState) (k : String) : InferiorState :=
  s.inferiors[k]?.getD (freshInferior s.sessionId s.eventSeq k)

/-- An inferior is registered at a key only by a step from what stood there, and is dropped
only when it is removed. -/
def InferiorEffect (s : SessionState) (e : DomainEvent) (s' : SessionState) (k : String) : Prop :=
  (s'.inferiors[k]? = none ∧ (s.inferiors[k]? = none ∨ e = .inferiorRemoved k)) ∨
    ∃ i', s'.inferiors[k]? = some i' ∧ InferiorStep s k e (s.inferiorAt k) i'

lemma ensureInferior_getElem? (s : SessionState) (b k : String) :
    (s.ensureInferior b).inferiors[k]? = if b = k then some (s.inferiorAt k) else s.inferiors[k]? := by
  unfold ensureInferior inferiorAt
  split
  · rename_i hmem
    split
    · rename_i hk
      subst hk
      obtain ⟨i, hi⟩ : ∃ i, s.inferiors[b]? = some i := by
        rwa [Std.ExtTreeMap.contains_eq_isSome_getElem?, Option.isSome_iff_exists] at hmem
      simp [hi]
    · rfl
  · rename_i hmem
    rw [Registry.getElem?_insert]
    split
    · rename_i hk
      subst hk
      rw [Std.ExtTreeMap.contains_eq_isSome_getElem?, Option.not_isSome_iff_eq_none] at hmem
      simp [hmem]
    · rfl

lemma inferiorAt_eq {s : SessionState} {k : String} {i : InferiorState}
    (h : s.inferiors[k]? = some i) : s.inferiorAt k = i := by
  rw [inferiorAt, h, Option.getD_some]

lemma ensureInferior_modify (s : SessionState) (b k : String) (f : InferiorState → InferiorState) :
    ((s.ensureInferior b).inferiors.modify b f)[k]? =
      if b = k then some (f (s.inferiorAt k)) else s.inferiors[k]? := by
  rw [Registry.getElem?_modify, ensureInferior_getElem?, ensureInferior_getElem?]
  split
  · rename_i hk
    subst hk
    simp
  · rfl

/-- The key at which an event registers an inferior when there is none. -/
def subject (s : SessionState) : DomainEvent → Option String
  | .inferiorAdded b _ | .threadCreated b _ | .coreOpened b => some b
  | .inferiorExited b _ _ => s.attributedInferior b
  | .targetRunning names => if s.inferiors.isEmpty then some (names.head?.getD "i1") else none
  | .targetStopped b t _ _ _ => some (s.stoppedBackend b t)
  | _ => none

/-- Whether `InferiorExited` finds the connection of its inferior lost. -/
def losesConnection (s : SessionState) (backendId : String) (exitCode : Option String)
    (fromStopRecord : Bool) : Bool :=
  s.targetOrigin = .remote && !fromStopRecord && exitCode.isNone &&
    (s.inferiors[backendId]?).all fun inferior => inferior.status ≠ .exited

/-- What an event does to the inferior at the key `k`. -/
def update (s : SessionState) (k : String) : DomainEvent → InferiorState → InferiorState
  | .backendExited _, i => if i.status.survivesFailure then i else { i with status := .disconnected }
  | .inferiorAdded b pid, i => if b = k then addProcess s.sessionId s.eventSeq b pid i else i
  | .inferiorExited b exitCode fromStopRecord, i =>
    if s.attributedInferior b = some k then
      exitProcess (s.losesConnection k exitCode fromStopRecord) exitCode i
    else i
  | .targetRunning names, i =>
    if names.isEmpty || names.contains k then resumeInferior i else i
  | .targetStopped b t _ _ frame, i =>
    match t with
    | some thread =>
      if s.stoppedBackend b t = k then (stopThread s.eventSeq frame thread (stopInferior i)).1
      else stopInferior i
    | none => stopInferior i
  | .threadCreated b thread, i => if b = k then (registerThread s.eventSeq thread i).1 else i
  | .threadExited b thread, i =>
    if s.threadOwner b thread = some k then { i with threads := i.threads.erase thread } else i
  | .targetDisconnected, i => { i with status := .disconnected }
  | .targetDetached, i => { i with status := .detached }
  | .coreOpened b, i => if b = k then { i with status := .core } else i
  | _, i => i

/-- The inferior at a key behind an event that registers and updates its own inferior. -/
lemma ensureInferior_update {s : SessionState} {b k : String} {f : InferiorState → InferiorState}
    (hsubject : s.subject e = some b) (hown : s.update b e = f) (hother : b ≠ k → s.update k e = id) :
     ((s.ensureInferior b).inferiors.modify b f)[k]? =
      (if s.subject e = some k then some (s.inferiorAt k) else s.inferiors[k]?).map
        (s.update k e) := by
  rw [ensureInferior_modify, hsubject]
  by_cases hk : b = k
  · subst hk
    rw [if_pos rfl, if_pos rfl, Option.map_some, hown]
  · rw [if_neg hk, if_neg (fun h => hk (Option.some.inj h)), hother hk, Option.map_id_fun, id]

lemma reduce_getElem?_stop (s : SessionState) (b t : Option String) (reason : String)
    (detail : Option StopReason) (frame : Option FrameSummary) (k : String) :
    (s.reduce (.targetStopped b t reason detail frame)).1.inferiors[k]? =
      (if s.stoppedBackend b t = k then some (s.inferiorAt k) else s.inferiors[k]?).map
        (s.update k (.targetStopped b t reason detail frame)) := by
  set backendId := s.stoppedBackend b t with hbackend
  set inferiors := (s.ensureInferior backendId).inferiors.map fun _ i => stopInferior i
    with hinferiors
  have hlookup : ∀ k' : String, inferiors[k']? =
      (if backendId = k' then some (s.inferiorAt k') else s.inferiors[k']?).map stopInferior := by
    intro k'
    rw [hinferiors, Registry.getElem?_map, ensureInferior_getElem?]
  cases t with
  | none => exact hlookup k
  | some thread =>
    have hstopped : inferiors[backendId]? = some (stopInferior (s.inferiorAt backendId)) := by
      rw [hlookup, if_pos rfl, Option.map_some]
    have hk : (s.reduce (.targetStopped b (some thread) reason detail frame)).1.inferiors[k]? =
        (inferiors.insert backendId
          (stopThread s.eventSeq frame thread (stopInferior (s.inferiorAt backendId))).1)[k]? := by
      simp only [reduce, SessionState.stop, Option.bind_some]
      rw [← hbackend, ← hinferiors, hstopped]
      rfl
    rw [hk, Registry.getElem?_insert, hlookup]
    by_cases hkey : backendId = k
    · subst hkey
      rw [if_pos rfl, if_pos rfl, Option.map_some]
      simp only [update, ← hbackend, if_true]
    · rw [if_neg hkey, if_neg hkey]
      refine congrArg (Option.map · s.inferiors[k]?) (funext fun i => ?_)
      simp only [update, ← hbackend, if_neg hkey]

/-- Every event registers at most its subject and updates the inferiors one at a time. -/
lemma reduce_getElem? (s : SessionState) (e : DomainEvent) (k : String)
    (hremoved : e ≠ .inferiorRemoved k) :
    (s.reduce e).1.inferiors[k]? =
      (if s.subject e = some k then some (s.inferiorAt k) else s.inferiors[k]?).map
        (s.update k e) := by
  have hsame {f : InferiorState → InferiorState} (hf : f = id) :
      s.inferiors[k]?.map f = s.inferiors[k]? := by
    rw [hf, Option.map_id_fun, id]
  cases ht : e.isTargetEvent with
  | false =>
    have hinferiors := congrArg Target.inferiors (s.reduce_target ht)
    have hlookup : (s.reduce e).1.inferiors[k]? = s.inferiors[k]? := congrArg (·[k]?) hinferiors
    cases e with
    | backendExited | targetRunning | targetStopped | inferiorAdded | inferiorRemoved
    | inferiorExited | threadCreated | threadExited | targetDisconnected | targetDetached
    | coreOpened => simp [DomainEvent.isTargetEvent] at ht
    | _ => exact hlookup.trans (hsame rfl).symm
  | true =>
    cases e with
    | backendExited status => exact Registry.getElem?_map _ _ k
    | targetRunning names =>
      have hlookup : (s.reduce (.targetRunning names)).1.inferiors[k]? =
          (if s.inferiors.isEmpty then (s.ensureInferior (names.head?.getD "i1")).inferiors
            else s.inferiors)[k]?.map (s.update k (.targetRunning names)) :=
        Registry.getElem?_map _ _ k
      rw [hlookup]
      unfold subject
      by_cases hempty : s.inferiors.isEmpty = true
      · simp only [hempty, if_true, Option.some.injEq, ensureInferior_getElem?]
      · simp only [hempty, if_false, Bool.false_eq_true, reduceCtorEq]
    | targetStopped b t reason detail frame =>
      rw [reduce_getElem?_stop]
      simp only [subject, Option.some.injEq]
    | inferiorAdded b pid =>
      refine ensureInferior_update rfl ?_ fun hk => ?_
      · exact funext fun i => if_pos rfl
      · exact funext fun i => if_neg hk
    | inferiorRemoved b =>
      have hk : b ≠ k := fun h => hremoved (h ▸ rfl)
      have herase : (s.inferiors.erase b)[k]? = s.inferiors[k]? := by
        rw [Registry.getElem?_erase, if_neg hk]
      have hlookup : (s.reduce (.inferiorRemoved b)).1.inferiors[k]? = s.inferiors[k]? := by
        simp only [reduce, removeInferior]
        split
        · rfl
        · split <;> exact herase
      exact hlookup.trans (hsame rfl).symm
    | inferiorExited b exitCode fromStop =>
      cases hb : s.attributedInferior b with
      | none =>
        have hlookup : (s.reduce (.inferiorExited b exitCode fromStop)).1.inferiors[k]? =
            s.inferiors[k]? := by simp only [reduce, exitInferior, hb]
        rw [hlookup, subject, hb, if_neg (by simp)]
        refine (hsame (funext fun i => ?_)).symm
        simp [update, hb]
      | some backendId =>
        have hlookup : (s.reduce (.inferiorExited b exitCode fromStop)).1.inferiors[k]? =
            ((s.ensureInferior backendId).inferiors.modify backendId
              (exitProcess (s.losesConnection backendId exitCode fromStop) exitCode))[k]? := by
          simp only [reduce, exitInferior, hb]
          split <;> rfl
        rw [hlookup]
        refine ensureInferior_update hb ?_ fun hk => ?_
        · exact funext fun i => if_pos hb
        · exact funext fun i => if_neg fun h => hk (Option.some.inj (hb.symm.trans h))
    | threadCreated b thread =>
      have hb := s.ensureInferior_getElem? b b
      rw [if_pos rfl] at hb
      simp only [reduce, createThread, hb]
      rw [Registry.getElem?_insert, ensureInferior_getElem?]
      by_cases hk : b = k
      · subst hk
        simp only [if_true, subject, Option.map_some, update]
        rfl
      · rw [if_neg hk, if_neg hk, subject, if_neg (fun h => hk (Option.some.inj h))]
        exact (hsame (funext fun i => if_neg hk)).symm
    | threadExited b thread =>
      cases howner : s.threadOwner b thread with
      | none =>
        have hlookup : (s.reduce (.threadExited b thread)).1.inferiors[k]? = s.inferiors[k]? := by
          simp only [reduce, exitThread, howner]
        refine hlookup.trans (hsame (funext fun i => ?_)).symm
        simp [update, howner]
      | some owner =>
        have hlookup : (s.reduce (.threadExited b thread)).1.inferiors[k]? =
            (s.inferiors.modify owner fun i =>
              { i with threads := i.threads.erase thread })[k]? := by
          simp only [reduce, exitThread, howner]
        have hsubject : (if s.subject (.threadExited b thread) = some k then some (s.inferiorAt k)
            else s.inferiors[k]?) = s.inferiors[k]? := if_neg (by simp [subject])
        rw [hlookup, Registry.getElem?_modify, hsubject]
        by_cases hk : owner = k
        · subst hk
          rw [if_pos rfl]
          refine congrArg (Option.map · s.inferiors[owner]?) (funext fun i => ?_)
          simp [update, howner]
        · rw [if_neg hk]
          refine (hsame (funext fun i => ?_)).symm
          exact if_neg fun h => hk (Option.some.inj (howner.symm.trans h))
    | targetDisconnected => exact Registry.getElem?_map _ _ k
    | targetDetached => exact Registry.getElem?_map _ _ k
    | coreOpened b =>
      refine ensureInferior_update rfl ?_ fun hk => ?_
      · exact funext fun i => if_pos rfl
      · exact funext fun i => if_neg hk
    | _ => simp [DomainEvent.isTargetEvent] at ht

lemma update_step (s : SessionState) (k : String) (e : DomainEvent) (i : InferiorState) :
    InferiorStep s k e i (s.update k e i) := by
  cases e with
  | backendExited status =>
    simp only [update]
    split
    · exact .same i (by simp)
    · exact .status i i.exitCode (by simp)
  | inferiorAdded b pid =>
    simp only [update]
    split
    · rename_i hk
      subst hk
      exact .process i
    · exact .same i (by simp)
  | inferiorExited b exitCode fromStop =>
    simp only [update]
    split
    · exact .status i _ (by split <;> simp)
    · exact .same i (by simp)
  | targetRunning names =>
    simp only [update]
    split
    · exact .resume i
    · exact .same i (by simp)
  | targetStopped b t reason detail frame =>
    simp only [update]
    split
    · split
      · exact .stopThread i frame _
      · exact .stop i
    · exact .stop i
  | threadCreated b thread =>
    simp only [update]
    split
    · rename_i hk
      subst hk
      exact .createThread i
    · exact .same i (by simp)
  | threadExited b thread =>
    simp only [update]
    split
    · rename_i howner
      exact .exitThread i howner
    · exact .same i (by simp)
  | targetDisconnected => exact .status i i.exitCode (by simp)
  | targetDetached => exact .status i i.exitCode (by simp)
  | coreOpened b =>
    simp only [update]
    split
    · exact .status i i.exitCode (by simp)
    · exact .same i (by simp)
  | _ => exact .same i (by simp)

/-- A removed inferior is not registered. -/
lemma reduce_getElem?_removed (s : SessionState) (k : String) :
    (s.reduce (.inferiorRemoved k)).1.inferiors[k]? = none := by
  simp only [reduce, removeInferior]
  split
  · rename_i hnone
    exact hnone
  · have herase : (s.inferiors.erase k)[k]? = none := by
      rw [Registry.getElem?_erase, if_pos rfl]
    split <;> exact herase

/-- Every event changes the registry one inferior at a time, as `InferiorStep` says. -/
lemma reduce_inferior (s : SessionState) (e : DomainEvent) (k : String) :
    InferiorEffect s e (s.reduce e).1 k := by
  by_cases hremoved : e = .inferiorRemoved k
  · subst hremoved
    exact .inl ⟨s.reduce_getElem?_removed k, .inr rfl⟩
  have hlookup := s.reduce_getElem? e k hremoved
  by_cases hsubject : s.subject e = some k
  · rw [if_pos hsubject, Option.map_some] at hlookup
    exact .inr ⟨_, hlookup, s.update_step k e _⟩
  · rw [if_neg hsubject] at hlookup
    cases hk : s.inferiors[k]? with
    | none => exact .inl ⟨by rw [hlookup, hk]; rfl, .inl hk⟩
    | some i =>
      refine .inr ⟨s.update k e i, by rw [hlookup, hk]; rfl, ?_⟩
      rw [inferiorAt_eq hk]
      exact s.update_step k e i

/-! ### Runs of the reducer -/

/-- One event applied at its sequence number. -/
def Applies (s : SessionState) (journaled : ℕ × DomainEvent) (s' : SessionState) : Prop :=
  ∃ changed, s.applyEvent journaled.1 journaled.2 = .ok (s', changed)

/-- An event applies at a later sequence number; it reduces the state there. -/
lemma applies_iff {seq : ℕ} : s.Applies (seq, e) s' ↔ s.eventSeq < seq ∧
      let r := { s with eventSeq := seq }.reduce e
      s' = if r.2 then { r.1 with revision := r.1.revision + 1 } else r.1 := by
  unfold Applies applyEvent
  split
  · rename_i h
    constructor
    · rintro ⟨_, h'⟩
      cases h'
    · rintro ⟨hlt, -⟩
      omega
  · rename_i h
    constructor
    · rintro ⟨changed, h'⟩
      obtain ⟨rfl, -⟩ := Prod.mk.inj (Except.ok.inj h')
      exact ⟨by omega, rfl⟩
    · rintro ⟨-, rfl⟩
      exact ⟨_, rfl⟩

/-- Applying an event reduces the state at its sequence number, up to the revision. -/
lemma Applies.reduce {seq : ℕ} (h : s.Applies (seq, e) s') : s.eventSeq < seq ∧ ∃ revision,
      s' = { ({ s with eventSeq := seq }.reduce e).1 with revision := revision } := by
  obtain ⟨hlt, rfl⟩ := applies_iff.mp h
  refine ⟨hlt, ?_⟩
  dsimp only
  split
  · exact ⟨_, rfl⟩
  · exact ⟨_, rfl⟩

/-- Applying an event keeps the session and moves on in the sequence. -/
lemma Applies.identity {journaled : ℕ × DomainEvent} (h : s.Applies journaled s') :
    s'.sessionId = s.sessionId ∧ s.eventSeq < s'.eventSeq ∧ s'.eventSeq = journaled.1 := by
  obtain ⟨hlt, revision, rfl⟩ := h.reduce
  obtain ⟨hsession, hseq⟩ := { s with eventSeq := journaled.1 }.reduce_identity journaled.2
  exact ⟨hsession, by rw [hseq]; exact hlt, hseq⟩

/-- The states a session can reach. -/
def Reachable (s : SessionState) : Prop :=
  ∃ session es, Run Applies (creating session) es s

/-- A session stopped at a breakpoint in the only thread of its inferior. -/
def stoppedSession : SessionState :=
  { { creating ⟨"sess_x"⟩ with eventSeq := 1 }.stop (some "i1") (some "1") "breakpoint-hit" none none
    with revision := 1 }

lemma applies_stoppedSession :
    (creating ⟨"sess_x"⟩).Applies
      (1, .targetStopped (some "i1") (some "1") "breakpoint-hit" none none) stoppedSession :=
  ⟨true, rfl⟩

end SessionState

end GdbAi
