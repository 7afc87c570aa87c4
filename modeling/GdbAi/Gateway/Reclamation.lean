import GdbAi.Gateway.Retries

/-!
# Mutexes of retry keys

The calls of `dispatch_inner` in `gdb-ai-core/src/gateway.rs`, as clients of a registry of mutexes
by key: every step of a call is an operation of `KeyedLocks`.  `release_idempotency_lock` counts
the references to a mutex and runs before the call drops its own.  A call that releases the mutex
last, while another one has released it and not yet dropped its reference, therefore leaves the
entry where it is, and nothing removes it until the key is used again.
-/

namespace GdbAi

/-- The call has not returned. -/
def Call.inFlight (call : Call) : Bool :=
  match call.phase with
  | .returned _ => false
  | _ => true

namespace Retries

/-- The mutexes of a gateway and the references of its calls. -/
def table (s : Retries) : KeyedLocks.Table where
  registry := s.locks
  next := s.nextLock
  tickets := s.tickets

/-- Where a call with one of the keys releases its mutex, another call has still to release it, or
none has a reference any more. -/
def timely (keys : String → Bool) (s : Retries) : RetryAction → Bool
  | .release i =>
    s.calls[i]?.all fun call =>
      match call.phase with
      | .unlocked lock _ => !keys call.key || KeyedLocks.timely s.tickets i lock
      | _ => true
  | _ => true

/-- A step, if it is in time. -/
def performTimely (keys : String → Bool) (s : Retries) (action : RetryAction) : Option Retries :=
  if s.timely keys action then s.perform action else none

variable {s s' : Retries} {keys : String → Bool} {i : ℕ} {call : Call}

/-! ### A step of a call as an operation on the mutexes -/

/-- A call goes on and keeps what it has of its mutex. -/
lemma step_same {moved : Call} {phase : Phase} (hi : s.calls[i]? = some call)
    (hsame : ({ moved with phase := phase } : Call).ticket = call.ticket)
    (hlocks : s'.locks = s.locks) (hnext : s'.nextLock = s.nextLock) (hcalls : s'.calls = s.calls) :
    KeyedLocks.Step keys s.table (s'.move i moved phase).table := by
  have htable : (s'.move i moved phase).table = s.table := by
    obtain ⟨hlt, hget⟩ := List.getElem?_eq_some_iff.mp (getElem?_tickets hi)
    have hset : s.tickets.set i call.ticket = s.tickets := by
      rw [← hget, List.set_getElem_self hlt]
    simp only [table, move, tickets, hlocks, hnext, hcalls, List.map_set, hsame,
      KeyedLocks.Table.mk.injEq, true_and]
    exact hset
  rw [htable]
  exact .stay

/-- The table after a call has moved. -/
lemma table_move (s : Retries) (i : ℕ) (call : Call) (phase : Phase) :
    (s.move i call phase).table =
      ⟨s.locks, s.nextLock, s.tickets.set i ({ call with phase := phase } : Call).ticket⟩ := by
  rw [table, tickets_move]
  rfl

/-- A step in time is one operation on the mutexes. -/
lemma perform_step {action : RetryAction} (hstep : s.performTimely keys action = some s') :
    KeyedLocks.Step keys s.table s'.table := by
  unfold performTimely at hstep
  split at hstep
  swap
  · cases hstep
  rename_i htime
  cases action with
  | arrive request caller mode fingerprint =>
    obtain ⟨key, -, rfl⟩ := Option.map_eq_some_iff.mp hstep
    have htable : ({ s with calls := s.calls ++
        [{ request := request, key := key, fingerprint := fingerprint }] } : Retries).table =
          { s.table with tickets := s.table.tickets ++ [none] } := by
      simp [table, tickets, Call.ticket]
    rw [htable]
    exact .arrive
  | enroll i =>
    obtain ⟨call, hi, hp⟩ := Option.bind_eq_some_iff.mp hstep
    split at hp
    · rename_i hphase
      obtain rfl := Option.some.inj hp
      rw [table_move]
      refine .enroll (s := s.table) i call.key ?_
      exact (getElem?_tickets hi).trans (by simp [Call.ticket, hphase])
    · cases hp
  | acquire i =>
    obtain ⟨call, hi, hp⟩ := Option.bind_eq_some_iff.mp hstep
    split at hp
    · rename_i lock hphase
      split at hp
      · cases hp
      · rename_i hfree
        obtain rfl := Option.some.inj hp
        rw [table_move]
        refine .acquire (s := s.table) i call.key lock ?_ (Bool.eq_false_iff.mpr hfree)
        exact (getElem?_tickets hi).trans (by simp [Call.ticket, hphase])
    · cases hp
  | lookMemory i state evidence =>
    obtain ⟨call, hi, hp⟩ := Option.bind_eq_some_iff.mp hstep
    split at hp
    · rename_i lock hphase
      split at hp
      · split at hp <;> obtain rfl := Option.some.inj hp <;>
          exact step_same hi (by simp [Call.ticket, hphase]) rfl rfl rfl
      · obtain rfl := Option.some.inj hp
        exact step_same hi (by simp [Call.ticket, hphase]) rfl rfl rfl
    · cases hp
  | lookStore i fault state evidence =>
    obtain ⟨call, hi, hp⟩ := Option.bind_eq_some_iff.mp hstep
    split at hp
    · rename_i lock hphase
      split at hp <;> obtain rfl := Option.some.inj hp <;>
        exact step_same hi (by simp [Call.ticket, hphase]) rfl rfl rfl
    · cases hp
  | finish i | put i | cache i =>
    obtain ⟨call, hi, hp⟩ := Option.bind_eq_some_iff.mp hstep
    split at hp
    · rename_i hphase
      obtain rfl := Option.some.inj hp
      exact step_same hi (by simp [Call.ticket, hphase]) rfl rfl rfl
    · cases hp
  | unlock i =>
    obtain ⟨call, hi, hp⟩ := Option.bind_eq_some_iff.mp hstep
    split at hp
    · rename_i lock response hphase
      obtain rfl := Option.some.inj hp
      rw [table_move]
      refine .giveUp (s := s.table) i call.key lock ?_
      exact (getElem?_tickets hi).trans (by simp [Call.ticket, hphase])
    · cases hp
  | release i =>
    obtain ⟨call, hi, hp⟩ := Option.bind_eq_some_iff.mp hstep
    split at hp
    · rename_i lock response hphase
      obtain rfl := Option.some.inj hp
      rw [table_move]
      refine .release (s := s.table) i call.key lock ?_ ?_
      · exact (getElem?_tickets hi).trans (by simp [Call.ticket, hphase])
      · intro hkey
        have htimely : KeyedLocks.timely s.tickets i lock = true := by
          simpa [timely, hi, hphase, hkey] using htime
        exact htimely
    · cases hp
  | leave i =>
    obtain ⟨call, hi, hp⟩ := Option.bind_eq_some_iff.mp hstep
    split at hp
    · rename_i lock response hphase
      obtain rfl := Option.some.inj hp
      rw [table_move]
      refine .leave (s := s.table) i call.key lock ?_
      exact (getElem?_tickets hi).trans (by simp [Call.ticket, hphase])
    · cases hp

/-! ### Whole runs -/

/-- Mutexes are reclaimed in every state of a run. -/
lemma reclaiming_of_run {rows : Registry StoredResponse} {actions : List RetryAction}
    (hrun : Runs.Run (fun s action s' => s.performTimely keys action = some s') (start rows)
      actions s) : KeyedLocks.Reclaiming keys s.table := by
  refine hrun.invariant (P := fun s => KeyedLocks.Reclaiming keys s.table) ?_ ?_
  · refine ⟨KeyedLocks.Consistent.nil ∅, ⟨[], rfl, ?_, ?_⟩, ?_⟩
    · intro key lock hlock
      simp [table, start] at hlock
    · intro t ht
      simp [table, tickets, start] at ht
    · intro key lock _ hlock
      simp [table, start] at hlock
  · intro s action s' h hstep
    exact h.step (perform_step hstep)

/-- Only a call in flight has something of a mutex. -/
lemma inFlight_of_ticket {t : KeyedLocks.Ticket} (h : call.ticket = some t) :
    call.inFlight = true := by
  unfold Call.ticket at h
  unfold Call.inFlight
  cases hphase : call.phase <;> simp only [hphase] at h <;> cases h <;> rfl

end Retries

/-- Calls with the given retry keys, in any interleaving in which the last of them to release a
mutex finds no reference of a call that released it before: once no call of such a key is in
flight, the registry has no mutex for it; and if this is so for all keys, the registry has no more
mutexes than there are calls in flight. -/
theorem idempotency_locks_reclaimed {keys : String → Bool} {rows : Registry StoredResponse}
    {actions : List RetryAction} {s : Retries}
    (hrun : Runs.Run (fun s action s' => s.performTimely keys action = some s')
      (Retries.start rows) actions s) :
    (∀ key, keys key = true → (∀ call ∈ s.calls, call.key = key → call.inFlight = false) →
      s.locks[key]? = none) ∧
    ((∀ key, keys key = true) → s.locks.size ≤ s.calls.countP Call.inFlight) := by
  have hreclaiming := Retries.reclaiming_of_run hrun
  constructor
  · intro key hkey hidle
    by_contra hsome
    obtain ⟨lock, hlock⟩ := Option.ne_none_iff_exists'.mp hsome
    obtain ⟨t, ht, htkey⟩ := hreclaiming.exists_user hkey hlock
    obtain ⟨call, hcall, hticket⟩ := List.mem_map.mp ht
    have hflight := Retries.inFlight_of_ticket hticket
    rw [hidle call hcall ((Retries.ticket_key hticket).symm.trans htkey)] at hflight
    cases hflight
  · intro hall
    refine (hreclaiming.size_le hall).trans ?_
    rw [Retries.table, Retries.tickets, List.countP_map]
    refine List.countP_mono_left fun call _ hsome => ?_
    obtain ⟨t, ht⟩ := Option.isSome_iff_exists.mp hsome
    exact Retries.inFlight_of_ticket ht

/-- Two calls of one key: the second waits for the first, and finds its response. -/
def twoCalls (last : List RetryAction) : List RetryAction :=
  [.arrive listSessions ⟨"alice", false⟩ .canonical "h",
    .arrive listSessions ⟨"alice", false⟩ .canonical "h",
    .enroll 0, .enroll 1, .acquire 0, .lookMemory 0 none [], .lookStore 0 none none [],
    .finish 0 listed, .put 0 5 none, .cache 0, .unlock 0, .acquire 1, .lookMemory 1 none [],
    .unlock 1] ++ last

/-- The first call drops its reference before the second one releases the mutex. -/
theorem early_drop_reclaimed :
    ∃ s, Runs.Run (fun s action s' => s.performTimely (fun _ => true) action = some s')
        (Retries.start ∅) (twoCalls [.release 0, .leave 0, .release 1, .leave 1]) s ∧
      s.calls.all (fun call => !call.inFlight) = true ∧
      s.locks[ "alice:global:session.list:k"]? = none ∧ s.locks.size ≤ 0 := by
  have heval : ((twoCalls [.release 0, .leave 0, .release 1, .leave 1]).foldlM
      (Retries.performTimely fun _ => true) (Retries.start ∅)).any
        (fun s => s.calls.all fun call => !call.inFlight) = true := by
    decide +kernel
  obtain ⟨s, hs, hidle⟩ := (Option.any_eq_true _ _).mp heval
  have hrun := Runs.Run.of_foldlM hs
  have hall : ∀ call ∈ s.calls, call.inFlight = false := by
    simpa using hidle
  obtain ⟨hnone, hsize⟩ := idempotency_locks_reclaimed hrun
  refine ⟨s, hrun, hidle, hnone _ rfl fun call hcall _ => hall call hcall, ?_⟩
  refine (hsize fun _ => rfl).trans (le_of_eq (List.countP_eq_zero.mpr fun call hcall => ?_))
  simp [hall call hcall]

/-- Both calls release the mutex before either of them drops its reference: both have returned,
and the registry keeps the entry. -/
theorem late_drop_keeps_lock :
    ∃ s, Runs.Run (fun s action s' => s.perform action = some s') (Retries.start ∅)
        (twoCalls [.release 0, .release 1, .leave 0, .leave 1]) s ∧
      s.calls.all (fun call => !call.inFlight) = true ∧
      s.locks[ "alice:global:session.list:k"]? = some 0 ∧ s.locks.size = 1 := by
  have heval : ((twoCalls [.release 0, .release 1, .leave 0, .leave 1]).foldlM
      Retries.perform (Retries.start ∅)).any (fun s =>
        s.calls.all (fun call => !call.inFlight) &&
          (s.locks[ "alice:global:session.list:k"]? = some 0 && s.locks.size = 1)) = true := by
    decide +kernel
  obtain ⟨s, hs, hview⟩ := (Option.any_eq_true _ _).mp heval
  simp only [Bool.and_eq_true, decide_eq_true_eq] at hview
  exact ⟨s, Runs.Run.of_foldlM hs, hview⟩

end GdbAi
