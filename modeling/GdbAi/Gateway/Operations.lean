import GdbAi.Gateway.Outcome
import GdbAi.Library.Runs

/-!
# The registry of operations

`OperationRegistry`, `admit_operation_with_mode`, `detach_operation_waiter`,
`release_delivered_operation` and `cancel_request_operation` of
`gdb-ai-core/src/gateway/operation.rs`, cut at their lock sections: the sections of the map of
entries, and those of the lock of one entry, of which a cancellation keeps the lock across its
round trip to the session.  An entry lives on outside the map as long as a task or a caller has
it, so `operations` lists every operation that was ever admitted and the map points into it.
-/

namespace GdbAi

/-! ### One operation -/

/-- `RequestOperationCancellation`. -/
inductive RequestOperationCancellation where
  | waiterOnly | actorScoped
  deriving DecidableEq, Repr

/-- How far the task of an operation is. -/
inductive OperationTask where
  | spawned
  | dispatching
  | responded (response : ApiResponse)
  | finished

/-- `OperationEntry` with its record, and the task that works for it. -/
structure Operation where
  id : String
  owner : String
  sessionId : Option String
  cancellation : RequestOperationCancellation
  status : RequestOperationStatus := .accepted
  waiterDetached : Bool := false
  result : Option ApiResponse := none
  /-- The lock `transition` is held by a cancellation that waits for the session. -/
  cancelling : Bool := false
  cancelled : Bool := false
  cancellationApplied : Bool := false
  task : OperationTask := .spawned

/-- How the round trip of a cancellation to the session ends. -/
inductive CancelOutcome where
  | applied
  /-- The session has no active resume of the operation. -/
  | refused
  | failed
  deriving DecidableEq, Repr

/-- The sections of one operation. -/
inductive OperationSection where
  /-- The task starts. -/
  | start
  /-- The dispatch of the task returns, or panics and is answered for. -/
  | respond (response : ApiResponse)
  /-- The task records the outcome. -/
  | complete
  /-- `bind_operation_session`. -/
  | bind (sessionId : String)
  /-- `cancel_request_operation`, up to its round trip to the session. -/
  | cancel
  /-- `cancel_request_operation`, behind the round trip. -/
  | settle (outcome : CancelOutcome)
  /-- `detach_operation_waiter`, which takes no lock. -/
  | detach

namespace Operation

/-- The first half of a cancellation: it fails for a completed operation and for one that only
its waiter can leave, and it ends here for an operation that has no session yet. -/
def requestCancel (operation : Operation) : Operation :=
  if operation.status.terminal then operation
  else if operation.cancellation ≠ .actorScoped then operation
  else
    { operation with
      cancelled := true
      status := .cancelRequested
      cancelling := operation.sessionId.isSome }

/-- One section, if it can be entered. -/
def perform (operation : Operation) : OperationSection → Option Operation
  | .start =>
    match operation.task with
    | .spawned =>
      if operation.cancelling then none
      else some { operation with
        status := if operation.status = .accepted then .running else operation.status
        task := .dispatching }
    | _ => none
  | .respond response =>
    match operation.task with
    | .dispatching => some { operation with task := .responded response }
    | _ => none
  | .complete =>
    match operation.task with
    | .responded response =>
      if operation.cancelling then none
      else some { operation with
        status := terminalStatus response operation.status operation.cancellationApplied
        result := some response
        task := .finished }
    | _ => none
  | .bind sessionId =>
    if operation.cancelling then none else some { operation with sessionId := some sessionId }
  | .cancel => if operation.cancelling then none else some operation.requestCancel
  | .settle outcome =>
    if operation.cancelling then
      some { operation with
        cancelling := false
        cancellationApplied := operation.cancellationApplied || outcome = .applied }
    else none
  | .detach => some { operation with waiterDetached := true }

end Operation

/-! ### The registry -/

/-- `OperationRegistry`: the map of entries, by the number of the operation. -/
structure Operations where
  maximum : ℕ
  entries : Registry ℕ
  operations : List Operation

/-- `OperationRegistry::new`. -/
def Operations.new (maximum : ℕ) : Operations where
  maximum := max maximum 1
  entries := ∅
  operations := []

/-- One step.  A caller or a task that looked an entry up still has it after the entry left the
map, so a section names its operation by the number. -/
inductive OperationAct where
  | admission (id owner : String) (sessionId : Option String)
      (cancellation : RequestOperationCancellation)
  | enter (i : ℕ) (part : OperationSection)
  | release (id : String) (caller : Caller)

namespace Operations

/-- Whether an entry of the map has a terminal status. -/
def completed (s : Operations) (i : ℕ) : Bool :=
  s.operations[i]?.any fun operation => operation.status.terminal

/-- The map with the first completed entry evicted, if there is no room for another. -/
def evict (s : Operations) : Registry ℕ :=
  if s.maximum ≤ s.entries.size then
    match s.entries.first fun _ i => s.completed i with
    | some (id, _) => s.entries.erase id
    | none => s.entries
  else s.entries

/-- `OperationRegistry::insert`; it fails if there is still no room. -/
def insert (s : Operations) (operation : Operation) : Operations :=
  if s.maximum ≤ s.evict.size then { s with entries := s.evict }
  else
    { s with
      entries := s.evict.insert operation.id s.operations.length
      operations := s.operations ++ [operation] }

/-- What `remove_delivered` asks of an entry. -/
def removable (s : Operations) (caller : Caller) (i : ℕ) : Bool :=
  s.operations[i]?.any fun operation =>
    (caller.admin || samePrincipal operation.owner caller.identity) &&
      operation.status.terminal && !operation.waiterDetached

/-- `OperationRegistry::remove_delivered`. -/
def removeDelivered (s : Operations) (id : String) (caller : Caller) : Operations :=
  if s.entries[id]?.any (s.removable caller) then { s with entries := s.entries.erase id } else s

/-- One step, if it can be taken: `OperationId::new` gives an identifier that was never used. -/
def perform (s : Operations) : OperationAct → Option Operations
  | .admission id owner sessionId cancellation =>
    if s.operations.any fun operation => operation.id = id then none
    else some (s.insert ⟨id, owner, sessionId, cancellation, .accepted, false, none, false, false,
      false, .spawned⟩)
  | .enter i part =>
    s.operations[i]?.bind fun operation =>
      (operation.perform part).map fun next => { s with operations := s.operations.set i next }
  | .release id caller => some (s.removeDelivered id caller)

end Operations

/-! ### What a section can do -/

/-- The order in which a status moves. -/
def RequestOperationStatus.rank : RequestOperationStatus → ℕ
  | .accepted => 0
  | .running => 1
  | .cancelRequested => 2
  | .succeeded | .failed | .outcomeUnknown | .aborted => 3

/-- One operation at an earlier and at a later time. -/
structure Operation.Forward (before after : Operation) : Prop where
  id : after.id = before.id
  rank : before.status.rank ≤ after.status.rank
  final : before.status.terminal = true →
    after.status = before.status ∧ after.result = before.result

/-- What holds of every operation at every time. -/
structure Operation.Lawful (operation : Operation) : Prop where
  /-- There is a result exactly when the status is terminal. -/
  result : operation.result.isSome = operation.status.terminal
  /-- The task has something to do exactly while the status is not terminal. -/
  task : (∃ response, operation.task = .responded response) ∨ operation.task = .dispatching ∨
    operation.task = .spawned → operation.status.terminal = false
  requested : operation.status = .cancelRequested → operation.cancelled = true
  /-- A cancellation that is waiting for the session has marked the operation. -/
  waiting : operation.cancelling = true → operation.status = .cancelRequested
  /-- An aborted operation was cancelled, and the cancellation was applied or reported. -/
  aborted : operation.status = .aborted → operation.cancelled = true ∧
    (operation.cancellationApplied = true ∨
      ∃ response error, operation.result = some response ∧ response.error = some error ∧
        error.code = .cancelled)

namespace Operation

variable {operation next : Operation}

lemma Forward.refl (operation : Operation) : Forward operation operation :=
  ⟨rfl, le_rfl, fun _ => ⟨rfl, rfl⟩⟩

lemma Forward.trans {first second third : Operation} (h : Forward first second)
    (h' : Forward second third) : Forward first third := by
  refine ⟨h'.id.trans h.id, h.rank.trans h'.rank, fun hterminal => ?_⟩
  obtain ⟨hstatus, hresult⟩ := h.final hterminal
  obtain ⟨hstatus', hresult'⟩ := h'.final (by rw [hstatus, hterminal])
  exact ⟨hstatus'.trans hstatus, hresult'.trans hresult⟩

lemma operationStatus_terminal (response : ApiResponse) :
    (operationStatus response).terminal = true ∧ operationStatus response ≠ .aborted := by
  unfold operationStatus
  split
  · exact ⟨rfl, by decide⟩
  · split
    · exact ⟨rfl, by decide⟩
    · exact ⟨rfl, by decide⟩

lemma terminalStatus_terminal (response : ApiResponse) (current : RequestOperationStatus)
    (applied : Bool) : (terminalStatus response current applied).terminal = true := by
  unfold terminalStatus completedStatus
  split
  · rfl
  · split
    · rfl
    · exact (operationStatus_terminal response).1

/-- An operation is recorded as aborted only if it was marked, and the cancellation was applied
or reported by the response. -/
lemma terminalStatus_aborted {response : ApiResponse} {current : RequestOperationStatus}
    {applied : Bool} (h : terminalStatus response current applied = .aborted) :
    current = .cancelRequested ∧ (applied = true ∨
      ∃ error, response.error = some error ∧ error.code = .cancelled) := by
  unfold terminalStatus completedStatus at h
  split at h
  · cases h
  · split at h
    · rename_i hcancel
      rw [Bool.and_eq_true, Bool.or_eq_true, decide_eq_true_eq, Option.any_eq_true] at hcancel
      obtain ⟨hcurrent, happlied | ⟨error, herror, hcode⟩⟩ := hcancel
      · exact ⟨hcurrent, .inl happlied⟩
      · exact ⟨hcurrent, .inr ⟨error, herror, by simpa using hcode⟩⟩
    · exact absurd h (operationStatus_terminal response).2

lemma rank_of_terminal {status : RequestOperationStatus} (h : status.terminal = true) :
    status.rank = 3 := by
  cases status <;> first | rfl | cases h

lemma rank_le_of_not_terminal {status : RequestOperationStatus} (h : status.terminal = false) :
    status.rank ≤ 2 := by
  cases status <;> first | decide | cases h

/-- A section moves the status forward, and does not touch what is final. -/
lemma Lawful.forward {part : OperationSection} (h : operation.Lawful)
    (hp : operation.perform part = some next) : Forward operation next := by
  cases part with
  | start =>
    simp only [perform] at hp
    split at hp
    · rename_i htask
      split at hp
      · cases hp
      · obtain rfl := Option.some.inj hp
        have hlive := h.task (.inr (.inr htask))
        refine ⟨rfl, ?_, fun hterminal => by simp [hlive] at hterminal⟩
        change _ ≤ (if operation.status = .accepted then _ else operation.status).rank
        split
        · rename_i haccepted
          simp [haccepted, RequestOperationStatus.rank]
        · exact le_rfl
    · cases hp
  | respond response =>
    simp only [perform] at hp
    split at hp
    · obtain rfl := Option.some.inj hp
      exact ⟨rfl, le_rfl, fun _ => ⟨rfl, rfl⟩⟩
    · cases hp
  | complete =>
    simp only [perform] at hp
    split at hp
    · rename_i response htask
      split at hp
      · cases hp
      · obtain rfl := Option.some.inj hp
        have hlive := h.task (.inl ⟨response, htask⟩)
        refine ⟨rfl, ?_, fun hterminal => by simp [hlive] at hterminal⟩
        have hrank := rank_of_terminal
          (terminalStatus_terminal response operation.status operation.cancellationApplied)
        have hle := rank_le_of_not_terminal hlive
        change operation.status.rank ≤ (terminalStatus response operation.status _).rank
        omega
    · cases hp
  | bind sessionId =>
    simp only [perform] at hp
    split at hp
    · cases hp
    · obtain rfl := Option.some.inj hp
      exact ⟨rfl, le_rfl, fun _ => ⟨rfl, rfl⟩⟩
  | cancel =>
    simp only [perform] at hp
    split at hp
    · cases hp
    · obtain rfl := Option.some.inj hp
      unfold requestCancel
      split
      · exact Forward.refl operation
      · rename_i hlive
        split
        · exact Forward.refl operation
        · exact ⟨rfl, rank_le_of_not_terminal (by simpa using hlive),
            fun hterminal => absurd hterminal hlive⟩
  | settle outcome =>
    simp only [perform] at hp
    split at hp
    · obtain rfl := Option.some.inj hp
      exact ⟨rfl, le_rfl, fun _ => ⟨rfl, rfl⟩⟩
    · cases hp
  | detach =>
    obtain rfl := Option.some.inj hp
    exact ⟨rfl, le_rfl, fun _ => ⟨rfl, rfl⟩⟩

lemma lawful_admitted (id owner : String) (sessionId : Option String)
    (cancellation : RequestOperationCancellation) :
    Lawful ⟨id, owner, sessionId, cancellation, .accepted, false, none, false, false, false,
      .spawned⟩ := by
  constructor <;> simp [RequestOperationStatus.terminal]

/-- Every section keeps the laws. -/
lemma Lawful.perform {part : OperationSection} (h : operation.Lawful)
    (hp : operation.perform part = some next) : next.Lawful := by
  cases part with
  | start =>
    simp only [Operation.perform] at hp
    split at hp
    · rename_i htask
      split at hp
      · cases hp
      · rename_i hfree
        obtain rfl := Option.some.inj hp
        have hlive := h.task (.inr (.inr htask))
        have hstatus : (if operation.status = .accepted then RequestOperationStatus.running
            else operation.status).terminal = false := by
          split
          · rfl
          · exact hlive
        refine ⟨h.result.trans (hlive.trans hstatus.symm), fun _ => hstatus, ?_, ?_, ?_⟩
        · intro hrequested
          change (if operation.status = .accepted then _ else operation.status) = _ at hrequested
          split at hrequested
          · cases hrequested
          · exact h.requested hrequested
        · intro hcancelling
          exact absurd hcancelling hfree
        · intro haborted
          change (if operation.status = .accepted then _ else operation.status) = _ at haborted
          split at haborted
          · cases haborted
          · exact h.aborted haborted
    · cases hp
  | respond response =>
    simp only [Operation.perform] at hp
    split at hp
    · rename_i htask
      obtain rfl := Option.some.inj hp
      exact ⟨h.result, fun _ => h.task (.inr (.inl htask)), h.requested, h.waiting, h.aborted⟩
    · cases hp
  | complete =>
    simp only [Operation.perform] at hp
    split at hp
    · rename_i response htask
      split at hp
      · cases hp
      · rename_i hfree
        obtain rfl := Option.some.inj hp
        have hterminal :=
          terminalStatus_terminal response operation.status operation.cancellationApplied
        refine ⟨hterminal.symm, ?_, ?_, ?_, ?_⟩
        · rintro (⟨response', h'⟩ | h' | h') <;> cases h'
        · intro hrequested
          change terminalStatus _ _ _ = _ at hrequested
          rw [hrequested] at hterminal
          cases hterminal
        · intro hcancelling
          exact absurd hcancelling hfree
        · intro haborted
          obtain ⟨hcurrent, happlied | ⟨error, herror, hcode⟩⟩ := terminalStatus_aborted haborted
          · exact ⟨h.requested hcurrent, .inl happlied⟩
          · exact ⟨h.requested hcurrent, .inr ⟨response, error, rfl, herror, hcode⟩⟩
    · cases hp
  | bind sessionId =>
    simp only [Operation.perform] at hp
    split at hp
    · cases hp
    · obtain rfl := Option.some.inj hp
      exact ⟨h.result, h.task, h.requested, h.waiting, h.aborted⟩
  | cancel =>
    simp only [Operation.perform] at hp
    split at hp
    · cases hp
    · obtain rfl := Option.some.inj hp
      unfold requestCancel
      split
      · exact h
      · rename_i hlive
        split
        · exact h
        · have hnone : operation.result.isSome = false := by
            rw [h.result]
            simpa using hlive
          exact ⟨hnone, fun _ => rfl, fun _ => rfl, fun _ => rfl, fun haborted => by cases haborted⟩
  | settle outcome =>
    simp only [Operation.perform] at hp
    split at hp
    · obtain rfl := Option.some.inj hp
      refine ⟨h.result, h.task, h.requested, nofun, fun haborted => ?_⟩
      obtain ⟨hcancelled, happlied | hreported⟩ := h.aborted haborted
      · exact ⟨hcancelled, .inl (by simp [happlied])⟩
      · exact ⟨hcancelled, .inr hreported⟩
    · cases hp
  | detach =>
    obtain rfl := Option.some.inj hp
    exact ⟨h.result, h.task, h.requested, h.waiting, h.aborted⟩

end Operation

/-! ### What a step can do -/

/-- What every step keeps. -/
structure Operations.Lawful (s : Operations) : Prop where
  operations : ∀ operation ∈ s.operations, operation.Lawful
  /-- An entry of the map is an operation that was admitted under its identifier. -/
  entries : ∀ (id : String) (i : ℕ), s.entries[id]? = some i →
    ∃ operation, s.operations[i]? = some operation ∧ operation.id = id
  size : s.entries.size ≤ s.maximum
  room : 0 < s.maximum

namespace Operations

variable {s s' : Operations}

lemma lawful_new (maximum : ℕ) : (new maximum).Lawful := by
  refine ⟨fun _ h => by simp [new] at h, fun id i h => by simp [new] at h, ?_, ?_⟩
  · simp [new]
  · simp [new]

/-- What is left after an eviction was there, and only a completed entry goes. -/
lemma evict_lookup {id : String} {i : ℕ} :
    (s.evict[id]? = some i → s.entries[id]? = some i) ∧
      (s.entries[id]? = some i → s.evict[id]? = some i ∨ s.completed i = true) := by
  unfold evict
  split
  · split
    · rename_i other j hfirst
      obtain ⟨hj, hcompleted⟩ := Registry.first_eq_some hfirst
      rw [Registry.getElem?_erase]
      split
      · rename_i heq
        subst heq
        refine ⟨nofun, fun h => .inr ?_⟩
        rw [hj] at h
        obtain rfl := Option.some.inj h
        exact hcompleted
      · exact ⟨fun h => h, .inl⟩
    · exact ⟨fun h => h, .inl⟩
  · exact ⟨fun h => h, .inl⟩

lemma evict_size (s : Operations) : s.evict.size ≤ s.entries.size := by
  unfold evict
  split
  · split
    · exact Std.ExtTreeMap.size_erase_le
    · exact le_rfl
  · exact le_rfl

/-- One operation more or the same ones. -/
lemma Lawful.insert (h : s.Lawful) {operation : Operation} (hnew : operation.Lawful) :
    (s.insert operation).Lawful := by
  have hentries : ∀ (id : String) (i : ℕ), s.evict[id]? = some i →
      ∃ op, s.operations[i]? = some op ∧ op.id = id :=
    fun id i hi => h.entries id i (evict_lookup.1 hi)
  unfold Operations.insert
  split
  · exact ⟨h.operations, hentries, (evict_size s).trans h.size, h.room⟩
  · rename_i hroom
    refine ⟨?_, ?_, ?_, h.room⟩
    · intro op hop
      rcases List.mem_append.mp hop with hop | hop
      · exact h.operations op hop
      · rw [List.mem_singleton.mp hop]
        exact hnew
    · intro id i hi
      change (s.evict.insert operation.id s.operations.length)[id]? = some i at hi
      rw [Registry.getElem?_insert] at hi
      split at hi
      · rename_i hid
        obtain rfl := Option.some.inj hi
        exact ⟨operation, by simp, hid⟩
      · obtain ⟨op, hop, hopid⟩ := hentries id i hi
        refine ⟨op, ?_, hopid⟩
        rw [List.getElem?_append_left (List.getElem?_eq_some_iff.mp hop).1, hop]
    · have hle : (s.evict.insert operation.id s.operations.length).size ≤ s.evict.size + 1 :=
        Std.ExtTreeMap.size_insert_le
      change (s.evict.insert _ _).size ≤ s.maximum
      omega

lemma getElem?_set_cases {operations : List Operation} {j : ℕ} {op : Operation} (i : ℕ)
    (next : Operation) (h : operations[j]? = some op) :
    (operations.set i next)[j]? = some next ∧ j = i ∨ (operations.set i next)[j]? = some op := by
  by_cases hij : j = i
  · subst hij
    exact .inl ⟨List.getElem?_set_self (List.getElem?_eq_some_iff.mp h).1, rfl⟩
  · exact .inr (by rw [List.getElem?_set_ne (fun heq => hij heq.symm), h])

/-- A section of one operation. -/
lemma Lawful.enter (h : s.Lawful) {i : ℕ} {operation next : Operation} {part : OperationSection}
    (hi : s.operations[i]? = some operation) (hp : operation.perform part = some next) :
    Lawful { s with operations := s.operations.set i next } := by
  have hold := h.operations operation (List.mem_iff_getElem?.mpr ⟨i, hi⟩)
  refine ⟨?_, ?_, h.size, h.room⟩
  · intro op hop
    rcases List.mem_or_eq_of_mem_set hop with hop | rfl
    · exact h.operations op hop
    · exact hold.perform hp
  · intro id j hj
    obtain ⟨op, hop, hopid⟩ := h.entries id j hj
    rcases getElem?_set_cases i next hop with ⟨hnext, rfl⟩ | hsame
    · refine ⟨next, hnext, ?_⟩
      rw [hi] at hop
      rw [(hold.forward hp).id, Option.some.inj hop, hopid]
    · exact ⟨op, hsame, hopid⟩

lemma Lawful.removeDelivered (h : s.Lawful) (id : String) (caller : Caller) :
    (s.removeDelivered id caller).Lawful := by
  unfold Operations.removeDelivered
  split
  · refine ⟨h.operations, ?_, Std.ExtTreeMap.size_erase_le.trans h.size, h.room⟩
    intro id' i hi
    rw [Registry.getElem?_erase] at hi
    split at hi
    · cases hi
    · exact h.entries id' i hi
  · exact h

/-- Every step keeps the laws. -/
lemma Lawful.perform {act : OperationAct} (h : s.Lawful) (hp : s.perform act = some s') :
    s'.Lawful := by
  cases act with
  | admission id owner sessionId cancellation =>
    simp only [Operations.perform] at hp
    split at hp
    · cases hp
    · obtain rfl := Option.some.inj hp
      exact h.insert (Operation.lawful_admitted id owner sessionId cancellation)
  | enter i part =>
    obtain ⟨operation, hi, hp⟩ := Option.bind_eq_some_iff.mp hp
    obtain ⟨next, hnext, rfl⟩ := Option.map_eq_some_iff.mp hp
    exact h.enter hi hnext
  | release id caller =>
    obtain rfl := Option.some.inj hp
    exact h.removeDelivered id caller

/-- Every operation goes forward in a step. -/
lemma Lawful.forward {act : OperationAct} (h : s.Lawful) (hp : s.perform act = some s') {j : ℕ}
    {operation : Operation} (hj : s.operations[j]? = some operation) :
    ∃ later, s'.operations[j]? = some later ∧ operation.Forward later := by
  cases act with
  | admission id owner sessionId cancellation =>
    simp only [Operations.perform] at hp
    split at hp
    · cases hp
    · obtain rfl := Option.some.inj hp
      refine ⟨operation, ?_, .refl operation⟩
      unfold Operations.insert
      split
      · exact hj
      · exact (List.getElem?_append_left (List.getElem?_eq_some_iff.mp hj).1).trans hj
  | enter i part =>
    obtain ⟨current, hi, hp⟩ := Option.bind_eq_some_iff.mp hp
    obtain ⟨next, hnext, rfl⟩ := Option.map_eq_some_iff.mp hp
    have hforward := (h.operations current (List.mem_iff_getElem?.mpr ⟨i, hi⟩)).forward hnext
    rcases getElem?_set_cases i next hj with ⟨hset, rfl⟩ | hsame
    · rw [hi] at hj
      obtain rfl := Option.some.inj hj
      exact ⟨next, hset, hforward⟩
    · exact ⟨operation, hsame, .refl operation⟩
  | release id caller =>
    obtain rfl := Option.some.inj hp
    refine ⟨operation, ?_, .refl operation⟩
    unfold Operations.removeDelivered
    split <;> exact hj

/-- An entry leaves the map only when its operation is completed, and in a delivery only if its
waiter is not detached. -/
lemma removed_completed {act : OperationAct} (hp : s.perform act = some s') {id : String} {i : ℕ}
    (hi : s.entries[id]? = some i) (hgone : s'.entries[id]? = none) :
    ∃ operation, s.operations[i]? = some operation ∧ operation.status.terminal = true ∧
      ∀ id' caller, act = .release id' caller → operation.waiterDetached = false := by
  cases act with
  | admission id' owner sessionId cancellation =>
    simp only [Operations.perform] at hp
    split at hp
    · cases hp
    · obtain rfl := Option.some.inj hp
      rcases evict_lookup.2 hi with hkept | hcompleted
      · unfold Operations.insert at hgone
        split at hgone
        · rw [hkept] at hgone
          cases hgone
        · change (s.evict.insert _ _)[id]? = none at hgone
          rw [Registry.getElem?_insert] at hgone
          split at hgone
          · cases hgone
          · rw [hkept] at hgone
            cases hgone
      · obtain ⟨operation, hoperation, hterminal⟩ := (Option.any_eq_true _ _).mp hcompleted
        exact ⟨operation, hoperation, hterminal, fun _ _ heq => by cases heq⟩
  | enter j part =>
    obtain ⟨current, hj, hp⟩ := Option.bind_eq_some_iff.mp hp
    obtain ⟨next, -, rfl⟩ := Option.map_eq_some_iff.mp hp
    rw [hi] at hgone
    cases hgone
  | release id' caller =>
    obtain rfl := Option.some.inj hp
    unfold Operations.removeDelivered at hgone
    split at hgone
    · rename_i hremovable
      rw [Registry.getElem?_erase] at hgone
      split at hgone
      · rename_i heq
        subst heq
        rw [hi, Option.any_some] at hremovable
        obtain ⟨operation, hoperation, hasked⟩ := (Option.any_eq_true _ _).mp hremovable
        rw [Bool.and_eq_true, Bool.and_eq_true, Bool.not_eq_true'] at hasked
        exact ⟨operation, hoperation, hasked.1.2, fun _ _ _ => hasked.2⟩
      · rw [hi] at hgone
        cases hgone
    · rw [hi] at hgone
      cases hgone

end Operations

/-- A step of the registry. -/
def OperationStep (s : Operations) (act : OperationAct) (s' : Operations) : Prop :=
  s.perform act = some s'

/-- Every state of a run is lawful. -/
lemma Operations.lawful_of_run {maximum : ℕ} {acts : List OperationAct} {s : Operations}
    (hrun : Runs.Run OperationStep (Operations.new maximum) acts s) : s.Lawful :=
  hrun.invariant (Operations.lawful_new maximum) fun _ _ _ h hstep => h.perform hstep

/-- Along a run an operation goes forward. -/
lemma Operations.forward_of_run {acts : List OperationAct} {s s' : Operations} (h : s.Lawful)
    (hrun : Runs.Run OperationStep s acts s') {i : ℕ} {operation : Operation}
    (hi : s.operations[i]? = some operation) :
    ∃ later, s'.operations[i]? = some later ∧ operation.Forward later := by
  induction hrun generalizing operation with
  | nil s => exact ⟨operation, hi, .refl operation⟩
  | cons head tail ih =>
    obtain ⟨next, hnext, hforward⟩ := h.forward head hi
    obtain ⟨later, hlater, hforward'⟩ := ih (h.perform head) hnext
    exact ⟨later, hlater, hforward.trans hforward'⟩

/-- The life of the operations of a registry, in every interleaving of admissions, task starts,
completions, cancellations, detachments and deliveries.  From any state to any later one a status
only moves forward, and a terminal one and its result stay; there is a result exactly when the
status is terminal; an aborted operation was cancelled, and the session applied the cancellation
or the response reported it; an entry leaves the map only when it is completed, and in a delivery
only when it is not detached; and the map never holds more than its maximum. -/
theorem operation_lifecycle {maximum : ℕ} {acts : List OperationAct} {s : Operations}
    (hrun : Runs.Run OperationStep (Operations.new maximum) acts s) :
    (∀ operation ∈ s.operations,
      (operation.result.isSome = operation.status.terminal) ∧
      (operation.status = .aborted → operation.cancelled = true ∧
        (operation.cancellationApplied = true ∨
          ∃ response error, operation.result = some response ∧ response.error = some error ∧
            error.code = .cancelled))) ∧
    s.entries.size ≤ max maximum 1 ∧
    (∀ later acts', Runs.Run OperationStep s acts' later →
      ∀ (i : ℕ) (operation : Operation), s.operations[i]? = some operation →
        ∃ operation', later.operations[i]? = some operation' ∧
          operation.status.rank ≤ operation'.status.rank ∧
          (operation.status.terminal = true →
            operation'.status = operation.status ∧ operation'.result = operation.result)) ∧
    ∀ act next, OperationStep s act next → ∀ (id : String) (i : ℕ), s.entries[id]? = some i →
      next.entries[id]? = none →
        ∃ operation, s.operations[i]? = some operation ∧ operation.status.terminal = true ∧
          ∀ id' caller, act = .release id' caller → operation.waiterDetached = false := by
  have hlawful := Operations.lawful_of_run hrun
  have hmaximum : s.maximum = max maximum 1 := by
    refine hrun.invariant (P := fun s => s.maximum = max maximum 1) rfl ?_
    intro s act s' h hstep
    cases act with
    | admission id owner sessionId cancellation =>
      simp only [OperationStep, Operations.perform] at hstep
      split at hstep
      · cases hstep
      · obtain rfl := Option.some.inj hstep
        unfold Operations.insert
        split <;> exact h
    | enter i part =>
      obtain ⟨operation, -, hp⟩ := Option.bind_eq_some_iff.mp hstep
      obtain ⟨next, -, rfl⟩ := Option.map_eq_some_iff.mp hp
      exact h
    | release id caller =>
      obtain rfl := Option.some.inj hstep
      unfold Operations.removeDelivered
      split <;> exact h
  refine ⟨?_, ?_, ?_, ?_⟩
  · intro operation hmem
    have hoperation := hlawful.operations operation hmem
    exact ⟨hoperation.result, hoperation.aborted⟩
  · rw [← hmaximum]
    exact hlawful.size
  · intro later acts' hrun' i operation hi
    obtain ⟨operation', hlater, hforward⟩ := Operations.forward_of_run hlawful hrun' hi
    exact ⟨operation', hlater, hforward.rank, hforward.final⟩
  · intro act next hstep id i hi hgone
    exact Operations.removed_completed hstep hi hgone

/-- An operation is cancelled while its task runs; the session applies the cancellation, the
waiter is detached before the outcome arrives, and the delivery leaves the entry. -/
def cancelledOperation : List OperationAct :=
  [.admission "op_1" "alice" (some "sess_1") .actorScoped, .enter 0 .start, .enter 0 .cancel,
    .enter 0 .detach, .enter 0 (.respond (.failure continueRequest ⟨.timeout, "late", true, none⟩
      none [])), .enter 0 (.settle .applied), .enter 0 .complete, .release "op_1" ⟨"alice", false⟩]

/-- The operation is aborted, keeps its result and stays in the map. -/
theorem cancelledOperation_lifecycle :
    ∃ s, Runs.Run OperationStep (Operations.new 1) cancelledOperation s ∧
      s.operations.map (fun operation => (operation.status, operation.result.isSome)) =
        [(.aborted, true)] ∧ s.entries.size ≤ 1 := by
  have heval : (cancelledOperation.foldlM Operations.perform (Operations.new 1)).any (fun s =>
      s.operations.map (fun operation => (operation.status, operation.result.isSome)) =
        [(.aborted, true)]) = true := by
    decide +kernel
  obtain ⟨s, hs, hview⟩ := (Option.any_eq_true _ _).mp heval
  have hrun : Runs.Run OperationStep (Operations.new 1) cancelledOperation s :=
    Runs.Run.of_foldlM hs
  exact ⟨s, hrun, of_decide_eq_true hview, (operation_lifecycle hrun).2.1⟩

end GdbAi
