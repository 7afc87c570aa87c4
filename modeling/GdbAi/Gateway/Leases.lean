import GdbAi.Gateway.MemoryReads

/-!
# The controller of a session and its stored lease

A session is controlled by an agent or by the holder of a write lease, and the store has a row for
the lease.  Acquiring, releasing and handing over (`gateway/operations/lifecycle.rs`) and the
admission of a mutation (`gateway.rs`), which renews a lease near its half-life, each change both
under the lock of the controller.  A store call may fail, and nothing orders the calls of different
requests: a request is admitted first, and carried out when other calls may have come between.

All calls but the renewal change the store first, so that a failure leaves both sides as they were.
A renewal whose store call fails leaves the lease of the controller with a later expiry.
-/

namespace GdbAi

open Procedure Runs

/-! ### Data -/

/-- `WriteLease`. -/
structure WriteLease where
  leaseId : String
  sessionId : SessionId
  owner : String
  expiresAtUnixMs : ℕ
  generation : ℕ
  deriving DecidableEq, Repr

/-- `WriteLease::is_expired`. -/
def WriteLease.isExpired (lease : WriteLease) (nowUnixMs : ℕ) : Bool :=
  nowUnixMs ≥ lease.expiresAtUnixMs

/-- `Controller`. -/
inductive Controller where
  | agent (owner : String)
  | lease (lease : WriteLease)
  deriving DecidableEq, Repr

/-- The part of a `SessionEntry` that is about its controller, and the row of the session in the
table of leases. -/
structure LeaseEntry where
  sessionId : SessionId
  owner : String
  controller : Option Controller
  leaseGeneration : ℕ
  row : Option WriteLease
  deriving DecidableEq, Repr

/-- What one call finds around it. -/
structure LeaseHost where
  /-- `now_unix_ms`. -/
  now : ℕ
  /-- `server.write_lease_ms`. -/
  writeLeaseMs : ℕ
  /-- The revision of the session. -/
  revision : ℕ
  /-- `LeaseId::new`. -/
  freshId : String
  /-- The outcome of the call of the store. -/
  store : Except Error Unit
  /-- The outcome of recording the event. -/
  recorded : Except Error Unit

/-- A section under the lock of the controller. -/
abbrev Locked := Procedure LeaseHost LeaseEntry Error

/-- The time at which a lease that is granted now expires. -/
def LeaseHost.expiry (host : LeaseHost) : ℕ := min (host.now + max host.writeLeaseMs 1) (2 ^ 64 - 1)

/-- `parameters.lease_id`. -/
def ApiRequest.leaseId (request : ApiRequest) : Option String :=
  (request.parameters.get "lease_id").bind Json.asStr

/-! ### The store -/

/-- `Store::upsert_lease`; a failed call leaves the row. -/
def upsertLease (lease : WriteLease) : Locked Unit := do
  ofExcept (← reads fun host _ => host.store)
  update fun entry => { entry with row := some lease }

/-- `Store::delete_lease`. -/
def deleteLease : Locked Unit := do
  ofExcept (← reads fun host _ => host.store)
  update fun entry => { entry with row := none }

/-! ### Admission -/

/-- `require_revision`. -/
def requireRevision (current expected : ℕ) : Except Error Unit :=
  if current = expected then .ok ()
  else
    .error
      { code := .staleRevision
        message := "expected revision " ++ toString expected ++ ", current revision is " ++
          toString current }

/-- The revision that a canonical mutation expects. -/
def requireExpectedRevision (request : ApiRequest) (mode : RequestMode) : Locked Unit := do
  let revision ← reads fun host _ => host.revision
  match mode, request.expectedRevision with
  | .agent, _ => pure ()
  | .canonical, some expected => ofExcept (requireRevision revision expected)
  | .canonical, none =>
    if (request.parameters.get "accept_latest_revision").bind Json.asBool = some true then pure ()
    else
      fail
        { code := .staleRevision
          message := "mutation requires expected_revision or accept_latest_revision=true" }

/-- The check of the controller; the result is the lease to renew, with its new expiry. -/
def requireController (request : ApiRequest) (caller : Caller) (mode : RequestMode) :
    Locked (Option WriteLease) := do
  let host ← reads fun host _ => host
  match ← reads fun _ entry => entry.controller with
  | some (.lease lease) =>
    if lease.isExpired host.now then
      fail { code := .writeLeaseExpired, message := "write lease has expired" }
    else if lease.owner ≠ caller.identity ∨
        (mode = .canonical ∧ request.leaseId ≠ some lease.leaseId) then
      fail
        { code := .writeLeaseRequired, message := "write lease does not belong to this caller" }
    else if mode = .canonical ∧
        lease.expiresAtUnixMs - host.now ≤ max host.writeLeaseMs 1 / 2 then
      pure (some { lease with expiresAtUnixMs := host.expiry })
    else pure none
  | controller =>
    if mode = .agent ∧ controller = some (.agent caller.identity) then pure none
    else
      fail
        { code := .writeLeaseRequired
          message := "caller does not hold the required session controller" }

/-- The renewal: the lease changes in memory before it is stored. -/
def renewLease (lease : WriteLease) : Locked Unit := do
  update fun entry => { entry with controller := some (.lease lease) }
  upsertLease lease

/-- `require_mutation_preconditions`. -/
def requireMutationPreconditions (request : ApiRequest) (caller : Caller) (mode : RequestMode) :
    Locked Unit := do
  if request.method = .sessionForceAbort ∨ request.method = .sessionAttemptRecovery then pure ()
  else do
    requireExpectedRevision request mode
    if request.method = .sessionAcquireWriteLease then pure ()
    else do
      match ← requireController request caller mode with
      | some lease => renewLease lease
      | none => pure ()

/-! ### Operations -/

/-- Another caller has control. -/
def LeaseEntry.heldByOther (entry : LeaseEntry) (now : ℕ) (caller : Caller) : Bool :=
  match entry.controller with
  | some (.agent owner) => owner ≠ caller.identity
  | some (.lease lease) => !lease.isExpired now && lease.owner ≠ caller.identity
  | none => false

/-- `session_acquire_write_lease`. -/
def sessionAcquireWriteLease (request : ApiRequest) (caller : Caller) : Locked WriteLease := do
  let host ← reads fun host _ => host
  let entry ← reads fun _ entry => entry
  let force := (request.parameters.get "force").bind Json.asBool = some true && caller.admin
  if entry.heldByOther host.now caller && !force then
    fail { code := .conflict, message := "another caller holds session control" }
  else do
    let generation := entry.leaseGeneration + 1
    update fun entry => { entry with leaseGeneration := generation }
    let lease : WriteLease :=
      { leaseId := host.freshId
        sessionId := entry.sessionId
        owner := caller.identity
        expiresAtUnixMs := host.expiry
        generation := generation }
    upsertLease lease
    update fun entry => { entry with controller := some (.lease lease) }
    ofExcept host.recorded
    pure lease

/-- `session_release_write_lease`. -/
def sessionReleaseWriteLease (request : ApiRequest) (caller : Caller) : Locked String := do
  match ← reads fun _ entry => entry.controller with
  | some (.lease lease) =>
    if lease.owner ≠ caller.identity ∨ (∃ id ∈ request.leaseId, id ≠ lease.leaseId) then
      fail { code := .writeLeaseRequired, message := "write lease changed before release" }
    else do
      deleteLease
      update fun entry => { entry with controller := none }
      ofExcept (← reads fun host _ => host.recorded)
      pure lease.leaseId
  | _ => fail { code := .notFound, message := "write lease not found" }

/-- The controller is replaced, with a new generation. -/
def handOver (recipient : String) : Locked (String × ℕ) := do
  let generation ← reads fun _ entry => entry.leaseGeneration + 1
  update fun entry =>
    { entry with controller := some (.agent recipient), leaseGeneration := generation }
  pure (recipient, generation)

/-- `session_handoff`; an event that is not recorded is a warning. -/
def sessionHandoff (request : ApiRequest) (caller : Caller) : Locked (String × ℕ) := do
  let owner ← reads fun _ entry => entry.owner
  let recipient ← ofExcept (Access.requiredString request.parameters "to")
  if recipient = "" ∨ byteLength recipient.toList > 256 then
    fail
      { code := .invalidArgument, message := "handoff identity must contain 1 to 256 bytes" }
  else if !samePrincipal owner caller.identity || !samePrincipal recipient caller.identity then
    fail
      { code := .policyDenied
        message := "controller handoff must remain within the session owner principal" }
  else do
    match ← reads fun _ entry => entry.controller with
    | some (.lease lease) =>
      if lease.owner = caller.identity ∧ request.leaseId = some lease.leaseId then do
        deleteLease
        handOver recipient
      else
        fail
          { code := .writeLeaseRequired
            message := "caller no longer holds the session controller" }
    | controller =>
      if controller = some (.agent caller.identity) then handOver recipient
      else
        fail
          { code := .writeLeaseRequired
            message := "caller no longer holds the session controller" }

/-! ### Agreement -/

/-- The row is the lease of the controller, if there is one. -/
def LeaseEntry.Agrees (entry : LeaseEntry) : Prop :=
  entry.row = match entry.controller with
    | some (.lease lease) => some lease
    | _ => none

section Agreement

variable {P : LeaseEntry → Prop} {host : LeaseHost} {entry : LeaseEntry}

variable {E : Error → LeaseEntry → Prop}

/-- A lease is stored, or the entry is as it was. -/
lemma meets_upsertLease (lease : WriteLease) {V : Unit → LeaseEntry → Prop}
    (hv : host.store = .ok () → V () { entry with row := some lease })
    (he : ∀ error, host.store = .error error → E error entry) :
    Meets P host (upsertLease lease) V E entry := by
  refine meets_reads_bind (meets_ofExcept_bind (fun _ hok => ?_) he)
  exact meets_update (hv hok)

/-- The row is deleted, or the entry is as it was. -/
lemma meets_deleteLease {V : Unit → LeaseEntry → Prop} (hv : V () { entry with row := none })
    (he : ∀ error, E error entry) : Meets P host deleteLease V E entry := by
  refine meets_reads_bind (meets_ofExcept_bind (fun _ _ => ?_) fun error _ => he error)
  exact meets_update hv

/-- The row is written before the controller, and a failure in between changes neither. -/
lemma acquire_agrees (request : ApiRequest) (caller : Caller) :
    Preserves P host LeaseEntry.Agrees (sessionAcquireWriteLease request caller) := by
  intro entry hentry
  refine meets_reads_bind (meets_reads_bind ?_)
  dsimp only
  split
  · exact meets_fail hentry
  · refine meets_update_bind (Meets.seq (V := fun _ entry' => entry'.row =
      some ⟨host.freshId, entry.sessionId, caller.identity, host.expiry, entry.leaseGeneration + 1⟩)
      (E := fun _ => LeaseEntry.Agrees) ?_ ?_)
    · exact meets_upsertLease _ (fun _ => rfl) fun _ _ => hentry
    intro _ entry' hrow
    refine meets_update_bind (meets_ofExcept_bind (fun _ _ => ?_) fun _ _ => ?_)
    · exact meets_pure hrow
    · exact hrow

lemma release_agrees (request : ApiRequest) (caller : Caller) :
    Preserves P host LeaseEntry.Agrees (sessionReleaseWriteLease request caller) := by
  intro entry hentry
  refine meets_reads_bind ?_
  split
  · split
    · exact meets_fail hentry
    · refine (meets_deleteLease (V := fun _ entry' => entry'.row = none)
        (E := fun _ => LeaseEntry.Agrees) rfl fun _ => hentry).seq ?_
      intro _ entry' hrow
      refine meets_update_bind (meets_reads_bind (meets_ofExcept_bind (fun _ _ => ?_) fun _ _ => ?_))
      · exact meets_pure hrow
      · exact hrow
  · exact meets_fail hentry

/-- Where there is no row, the controller may become any agent. -/
lemma meets_handOver (recipient : String) (hrow : entry.row = none) :
    Meets P host (handOver recipient) (fun _ => LeaseEntry.Agrees) E entry :=
  meets_reads_bind (meets_update_bind (meets_pure hrow))

lemma handoff_agrees (request : ApiRequest) (caller : Caller) :
    Preserves P host LeaseEntry.Agrees (sessionHandoff request caller) := by
  intro entry hentry
  refine meets_reads_bind (meets_ofExcept_bind (fun recipient _ => ?_) fun _ _ => hentry)
  split
  · exact meets_fail hentry
  split
  · exact meets_fail hentry
  refine meets_reads_bind ?_
  split
  · split
    · refine (meets_deleteLease (V := fun _ entry' => entry'.row = none)
        (E := fun _ => LeaseEntry.Agrees) rfl fun _ => hentry).seq ?_
      exact fun _ entry' hrow => meets_handOver recipient hrow
    · exact meets_fail hentry
  · split
    · rename_i hagent
      refine meets_handOver recipient ?_
      rw [hentry, hagent]
    · exact meets_fail hentry

/-- What the check of the controller finds: a lease to renew is that of the controller, up to its
expiry, and in canonical mode the request names it. -/
lemma requireController_meets (request : ApiRequest) (caller : Caller) (mode : RequestMode) :
    Meets P host (requireController request caller mode)
      (fun renewed entry' => entry' = entry ∧
        (mode = .canonical → ∃ lease, entry.controller = some (.lease lease) ∧
          request.leaseId = some lease.leaseId) ∧
        (renewed.isSome = true → mode = .canonical))
      (fun _ entry' => entry' = entry) entry := by
  refine meets_reads_bind (meets_reads_bind ?_)
  split
  · rename_i lease hlease
    split
    · exact meets_fail rfl
    split
    · exact meets_fail rfl
    rename_i howned
    have hnamed : mode = .canonical → ∃ lease, entry.controller = some (.lease lease) ∧
        request.leaseId = some lease.leaseId := by
      intro hmode
      refine ⟨lease, hlease, ?_⟩
      by_contra hother
      exact howned (.inr ⟨hmode, hother⟩)
    split
    · rename_i hdue
      exact meets_pure ⟨rfl, hnamed, fun _ => hdue.1⟩
    · exact meets_pure ⟨rfl, hnamed, nofun⟩
  · split
    · rename_i hagent
      refine meets_pure ⟨rfl, fun hmode => ?_, nofun⟩
      rw [hagent.1] at hmode
      exact absurd hmode nofun
    · exact meets_fail rfl

lemma requireExpectedRevision_meets (request : ApiRequest) (mode : RequestMode) :
    Meets P host (requireExpectedRevision request mode) (fun _ entry' => entry' = entry)
      (fun _ entry' => entry' = entry) entry := by
  refine meets_reads_bind ?_
  split
  · exact meets_pure rfl
  · exact meets_ofExcept (fun _ _ => rfl) fun _ _ => rfl
  · split
    · exact meets_pure rfl
    · exact meets_fail rfl

/-- The requests whose admission looks at the controller. -/
def ApiRequest.needsController (request : ApiRequest) : Prop :=
  request.method ≠ .sessionForceAbort ∧ request.method ≠ .sessionAttemptRecovery ∧
    request.method ≠ .sessionAcquireWriteLease

/-- If the admission renews a lease, then the store takes it. -/
def RenewalStored (host : LeaseHost) (entry : LeaseEntry) (request : ApiRequest) (caller : Caller)
    (mode : RequestMode) : Prop :=
  ∀ lease, (requireController request caller mode host entry).1 = .value (some lease) →
    host.store = .ok ()

/-- An admission with a stored renewal keeps the agreement, and in canonical mode the request has
named the lease of the controller. -/
lemma admission_meets (request : ApiRequest) (caller : Caller) (mode : RequestMode)
    (hentry : entry.Agrees) (hstored : RenewalStored host entry request caller mode) :
    Meets P host (requireMutationPreconditions request caller mode)
      (fun _ entry' => entry'.Agrees ∧ (mode = .canonical → request.needsController →
        ∃ lease, entry.controller = some (.lease lease) ∧
          request.leaseId = some lease.leaseId))
      (fun _ => LeaseEntry.Agrees) entry := by
  unfold requireMutationPreconditions
  split
  · rename_i hrecovery
    refine meets_pure ⟨hentry, fun _ hneeds => ?_⟩
    rcases hrecovery with habort | hrecover
    · exact absurd habort hneeds.1
    · exact absurd hrecover hneeds.2.1
  refine (requireExpectedRevision_meets request mode).bind ?_ fun _ _ he => he ▸ hentry
  rintro _ entry' rfl
  split
  · rename_i hacquire
    exact meets_pure ⟨hentry, fun _ hneeds => absurd hacquire hneeds.2.2⟩
  refine (requireController_meets request caller mode).outcome.bind ?_ fun _ _ he => he.1 ▸ hentry
  rintro renewed entry' ⟨⟨rfl, hnamed, -⟩, hrun⟩
  cases renewed with
  | none => exact meets_pure ⟨hentry, fun hmode _ => hnamed hmode⟩
  | some lease =>
    have hok := hstored lease (congrArg Prod.fst hrun)
    refine meets_update_bind (meets_upsertLease lease (fun _ => ?_) fun error herror => ?_)
    · exact ⟨rfl, fun hmode _ => hnamed hmode⟩
    · exact absurd (hok.symm.trans herror) nofun

end Agreement

/-! ### Removals -/

/-- The lease of the controller is taken away. -/
def LeaseEntry.Removes (entry entry' : LeaseEntry) (lease : WriteLease) : Prop :=
  entry.controller = some (.lease lease) ∧ entry'.controller ≠ some (.lease lease)

section Removals

variable {host : LeaseHost} {entry : LeaseEntry}

variable {lease : WriteLease}

lemma not_removes (entry' : LeaseEntry) (h : entry'.controller = entry.controller) :
    ¬ entry.Removes entry' lease :=
  fun hremoves => hremoves.2 (h.trans hremoves.1)

/-- A release takes away the lease that the request carries, if it carries one. -/
lemma release_removes {request : ApiRequest} {caller : Caller}
    (h : entry.Removes (sessionReleaseWriteLease request caller host entry).2 lease) {id : String}
    (hid : request.leaseId = some id) : lease.leaseId = id := by
  by_contra hother
  have hkept : (sessionReleaseWriteLease request caller host entry).2.controller =
      entry.controller := by
    refine Meets.state (Q := fun entry' : LeaseEntry => entry'.controller = entry.controller)
      (meets_reads_bind ?_)
    rw [h.1]
    dsimp only
    rw [if_pos (.inr ⟨id, hid, fun heq => hother heq.symm⟩)]
    exact meets_fail h.1
  exact not_removes _ hkept h

/-- A handoff takes away the lease that the request carries. -/
lemma handoff_removes {request : ApiRequest} {caller : Caller}
    (h : entry.Removes (sessionHandoff request caller host entry).2 lease) :
    request.leaseId = some lease.leaseId := by
  by_contra hother
  have hkept : (sessionHandoff request caller host entry).2.controller = entry.controller := by
    refine Meets.state (Q := fun entry' : LeaseEntry => entry'.controller = entry.controller)
      (meets_reads_bind (meets_ofExcept_bind (fun recipient _ => ?_) fun _ _ => rfl))
    split
    · exact meets_fail rfl
    split
    · exact meets_fail rfl
    refine meets_reads_bind ?_
    rw [h.1]
    dsimp only
    rw [if_neg fun howned => hother howned.2]
    exact meets_fail h.1
  exact not_removes _ hkept h

end Removals

/-! ### Runs -/

/-- The lease of the controller. -/
def LeaseEntry.leaseId (entry : LeaseEntry) : Option String :=
  match entry.controller with
  | some (.lease lease) => some lease.leaseId
  | _ => none

/-- A request that was admitted, with the lease that the session had at its admission. -/
structure Admission where
  request : ApiRequest
  caller : Caller
  mode : RequestMode
  lease : Option String

/-- The request carries the lease that it was admitted with. -/
def Admission.Named (admission : Admission) : Prop :=
  ∃ id, admission.request.leaseId = some id ∧ admission.lease = some id

/-- A live session, and the requests that were admitted to it. -/
structure LeaseState where
  entry : LeaseEntry
  admitted : List Admission

/-- A call that takes the lock of the controller. -/
inductive LeaseCall where
  | enter (request : ApiRequest) (caller : Caller) (mode : RequestMode)
  | acquire (request : ApiRequest) (caller : Caller)
  | release (admission : Admission)
  | handoff (admission : Admission)

namespace LeaseState

/-- The admitted requests behind an admission. -/
def admitting (s : LeaseState) (outcome : Outcome Error Unit) (admission : Admission) :
    List Admission :=
  match outcome with
  | .value () => admission :: s.admitted
  | _ => s.admitted

/-- The state behind a call. -/
def behind (s : LeaseState) (host : LeaseHost) : LeaseCall → LeaseState
  | .enter request caller mode =>
    let result := requireMutationPreconditions request caller mode host s.entry
    ⟨result.2, s.admitting result.1 ⟨request, caller, mode, s.entry.leaseId⟩⟩
  | .acquire request caller =>
    { s with entry := (sessionAcquireWriteLease request caller host s.entry).2 }
  | .release admission =>
    { s with
      entry := (sessionReleaseWriteLease admission.request admission.caller host s.entry).2 }
  | .handoff admission =>
    { s with entry := (sessionHandoff admission.request admission.caller host s.entry).2 }

/-- A release or a handoff was admitted before. -/
def Allows (s : LeaseState) : LeaseCall → Prop
  | .enter .. | .acquire .. => True
  | .release admission =>
    admission ∈ s.admitted ∧ admission.request.method = .sessionReleaseWriteLease
  | .handoff admission => admission ∈ s.admitted ∧ admission.request.method = .sessionHandoff

/-- One call is carried out. -/
def Performs (s : LeaseState) (call : LeaseHost × LeaseCall) (s' : LeaseState) : Prop :=
  s.Allows call.2 ∧ s' = s.behind call.1 call.2

/-- No renewal fails, and the requests of agents carry the lease that they were admitted with.  A
handoff without a lease takes none away. -/
def Careful (s : LeaseState) (call : LeaseHost × LeaseCall) : Prop :=
  match call.2 with
  | .enter request caller mode => RenewalStored call.1 s.entry request caller mode
  | .acquire .. => True
  | .release admission => admission.mode = .canonical ∨ admission.Named
  | .handoff admission =>
    admission.mode = .canonical ∨ admission.Named ∨ admission.request.leaseId = none

/-- A careful call is carried out. -/
def PerformsCarefully (s : LeaseState) (call : LeaseHost × LeaseCall) (s' : LeaseState) : Prop :=
  s.Performs call s' ∧ s.Careful call

/-- The session as `session_create` leaves it. -/
def created (sessionId : SessionId) (caller : Caller) (mode : RequestMode) (host : LeaseHost) :
    LeaseState :=
  let lease : WriteLease := ⟨host.freshId, sessionId, caller.identity, host.expiry, 1⟩
  { entry := match mode with
      | .canonical => ⟨sessionId, caller.identity, some (.lease lease), 1, some lease⟩
      | .agent => ⟨sessionId, caller.identity, some (.agent caller.identity), 0, none⟩
    admitted := [] }

/-- The controller and the row agree, and the admitted canonical requests name their leases. -/
structure Sound (s : LeaseState) : Prop where
  agrees : s.entry.Agrees
  named : ∀ admission ∈ s.admitted, admission.mode = .canonical →
    admission.request.needsController → admission.Named

lemma sound_created (sessionId : SessionId) (caller : Caller) (mode : RequestMode)
    (host : LeaseHost) : (created sessionId caller mode host).Sound where
  agrees := by cases mode <;> rfl
  named _ hmem := absurd hmem List.not_mem_nil

/-- A careful call keeps the session sound. -/
lemma Sound.step {s s' : LeaseState} {call : LeaseHost × LeaseCall} (h : s.Sound)
    (hstep : s.PerformsCarefully call s') : s'.Sound := by
  obtain ⟨host, call⟩ := call
  obtain ⟨⟨-, rfl⟩, hcareful⟩ := hstep
  cases call with
  | enter request caller mode =>
    have hmeets := admission_meets (P := LeaseEntry.Agrees) request caller mode h.agrees hcareful
    refine ⟨(hmeets.mono (fun _ _ hv => hv.1) fun _ _ he => he).state, ?_⟩
    unfold Meets at hmeets
    intro admission hmem hmode hneeds
    dsimp only [behind] at hmem
    rcases hrun : requireMutationPreconditions request caller mode host s.entry with
      ⟨⟨⟩ | error | _, entry'⟩ <;> rw [hrun] at hmeets hmem
    · rcases List.mem_cons.mp hmem with rfl | hmem
      · obtain ⟨lease, hlease, hnamed⟩ := hmeets.2 hmode hneeds
        exact ⟨lease.leaseId, hnamed, by simp only [LeaseEntry.leaseId, hlease]⟩
      · exact h.named admission hmem hmode hneeds
    · exact h.named admission hmem hmode hneeds
    · exact h.named admission hmem hmode hneeds
  | acquire request caller => exact ⟨(acquire_agrees request caller _ h.agrees).state, h.named⟩
  | release admission => exact ⟨(release_agrees _ _ _ h.agrees).state, h.named⟩
  | handoff admission => exact ⟨(handoff_agrees _ _ _ h.agrees).state, h.named⟩

/-- The lease that a call takes away from the controller is the one its request was admitted with,
for a release and for a handoff. -/
lemma Sound.authorised {s s' : LeaseState} {host : LeaseHost} {call : LeaseCall}
    {admission : Admission} {lease : WriteLease} (h : s.Sound)
    (hstep : s.PerformsCarefully (host, call) s')
    (hcall : call = .release admission ∨ call = .handoff admission)
    (hremoves : s.entry.Removes s'.entry lease) : admission.lease = some lease.leaseId := by
  obtain ⟨⟨hallows, rfl⟩, hcareful⟩ := hstep
  rcases hcall with rfl | rfl
  · obtain ⟨hmem, hmethod⟩ := hallows
    have hnamed : admission.Named := by
      rcases hcareful with hmode | hnamed
      · refine h.named admission hmem hmode ?_
        simp [ApiRequest.needsController, hmethod]
      · exact hnamed
    obtain ⟨id, hid, hlease⟩ := hnamed
    rw [hlease, release_removes hremoves hid]
  · obtain ⟨hmem, hmethod⟩ := hallows
    have hcarried := handoff_removes hremoves
    have hnamed : admission.Named := by
      rcases hcareful with hmode | hnamed | hnone
      · refine h.named admission hmem hmode ?_
        simp [ApiRequest.needsController, hmethod]
      · exact hnamed
      · exact absurd (hnone.symm.trans hcarried) nofun
    obtain ⟨id, hid, hlease⟩ := hnamed
    rw [hlease, ← hid, hcarried]

/-- In every interleaving in which no renewal fails in the store and the requests of agents carry
the lease they were admitted with, the controller and the stored row agree behind every call, and a
release or a handoff only takes away the lease it was admitted with. -/
theorem controller_and_row_agree (sessionId : SessionId) (caller : Caller) (mode : RequestMode)
    (host : LeaseHost) {calls : List (LeaseHost × LeaseCall)} {s : LeaseState}
    (hrun : Run PerformsCarefully (created sessionId caller mode host) calls s) :
    (∀ lease, s.entry.controller = some (.lease lease) → s.entry.row = some lease) ∧
      ((∀ lease, s.entry.controller ≠ some (.lease lease)) → s.entry.row = none) ∧
      ∀ call s' admission lease, s.PerformsCarefully call s' →
        call.2 = .release admission ∨ call.2 = .handoff admission →
        s.entry.controller = some (.lease lease) → s'.entry.controller ≠ some (.lease lease) →
          admission.lease = some lease.leaseId := by
  have hsound : s.Sound := hrun.invariant (sound_created sessionId caller mode host)
    fun _ _ _ hsound hstep => hsound.step hstep
  have hagrees := hsound.agrees
  unfold LeaseEntry.Agrees at hagrees
  refine ⟨?_, ?_, ?_⟩
  · intro lease hlease
    rw [hagrees, hlease]
  · intro hnone
    rw [hagrees]
    split
    · rename_i lease hlease
      exact absurd hlease (hnone lease)
    · rfl
  · intro call s' admission lease hstep hcall hheld hgone
    exact hsound.authorised hstep hcall ⟨hheld, hgone⟩

/-! ### Concrete calls -/

/-- A host at a time, with leases of five minutes. -/
def hostAt (now : ℕ) (freshId : String) (store : Except Error Unit) : LeaseHost where
  now := now
  writeLeaseMs := 300000
  revision := 0
  freshId := freshId
  store := store
  recorded := .ok ()

/-- The store is locked. -/
def storeFailure : Except Error Unit := .error { code := .internal, message := "database is locked" }

/-- A request of the holder of the first lease. -/
def holderRequest (method : CanonicalMethod) (parameters : List (String × Json)) : ApiRequest where
  requestId := "r1"
  sessionId := some "sess_1"
  method := method
  expectedRevision := some 0
  parameters := .object parameters

/-- The session of a canonical caller, and its lease until five minutes behind the start. -/
def held : LeaseState := created ⟨"sess_1"⟩ ⟨"alice", false⟩ .canonical (hostAt 0 "lease_1" (.ok ()))

/-- The admission of a mutation that carries the lease. -/
def mutation : LeaseCall :=
  .enter (holderRequest .memoryWrite [("lease_id", .string "lease_1")]) ⟨"alice", false⟩ .canonical

/-- The holder acquires a new lease. -/
def acquisition : LeaseCall :=
  .acquire (holderRequest .sessionAcquireWriteLease []) ⟨"alice", false⟩

/-- The lease is renewed four minutes behind the start. -/
def renewed : LeaseState := held.behind (hostAt 240000 "lease_2" (.ok ())) mutation

/-- A new lease is refused by the store then. -/
def refused : LeaseState := renewed.behind (hostAt 250000 "lease_2" storeFailure) acquisition

/-- The renewed lease is stored. -/
theorem refused_agrees :
    refused.entry.controller = some (.lease ⟨"lease_1", ⟨"sess_1"⟩, "alice", 540000, 1⟩) ∧
      refused.entry.row = some ⟨"lease_1", ⟨"sess_1"⟩, "alice", 540000, 1⟩ := by
  have hrun : Run PerformsCarefully held
      [(hostAt 240000 "lease_2" (.ok ()), mutation),
        (hostAt 250000 "lease_2" storeFailure, acquisition)] refused :=
    .cons ⟨⟨trivial, rfl⟩, fun _ _ => rfl⟩ (.cons ⟨⟨trivial, rfl⟩, trivial⟩ (.nil _))
  have hcontroller : refused.entry.controller =
      some (.lease ⟨"lease_1", ⟨"sess_1"⟩, "alice", 540000, 1⟩) := by decide +kernel
  obtain ⟨hrow, -, -⟩ := controller_and_row_agree ⟨"sess_1"⟩ ⟨"alice", false⟩ .canonical
    (hostAt 0 "lease_1" (.ok ())) hrun
  exact ⟨hcontroller, hrow _ hcontroller⟩

/-- The renewal is refused by the store. -/
def renewalLost : LeaseState := held.behind (hostAt 240000 "lease_2" storeFailure) mutation

/-- The holder asks, as an agent, for a release without naming the lease. -/
def unnamedRelease : Admission where
  request := holderRequest .sessionReleaseWriteLease []
  caller := ⟨"alice", false⟩
  mode := .agent
  lease := some "lease_1"

/-- The release is admitted, and a new lease is acquired before it is carried out. -/
def overtaken : LeaseState :=
  (held.behind (hostAt 1 "lease_2" (.ok ()))
    (.enter unnamedRelease.request unnamedRelease.caller unnamedRelease.mode)).behind
    (hostAt 2 "lease_2" (.ok ())) acquisition

/-- A renewal that the store refuses leaves the lease of the controller with another expiry than the
row, and a release of an agent takes away a lease that was acquired behind its admission. -/
theorem renewal_lost_and_release_overtaken :
    (Run Performs held [(hostAt 240000 "lease_2" storeFailure, mutation)] renewalLost ∧
      renewalLost.entry.controller =
        some (.lease ⟨"lease_1", ⟨"sess_1"⟩, "alice", 540000, 1⟩) ∧
      renewalLost.entry.row = some ⟨"lease_1", ⟨"sess_1"⟩, "alice", 300000, 1⟩) ∧
    ∃ s', Run Performs held
        [(hostAt 1 "lease_2" (.ok ()),
            .enter unnamedRelease.request unnamedRelease.caller unnamedRelease.mode),
          (hostAt 2 "lease_2" (.ok ()), acquisition)] overtaken ∧
      overtaken.Performs (hostAt 3 "lease_3" (.ok ()), .release unnamedRelease) s' ∧
      overtaken.entry.controller =
        some (.lease ⟨"lease_2", ⟨"sess_1"⟩, "alice", 300002, 2⟩) ∧
      s'.entry.controller = none ∧ unnamedRelease.lease = some "lease_1" := by
  have hlost : renewalLost.entry.controller =
        some (.lease ⟨"lease_1", ⟨"sess_1"⟩, "alice", 540000, 1⟩) ∧
      renewalLost.entry.row = some ⟨"lease_1", ⟨"sess_1"⟩, "alice", 300000, 1⟩ := by
    decide +kernel
  have hovertaken : overtaken.entry.controller =
      some (.lease ⟨"lease_2", ⟨"sess_1"⟩, "alice", 300002, 2⟩) := by decide +kernel
  have hreleased : (sessionReleaseWriteLease unnamedRelease.request unnamedRelease.caller
      (hostAt 3 "lease_3" (.ok ())) overtaken.entry).2.controller = none := by decide +kernel
  have hadmitted : overtaken.admitted = [unnamedRelease] := rfl
  refine ⟨⟨.cons ⟨trivial, rfl⟩ (.nil _), hlost⟩, _,
    .cons ⟨trivial, rfl⟩ (.cons ⟨trivial, rfl⟩ (.nil _)), ⟨⟨?_, rfl⟩, rfl⟩, hovertaken, hreleased,
    rfl⟩
  rw [hadmitted]
  exact List.mem_singleton_self _

end LeaseState

end GdbAi
