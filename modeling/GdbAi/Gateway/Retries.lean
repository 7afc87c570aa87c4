import GdbAi.Gateway.Idempotency

/-!
# Concurrent retries execute once

The calls of one retry key, in any interleaving, as long as what was cached under the key is in
one of the two caches.  `Sound` is what every step keeps; the registry of mutexes is consistent
by `KeyedLocks`, so one call at a time is between its miss and its write, and it finds either
nothing, and runs the method body, or the one response that was ever written.
-/

namespace GdbAi

namespace Retries

/-! ### What is expected of a key -/

/-- Some response was cached under the key. -/
def Written (s : Retries) (key : String) : Prop := ∃ w ∈ s.written, w.key = key

/-- The key is not evicted from both caches: what was written is in one of them. -/
def Retained (key : String) (s : Retries) : Prop :=
  s.Written key → s.memory[key]?.isSome ∨ s.rows[key]?.isSome

end Retries

/-- A step after which the key is still in one of the caches. -/
def RetryStep (key : String) (s : Retries) (action : RetryAction) (s' : Retries) : Prop :=
  s.perform action = some s' ∧ s'.Retained key

/-- A response, or the same response before it was marked as not durable. -/
def ApiResponse.Echoes (response first : ApiResponse) : Prop :=
  response = first ∨ ∃ error, first = response.notDurable error

/-- The response of a call is fixed. -/
def Phase.response : Phase → Option ApiResponse
  | .answered _ response | .unlocked _ response | .released _ response | .returned response =>
    some response
  | _ => none

/-- A call is between its miss in memory and its write there. -/
def Phase.critical : Phase → Bool
  | .missed _ | .running _ | .executed _ _ | .stored _ _ => true
  | _ => false

/-- A call has started the method body and not yet cached its response. -/
def Phase.active : Phase → Bool
  | .running _ | .executed _ _ | .stored _ _ => true
  | _ => false

namespace Retries

/-- Why a call of `key` returns `response`: it ran the body and cached the response; or it got the
response that was cached for its fingerprint; or the cached one has another fingerprint, and it
got a conflict; or its lookup in the store failed. -/
def Justified (s : Retries) (call : Call) (response : ApiResponse) : Prop :=
  if call.ran then
    ∃ w ∈ s.written, w.key = call.key ∧ w.requestHash = call.fingerprint ∧ w.response = response
  else
    (∃ w ∈ s.written, w.key = call.key ∧ w.requestHash = call.fingerprint ∧
      response.Echoes w.response) ∨
    (∃ w ∈ s.written, w.key = call.key ∧ w.requestHash ≠ call.fingerprint ∧
      ∃ state evidence, response = .failure call.request idempotencyConflict state evidence) ∨
    ∃ error state evidence, call.fault = some error ∧
      response = .failure call.request error state evidence

/-- What holds of a call of the key. -/
def CallSound (s : Retries) (call : Call) : Prop :=
  match call.phase with
  | .arrived | .waiting _ | .holding _ => call.ran = false
  | .missed _ => call.ran = false ∧ s.memory[call.key]? = none
  | .running _ | .executed _ _ | .stored _ _ => call.ran = true ∧ ¬ s.Written call.key
  | .answered _ response | .unlocked _ response | .released _ response | .returned response =>
    s.Justified call response

/-- What every step keeps, as long as the key is in one of the caches. -/
structure Sound (key : String) (s : Retries) : Prop where
  locks : KeyedLocks.Consistent s.locks s.tickets
  retained : s.Retained key
  /-- The cache in memory holds what was written. -/
  memory : ∀ v, s.memory[key]? = some v →
    ∃ w ∈ s.written, w.key = key ∧ w.requestHash = v.1 ∧ w.response = v.2
  /-- The table holds what was written, or what is about to be. -/
  rows : ∀ row, s.rows[key]? = some row →
    (∃ w ∈ s.written, w.key = key ∧ w.requestHash = row.requestHash ∧
      row.response.Echoes w.response) ∨
    ∃ call ∈ s.calls, call.key = key ∧ ∃ lock response, call.phase = .stored lock response ∧
      call.fingerprint = row.requestHash ∧ row.response.Echoes response
  calls : ∀ call ∈ s.calls, call.key = key → s.CallSound call
  /-- At most one response is written. -/
  unique : s.written.countP (fun w => w.key = key) ≤ 1
  /-- The body is started at most once. -/
  once : s.bodies.count key ≤ 1
  /-- A body that was started is still active or has its response written. -/
  started : key ∈ s.bodies →
    (∃ call ∈ s.calls, call.key = key ∧ call.phase.active = true) ∨ s.Written key

variable {s s' : Retries} {key : String}

/-! ### Steps of one call -/

/-- A call that moves changes its own ticket. -/
lemma tickets_move (s : Retries) (i : ℕ) (call : Call) (phase : Phase) :
    (s.move i call phase).tickets = s.tickets.set i ({ call with phase := phase } : Call).ticket := by
  simp [tickets, move, List.map_set]

variable {i : ℕ} {calls : List Call}

/-- After a step of the call `i`, a call is the one that moved or was there before. -/
lemma mem_set_calls {call moved : Call} (h : call ∈ calls.set i moved) :
    call = moved ∨ ∃ j, j ≠ i ∧ calls[j]? = some call := by
  obtain ⟨j, hj⟩ := List.mem_iff_getElem?.mp h
  rw [List.getElem?_set] at hj
  split at hj
  · split at hj
    · exact .inl (Option.some.inj hj).symm
    · cases hj
  · rename_i hne
    exact .inr ⟨j, fun heq => hne heq.symm, hj⟩

/-- Every call but the one that moves is still there. -/
lemma mem_set_of_ne {i j : ℕ} {call moved : Call} (hj : calls[j]? = some call) (hne : j ≠ i) :
    call ∈ calls.set i moved := by
  refine List.mem_iff_getElem?.mpr ⟨j, ?_⟩
  rw [List.getElem?_set_ne (fun heq => hne heq.symm), hj]

/-- Every other call is still there. -/
lemma mem_set_of_mem {call other moved : Call} (hi : calls[i]? = some call) (hmem : other ∈ calls)
    (hne : other ≠ call) : other ∈ calls.set i moved := by
  obtain ⟨j, hj⟩ := List.mem_iff_getElem?.mp hmem
  refine mem_set_of_ne hj ?_
  rintro rfl
  exact hne (Option.some.inj (hj.symm.trans hi))

/-- The call that moves is there. -/
lemma mem_set_self {old moved : Call} (hi : calls[i]? = some old) : moved ∈ calls.set i moved := by
  obtain ⟨hlt, -⟩ := List.getElem?_eq_some_iff.mp hi
  exact List.mem_iff_getElem?.mpr ⟨i, by rw [List.getElem?_set_self hlt]⟩

variable {call : Call} {phase : Phase} {rows : Registry StoredResponse} {k : String}

/-- The ticket at the index of a call. -/
lemma getElem?_tickets (h : s.calls[i]? = some call) : s.tickets[i]? = some call.ticket := by
  simp [tickets, h]

/-- The ticket of a call is for its key. -/
lemma ticket_key {t : KeyedLocks.Ticket} (h : call.ticket = some t) : t.key = call.key := by
  unfold Call.ticket at h
  cases hphase : call.phase <;> simp only [hphase] at h <;> cases h <;> rfl

/-- Active calls are critical. -/
lemma critical_of_active (h : phase.active = true) : phase.critical = true := by
  cases phase <;> simp_all [Phase.active, Phase.critical]

/-- A critical call holds the mutex of its key. -/
lemma ticket_of_critical (h : call.phase.critical = true) :
    ∃ lock, call.ticket = some ⟨call.key, lock, .holding⟩ := by
  unfold Call.ticket
  cases hphase : call.phase <;> simp_all [Phase.critical]

/-- What holds of a call depends on the entries of its key. -/
lemma CallSound.of_same (h : s.CallSound call)
    (hmemory : s.memory[call.key]? = none → s'.memory[call.key]? = none)
    (hwritten : ∀ w : Cached, w.key = call.key → (w ∈ s'.written ↔ w ∈ s.written)) :
    s'.CallSound call := by
  have hexists : ∀ P : Cached → Prop, (∃ w ∈ s'.written, w.key = call.key ∧ P w) ↔
      ∃ w ∈ s.written, w.key = call.key ∧ P w := fun P =>
    ⟨fun ⟨w, hw, hk, hP⟩ => ⟨w, (hwritten w hk).mp hw, hk, hP⟩,
      fun ⟨w, hw, hk, hP⟩ => ⟨w, (hwritten w hk).mpr hw, hk, hP⟩⟩
  have hjustified : ∀ response, s.Justified call response → s'.Justified call response := by
    intro response hold
    unfold Justified at hold ⊢
    simpa only [hexists] using hold
  have hiff : s'.Written call.key ↔ s.Written call.key := by
    have := hexists fun _ => True
    simpa only [Written, and_true] using this
  unfold CallSound at h ⊢
  cases hphase : call.phase <;> simp only [hphase, hiff] at h ⊢
  all_goals first | exact h | exact hjustified _ h | exact ⟨h.1, hmemory h.2⟩

/-- What holds of a call that is not critical survives a write. -/
lemma CallSound.of_grown (h : s.CallSound call) (hcritical : call.phase.critical = false)
    (hwritten : ∀ w ∈ s.written, w ∈ s'.written) : s'.CallSound call := by
  have hjustified : ∀ response, s.Justified call response → s'.Justified call response := by
    intro response hold
    unfold Justified at hold ⊢
    split at hold
    · rename_i hran
      obtain ⟨w, hw, hrest⟩ := hold
      rw [if_pos hran]
      exact ⟨w, hwritten w hw, hrest⟩
    · rename_i hran
      rw [if_neg hran]
      rcases hold with ⟨w, hw, hrest⟩ | ⟨w, hw, hrest⟩ | herror
      · exact .inl ⟨w, hwritten w hw, hrest⟩
      · exact .inr (.inl ⟨w, hwritten w hw, hrest⟩)
      · exact .inr (.inr herror)
  unfold CallSound at h ⊢
  cases hphase : call.phase <;> simp only [hphase, Phase.critical, Bool.true_eq_false] at h hcritical ⊢
  all_goals first | exact h | exact hjustified _ h

/-! ### The two caches -/

/-- A row of the table after a write is the new one or was there. -/
lemma put_lookup {row r : StoredResponse} {fault : Option PutFault}
    (h : (putIdempotentResponse rows k row fault).1[key]? = some r) :
    (k = key ∧ r = row) ∨ rows[key]? = some r := by
  have hinsert : ∀ r, (rows.insert k row)[key]? = some r → (k = key ∧ r = row) ∨
      rows[key]? = some r := by
    intro r hr
    rw [Registry.getElem?_insert] at hr
    split at hr
    · rename_i hk
      exact .inl ⟨hk, (Option.some.inj hr).symm⟩
    · exact .inr hr
  cases fault with
  | none =>
    simp only [putIdempotentResponse, Registry.getElem?_filter] at h
    exact hinsert r (Option.eq_some_of_filter_eq_some h)
  | some fault =>
    cases fault with
    | insert error => exact .inr h
    | trim error => exact hinsert r h

/-- The response that a call keeps is the stored one, perhaps marked as not durable. -/
lemma put_echoes (rows : Registry StoredResponse) (k : String) (row : StoredResponse)
    (fault : Option PutFault) :
    row.response.Echoes ((putIdempotentResponse rows k row fault).2.elim row.response
      row.response.notDurable) := by
  cases hout : (putIdempotentResponse rows k row fault).2 with
  | none => exact .inl rfl
  | some error => exact .inr ⟨error, rfl⟩

/-- Making room evicts entries and adds none. -/
lemma makeRoom_lookup {cache : Registry (String × ApiResponse)} {v : String × ApiResponse}
    (h : (makeRoom cache)[key]? = some v) : cache[key]? = some v := by
  unfold makeRoom at h
  split at h
  · split at h
    · rw [Registry.getElem?_erase] at h
      split at h
      · cases h
      · exact h
    · exact h
  · exact h

variable {response : ApiResponse} {requestHash : String} {fault : Option ApiError}

/-- A response that is found is stored with the fingerprint of the request. -/
lemma getIdempotentResponse_ok_some
    (h : getIdempotentResponse rows k requestHash fault = .ok (some response)) :
    ∃ row, rows[k]? = some row ∧ row.requestHash = requestHash ∧ row.response = response := by
  unfold getIdempotentResponse at h
  split at h
  · cases h
  · split at h
    · cases h
    · rename_i row hrow
      split at h
      · cases h
      · rename_i hhash
        exact ⟨row, hrow, not_not.mp hhash, Option.some.inj (Except.ok.inj h)⟩

/-- Nothing is found where nothing is stored. -/
lemma getIdempotentResponse_ok_none (h : getIdempotentResponse rows k requestHash fault = .ok none) :
     rows[k]? = none := by
  unfold getIdempotentResponse at h
  split at h
  · cases h
  · split at h
    · assumption
    · split at h
      · cases h
      · simp at h

/-- A lookup fails with a fault, or with a conflict of fingerprints. -/
lemma getIdempotentResponse_error {error : ApiError}
    (h : getIdempotentResponse rows k requestHash fault = .error error) : fault = some error ∨
      error = idempotencyConflict ∧ ∃ row, rows[k]? = some row ∧ row.requestHash ≠ requestHash := by
  unfold getIdempotentResponse at h
  split at h
  · exact .inl (congrArg some (Except.error.inj h))
  · split at h
    · cases h
    · rename_i row hrow
      split at h
      · rename_i hhash
        exact .inr ⟨(Except.error.inj h).symm, row, hrow, hhash⟩
      · cases h

/-! ### What one call does -/

section Call

variable {lock : ℕ} (h : Sound key s) (hi : s.calls[i]? = some call)
include h hi

/-- What holds of the call at an index. -/
lemma Sound.at (hkey : call.key = key) : s.CallSound call :=
  h.calls call (List.mem_of_getElem? hi) hkey

/-- Two critical calls of one key are the same call. -/
lemma Sound.alone {j : ℕ} {other : Call} {t u : KeyedLocks.Ticket}
    (hj : s.calls[j]? = some other) (ht : call.ticket = some t) (hu : other.ticket = some u)
    (hkey : t.key = u.key) (hts : t.stage = .holding) (hus : u.stage = .holding) : i = j :=
  h.locks.mutual_exclusion (by rw [getElem?_tickets hi, ht]) (by rw [getElem?_tickets hj, hu]) hkey
    hts hus

/-- Two critical calls of one key have one index. -/
lemma Sound.alone_critical {j : ℕ} {other : Call}
    (hj : s.calls[j]? = some other) (hkey : call.key = other.key)
    (hc : call.phase.critical = true) (ho : other.phase.critical = true) : i = j := by
  obtain ⟨lock, ht⟩ := ticket_of_critical hc
  obtain ⟨lock', hu⟩ := ticket_of_critical ho
  exact h.alone hi hj ht hu hkey rfl rfl

/-- A critical call is the only one of its key. -/
lemma Sound.only_critical {other : Call} (hmem : other ∈ s.calls)
    (hkey : call.key = other.key) (hc : call.phase.critical = true)
    (ho : other.phase.critical = true) : other = call := by
  obtain ⟨j, hj⟩ := List.mem_iff_getElem?.mp hmem
  obtain rfl := h.alone_critical hi hj hkey hc ho
  exact Option.some.inj (hj.symm.trans hi)

/-- The tickets after a step in which the call keeps its mutex. -/
lemma Sound.locks_same {moved : Call}
    (hticket : ({ moved with phase := phase } : Call).ticket = call.ticket) :
    KeyedLocks.Consistent s.locks (s.move i moved phase).tickets := by
  have hset : s.tickets.set i call.ticket = s.tickets := by
    obtain ⟨hlt, hget⟩ := List.getElem?_eq_some_iff.mp (getElem?_tickets hi)
    rw [← hget, List.set_getElem_self hlt]
  rw [tickets_move, hticket, hset]
  exact h.locks

/-- A call that moves and changes neither caches nor histories. -/
lemma Sound.moves {moved : Call} {locks : Registry ℕ} {next : ℕ}
    (hsame : moved.key = call.key)
    (hlocks : KeyedLocks.Consistent locks (s.move i moved phase).tickets)
    (hstored : ∀ lock response, call.phase ≠ .stored lock response)
    (hactive : call.phase.active = true → phase.active = true)
    (hsound : call.key = key → s.CallSound call → s.CallSound { moved with phase := phase }) :
    Sound key ({ s with locks := locks, nextLock := next }.move i moved phase) where
  locks := hlocks
  retained := h.retained
  memory := h.memory
  rows row hrow := by
    rcases h.rows row hrow with hwritten | ⟨other, hmem, hkey, lock, response, hphase, hrest⟩
    · exact .inl hwritten
    · refine .inr ⟨other, mem_set_of_mem hi hmem ?_, hkey, lock, response, hphase, hrest⟩
      rintro rfl
      exact hstored lock response hphase
  calls other hmem hkey := by
    rcases mem_set_calls hmem with rfl | ⟨j, -, hj⟩
    · have hkey : call.key = key := hsame.symm.trans hkey
      exact (hsound hkey (h.at hi hkey)).of_same id fun _ _ => Iff.rfl
    · exact (h.at hj hkey).of_same id fun _ _ => Iff.rfl
  unique := h.unique
  once := h.once
  started hmem := by
    rcases h.started hmem with ⟨other, hother, hkey, hphase⟩ | hwritten
    · by_cases hne : other = call
      · subst hne
        exact .inl ⟨_, mem_set_self hi, hsame.trans hkey, hactive hphase⟩
      · exact .inl ⟨other, mem_set_of_mem hi hother hne, hkey, hphase⟩
    · exact .inr hwritten

/-- Both lookups missed: nothing was written, and no body was started. -/
lemma Sound.missed (hphase : call.phase = .missed lock) (hkey : call.key = key)
    (hrows : s.rows[key]? = none) :
    ¬ s.Written key ∧ key ∉ s.bodies := by
  have hsound := h.at hi hkey
  have hmemory : s.memory[key]? = none := by
    simp only [CallSound, hphase, hkey] at hsound
    exact hsound.2
  have hwritten : ¬ s.Written key := by
    intro hw
    rcases h.retained hw with hsome | hsome
    · simp [hmemory] at hsome
    · simp [hrows] at hsome
  refine ⟨hwritten, fun hmem => ?_⟩
  rcases h.started hmem with ⟨other, hother, hokey, hactive⟩ | hw
  · obtain rfl := h.only_critical hi hother (hkey.trans hokey.symm)
      (by simp [hphase, Phase.critical]) (critical_of_active hactive)
    simp [hphase, Phase.active] at hactive
  · exact hwritten hw

/-- A call starts the method body. -/
lemma Sound.starts (hphase : call.phase = .missed lock) (hrows : s.rows[call.key]? = none) :
    Sound key ({ s with bodies := s.bodies ++ [call.key] }.move i { call with ran := true }
      (.running lock)) where
  locks := by
    have hticket : ({ call with phase := .running lock, ran := true } : Call).ticket =
        call.ticket := by
      simp [Call.ticket, hphase]
    exact h.locks_same hi hticket
  retained := h.retained
  memory := h.memory
  rows row hrow := by
    rcases h.rows row hrow with hwritten | ⟨other, hmem, hkey, lock', response, hstored, hrest⟩
    · exact .inl hwritten
    · refine .inr ⟨other, mem_set_of_mem hi hmem ?_, hkey, lock', response, hstored, hrest⟩
      rintro rfl
      rw [hphase] at hstored
      cases hstored
  calls other hmem hkey := by
    rcases mem_set_calls hmem with rfl | ⟨j, -, hj⟩
    · have hkey' : call.key = key := hkey
      have hnone := (h.missed hi hphase hkey' (hkey' ▸ hrows)).1
      exact ⟨rfl, fun ⟨w, hw, hk⟩ => hnone ⟨w, hw, hk.trans hkey'⟩⟩
    · exact (h.at hj hkey).of_same id fun _ _ => Iff.rfl
  unique := h.unique
  once := by
    change (s.bodies ++ [call.key]).count key ≤ 1
    rw [List.count_append]
    by_cases hkey : call.key = key
    · have hnone := List.count_eq_zero.mpr (h.missed hi hphase hkey (hkey ▸ hrows)).2
      have hone : [call.key].count key ≤ 1 := List.count_le_length
      omega
    · have hzero : [call.key].count key = 0 := by
        simp [hkey]
      have := h.once
      omega
  started hmem := by
    rcases List.mem_append.mp hmem with hmem | hmem
    · rcases h.started hmem with ⟨other, hother, hkey, hactive⟩ | hwritten
      · refine .inl ⟨other, mem_set_of_mem hi hother ?_, hkey, hactive⟩
        rintro rfl
        simp [hphase, Phase.active] at hactive
      · exact .inr hwritten
    · have hkey : call.key = key := (List.mem_singleton.mp hmem).symm
      exact .inl ⟨_, mem_set_self hi, hkey, rfl⟩

/-- A call writes its response to the store. -/
lemma Sound.stores {now : ℕ} (fault : Option PutFault)
    (hphase : call.phase = .executed lock response)
    (hretained : Retained key { s with rows := (putIdempotentResponse s.rows call.key
      ⟨call.fingerprint, response, now⟩ fault).1 }) : Sound key ({ s with rows :=
        (putIdempotentResponse s.rows call.key ⟨call.fingerprint, response, now⟩ fault).1 }.move i
      call (.stored lock
        ((putIdempotentResponse s.rows call.key ⟨call.fingerprint, response, now⟩ fault).2.elim
          response response.notDurable))) where
  locks := h.locks_same hi (by simp [Call.ticket, hphase])
  retained := hretained
  memory := h.memory
  rows row hrow := by
    rcases put_lookup hrow with ⟨hkey, rfl⟩ | hold
    · exact .inr ⟨_, mem_set_self hi, hkey, lock, _, rfl, rfl,
        put_echoes s.rows call.key ⟨call.fingerprint, response, now⟩ fault⟩
    · rcases h.rows row hold with hwritten | ⟨other, hmem, hkey, lock', response', hstored, hrest⟩
      · exact .inl hwritten
      · refine .inr ⟨other, mem_set_of_mem hi hmem ?_, hkey, lock', response', hstored, hrest⟩
        rintro rfl
        rw [hphase] at hstored
        cases hstored
  calls other hmem hkey := by
    rcases mem_set_calls hmem with rfl | ⟨j, -, hj⟩
    · have hold := h.at hi hkey
      simp only [CallSound, hphase] at hold
      exact hold
    · exact (h.at hj hkey).of_same id fun _ _ => Iff.rfl
  unique := h.unique
  once := h.once
  started hmem := by
    rcases h.started hmem with ⟨other, hother, hkey, hactive⟩ | hwritten
    · by_cases hne : other = call
      · subst hne
        exact .inl ⟨_, mem_set_self hi, hkey, rfl⟩
      · exact .inl ⟨other, mem_set_of_mem hi hother hne, hkey, hactive⟩
    · exact .inr hwritten

/-- A call of another key writes to the cache in memory. -/
lemma Sound.caches_other (hphase : call.phase = .stored lock response)
    (hkey : call.key ≠ key)
    (hretained : Retained key ({ s with
      memory := (makeRoom s.memory).insert call.key (call.fingerprint, response)
      written := s.written ++ [⟨call.key, call.fingerprint, response⟩] } : Retries)) :
    Sound key (({ s with
      memory := (makeRoom s.memory).insert call.key (call.fingerprint, response)
      written := s.written ++ [⟨call.key, call.fingerprint, response⟩] } : Retries).move i call
        (.answered lock response)) where
  locks := h.locks_same hi (by simp [Call.ticket, hphase])
  retained := hretained
  memory v hv := by
    have hold : (makeRoom s.memory)[key]? = some v := by
      simpa [move, Registry.getElem?_insert, hkey] using hv
    obtain ⟨w, hw, hrest⟩ := h.memory v (makeRoom_lookup hold)
    exact ⟨w, List.mem_append_left _ hw, hrest⟩
  rows row hrow := by
    rcases h.rows row hrow with ⟨w, hw, hrest⟩ | ⟨other, hmem, hokey, hrest⟩
    · exact .inl ⟨w, List.mem_append_left _ hw, hrest⟩
    · refine .inr ⟨other, mem_set_of_mem hi hmem ?_, hokey, hrest⟩
      rintro rfl
      exact hkey hokey
  calls other hmem hokey := by
    rcases mem_set_calls hmem with rfl | ⟨j, -, hj⟩
    · exact absurd hokey hkey
    · refine (h.at hj hokey).of_same ?_ ?_
      · intro hnone
        have hne : ¬ call.key = other.key := fun heq => hkey (heq.trans hokey)
        have hroom : (makeRoom s.memory)[other.key]? = none := by
          cases hv : (makeRoom s.memory)[other.key]? with
          | none => rfl
          | some v => rw [makeRoom_lookup hv] at hnone; cases hnone
        simp [move, Registry.getElem?_insert, hne, hroom]
      · intro w hwkey
        have hne : w ≠ ⟨call.key, call.fingerprint, response⟩ := by
          rintro rfl
          exact hkey (hwkey.trans hokey)
        simp [move, hne]
  unique := by
    have hzero : ([⟨call.key, call.fingerprint, response⟩] : List Cached).countP
        (fun w => w.key = key) = 0 := by simp [hkey]
    change (s.written ++ [_]).countP _ ≤ 1
    rw [List.countP_append, hzero]
    exact h.unique
  once := h.once
  started hmem := by
    rcases h.started hmem with ⟨other, hother, hokey, hactive⟩ | ⟨w, hw, hwkey⟩
    · refine .inl ⟨other, mem_set_of_mem hi hother ?_, hokey, hactive⟩
      rintro rfl
      exact hkey hokey
    · exact .inr ⟨w, List.mem_append_left _ hw, hwkey⟩

/-- The call that ran the body writes to the cache in memory: the first response of its key. -/
lemma Sound.caches (hphase : call.phase = .stored lock response)
    (hkey : call.key = key) : Sound key (({ s with
      memory := (makeRoom s.memory).insert call.key (call.fingerprint, response)
      written := s.written ++ [⟨call.key, call.fingerprint, response⟩] } : Retries).move i call
        (.answered lock response)) := by
  subst hkey
  have hsound := h.at hi rfl
  simp only [CallSound, hphase] at hsound
  obtain ⟨hran, hnone⟩ := hsound
  have hlast : (⟨call.key, call.fingerprint, response⟩ : Cached) ∈
      s.written ++ [⟨call.key, call.fingerprint, response⟩] := by simp
  have hcritical : call.phase.critical = true := by simp [hphase, Phase.critical]
  refine ⟨h.locks_same hi (by simp [Call.ticket, hphase]), ?_, ?_, ?_, ?_, ?_, h.once, ?_⟩
  · intro _
    exact .inl (by simp [move])
  · intro v hv
    have hv' : (call.fingerprint, response) = v := by simpa [move] using hv
    exact ⟨_, hlast, rfl, by rw [← hv'], by rw [← hv']⟩
  · intro row hrow
    rcases h.rows row hrow with ⟨w, hw, hrest⟩ |
      ⟨other, hmem, hokey, lock', response', hstored, hfp, hecho⟩
    · exact absurd ⟨w, hw, hrest.1⟩ hnone
    · obtain rfl := h.only_critical hi hmem hokey.symm hcritical
        (by simp [hstored, Phase.critical])
      rw [hphase] at hstored
      obtain ⟨rfl, rfl⟩ := Phase.stored.inj hstored
      exact .inl ⟨_, hlast, rfl, hfp, hecho⟩
  · intro other hmem hokey
    rcases mem_set_calls hmem with rfl | ⟨j, hne, hj⟩
    · simp only [CallSound, Justified, hran, if_true]
      exact ⟨_, hlast, rfl, rfl, rfl⟩
    · refine (h.at hj hokey).of_grown ?_
        fun w hw => List.mem_append_left _ hw
      by_contra hc
      have hc' : other.phase.critical = true := by simpa using hc
      exact hne (h.alone_critical hi hj hokey.symm hcritical hc').symm
  · have hzero : s.written.countP (fun w => w.key = call.key) = 0 :=
      List.countP_eq_zero.mpr fun w hw hwkey => hnone ⟨w, hw, by simpa using hwkey⟩
    change (s.written ++ [_]).countP _ ≤ 1
    rw [List.countP_append, hzero]
    simp
  · intro _
    exact .inr ⟨_, hlast, rfl⟩

/-- A call that has found its answer in a cache, or got an error. -/
lemma Sound.answers {moved : Call} (hsame : moved.key = call.key)
    (hphase : call.phase = .holding lock ∨ call.phase = .missed lock)
    (hjustified : call.key = key → s.Justified moved response) :
    Sound key (s.move i moved (.answered lock response)) := by
  refine h.moves hi hsame (h.locks_same hi ?_) ?_ ?_ fun hkey _ => hjustified hkey
  · rcases hphase with hphase | hphase <;> simp [Call.ticket, hphase, hsame]
  · intro lock' response' hstored
    rcases hphase with hphase | hphase <;> simp [hphase] at hstored
  · intro hactive
    rcases hphase with hphase | hphase <;> simp [hphase, Phase.active] at hactive

/-- A call has not run the body before its lookup in the store. -/
lemma Sound.not_ran (hphase : call.phase = .holding lock ∨ call.phase = .missed lock)
    (hkey : call.key = key) :
    call.ran = false := by
  have hsound := h.at hi hkey
  rcases hphase with hphase | hphase <;> simp only [CallSound, hphase] at hsound
  · exact hsound
  · exact hsound.1

/-- What a call finds in the table under its key was written: nobody else is about to. -/
lemma Sound.row_written {row : StoredResponse} (hphase : call.phase = .missed lock)
    (hkey : call.key = key) (hrow : s.rows[key]? = some row) :
    ∃ w ∈ s.written, w.key = key ∧ w.requestHash = row.requestHash ∧
      row.response.Echoes w.response := by
  rcases h.rows row hrow with hwritten | ⟨other, hmem, hokey, lock', response, hstored, -⟩
  · exact hwritten
  · obtain rfl := h.only_critical hi hmem (hkey.trans hokey.symm)
      (by simp [hphase, Phase.critical]) (by simp [hstored, Phase.critical])
    rw [hphase] at hstored
    cases hstored

end Call

/-! ### Every step -/

section Steps

variable {state : Option SessionState} {evidence : List Evidence} (h : Sound key s)
include h

/-- A call arrives. -/
lemma Sound.arrive (call : Call) (hphase : call.phase = .arrived)
    (hran : call.ran = false) : Sound key { s with calls := s.calls ++ [call] } where
  locks := by
    have hnone : call.ticket = none := by simp [Call.ticket, hphase]
    have := h.locks.arrive
    simpa [tickets, hnone] using this
  retained := h.retained
  memory := h.memory
  rows row hrow := by
    rcases h.rows row hrow with hwritten | ⟨other, hmem, hrest⟩
    · exact .inl hwritten
    · exact .inr ⟨other, List.mem_append_left _ hmem, hrest⟩
  calls other hmem hkey := by
    rcases List.mem_append.mp hmem with hmem | hmem
    · exact (h.calls other hmem hkey).of_same id fun _ _ => Iff.rfl
    · obtain rfl := List.mem_singleton.mp hmem
      simp [CallSound, hphase, hran]
  unique := h.unique
  once := h.once
  started hmem := by
    rcases h.started hmem with ⟨other, hother, hrest⟩ | hwritten
    · exact .inl ⟨other, List.mem_append_left _ hother, hrest⟩
    · exact .inr hwritten

/-- A lookup in memory. -/
lemma Sound.looksMemory (hp : s.perform (.lookMemory i state evidence) = some s') :
    Sound key s' := by
  obtain ⟨call, hi, hp⟩ := Option.bind_eq_some_iff.mp hp
  split at hp
  · rename_i lock hphase
    split at hp
    · rename_i requestHash response hmemory
      split at hp
      · rename_i hhash
        obtain rfl := Option.some.inj hp
        refine h.answers hi rfl (.inl hphase) fun hkey => ?_
        obtain ⟨w, hw, hwkey, hwhash, rfl⟩ := h.memory _ (hkey ▸ hmemory)
        simp only [Justified, h.not_ran hi (.inl hphase) hkey, Bool.false_eq_true, if_false]
        exact .inl ⟨w, hw, hwkey.trans hkey.symm, hwhash.trans hhash, .inl rfl⟩
      · rename_i hhash
        obtain rfl := Option.some.inj hp
        refine h.answers hi rfl (.inl hphase) fun hkey => ?_
        obtain ⟨w, hw, hwkey, hwhash, -⟩ := h.memory _ (hkey ▸ hmemory)
        simp only [Justified, h.not_ran hi (.inl hphase) hkey, Bool.false_eq_true, if_false]
        exact .inr (.inl ⟨w, hw, hwkey.trans hkey.symm, fun heq => hhash (hwhash.symm.trans heq),
          state, evidence, rfl⟩)
    · rename_i hmemory
      obtain rfl := Option.some.inj hp
      refine h.moves hi rfl (h.locks_same hi (by simp [Call.ticket, hphase])) ?_ ?_ ?_
      · intro lock' response' hstored
        simp [hphase] at hstored
      · intro hactive
        simp [hphase, Phase.active] at hactive
      · intro hkey _
        have hran := h.not_ran hi (.inl hphase) hkey
        exact ⟨hran, hmemory⟩
  · cases hp

/-- A lookup in the store. -/
lemma Sound.looksStore (hp : s.perform (.lookStore i fault state evidence) = some s') :
    Sound key s' := by
  obtain ⟨call, hi, hp⟩ := Option.bind_eq_some_iff.mp hp
  split at hp
  · rename_i lock hphase
    split at hp
    · rename_i response hfound
      obtain rfl := Option.some.inj hp
      refine h.answers hi rfl (.inr hphase) fun hkey => ?_
      obtain ⟨row, hrow, hhash, rfl⟩ := getIdempotentResponse_ok_some hfound
      obtain ⟨w, hw, hwkey, hwhash, hecho⟩ := h.row_written hi hphase hkey (hkey ▸ hrow)
      simp only [Justified, h.not_ran hi (.inr hphase) hkey, Bool.false_eq_true, if_false]
      exact .inl ⟨w, hw, hwkey.trans hkey.symm, hwhash.trans hhash, hecho⟩
    · rename_i hmissed
      obtain rfl := Option.some.inj hp
      exact h.starts hi hphase (getIdempotentResponse_ok_none hmissed)
    · rename_i error herror
      obtain rfl := Option.some.inj hp
      refine h.answers hi rfl (.inr hphase) fun hkey => ?_
      simp only [Justified, h.not_ran hi (.inr hphase) hkey, Bool.false_eq_true, if_false]
      rcases getIdempotentResponse_error herror with rfl | ⟨rfl, row, hrow, hhash⟩
      · exact .inr (.inr ⟨error, state, evidence, rfl, rfl⟩)
      · obtain ⟨w, hw, hwkey, hwhash, -⟩ := h.row_written hi hphase hkey (hkey ▸ hrow)
        exact .inr (.inl ⟨w, hw, hwkey.trans hkey.symm, hwhash ▸ hhash, state, evidence, rfl⟩)
  · cases hp

/-- A step that leaves the key in one of the caches. -/
lemma Sound.perform {action : RetryAction} (hstep : RetryStep key s action s') :
    Sound key s' := by
  obtain ⟨hp, hretained⟩ := hstep
  cases action with
  | arrive request caller mode fingerprint =>
    obtain ⟨k, -, rfl⟩ := Option.map_eq_some_iff.mp hp
    exact h.arrive _ rfl rfl
  | enroll i =>
    obtain ⟨call, hi, hp⟩ := Option.bind_eq_some_iff.mp hp
    split at hp
    · rename_i hphase
      obtain rfl := Option.some.inj hp
      refine h.moves hi rfl ?_ (by simp [hphase]) (by simp [hphase, Phase.active]) ?_
      · rw [tickets_move]
        exact h.locks.enrolled i s.nextLock call.key
      · exact fun _ hsound => by simpa only [CallSound, hphase] using hsound
    · cases hp
  | acquire i =>
    obtain ⟨call, hi, hp⟩ := Option.bind_eq_some_iff.mp hp
    split at hp
    · rename_i lock hphase
      split at hp
      · cases hp
      · rename_i hfree
        obtain rfl := Option.some.inj hp
        refine h.moves hi rfl ?_ (by simp [hphase]) (by simp [hphase, Phase.active]) ?_
        · rw [tickets_move]
          refine h.locks.acquired ?_ (by simpa using hfree)
          rw [getElem?_tickets hi]
          simp [Call.ticket, hphase]
        · exact fun _ hsound => by simpa only [CallSound, hphase] using hsound
    · cases hp
  | lookMemory i state evidence => exact h.looksMemory hp
  | lookStore i fault state evidence => exact h.looksStore hp
  | finish i response =>
    obtain ⟨call, hi, hp⟩ := Option.bind_eq_some_iff.mp hp
    split at hp
    · rename_i lock hphase
      obtain rfl := Option.some.inj hp
      refine h.moves hi rfl (h.locks_same hi (by simp [Call.ticket, hphase]))
        (by simp [hphase]) (fun _ => rfl) fun _ hsound => ?_
      simpa only [CallSound, hphase] using hsound
    · cases hp
  | put i now fault =>
    obtain ⟨call, hi, hp⟩ := Option.bind_eq_some_iff.mp hp
    split at hp
    · rename_i lock response hphase
      obtain rfl := Option.some.inj hp
      exact h.stores hi fault hphase hretained
    · cases hp
  | cache i =>
    obtain ⟨call, hi, hp⟩ := Option.bind_eq_some_iff.mp hp
    split at hp
    · rename_i lock response hphase
      obtain rfl := Option.some.inj hp
      by_cases hkey : call.key = key
      · exact h.caches hi hphase hkey
      · exact h.caches_other hi hphase hkey hretained
    · cases hp
  | unlock i =>
    obtain ⟨call, hi, hp⟩ := Option.bind_eq_some_iff.mp hp
    split at hp
    · rename_i lock response hphase
      obtain rfl := Option.some.inj hp
      refine h.moves hi rfl ?_ (by simp [hphase]) (by simp [hphase, Phase.active]) ?_
      · rw [tickets_move]
        refine h.locks.gaveUp ?_
        rw [getElem?_tickets hi]
        simp [Call.ticket, hphase]
      · intro _ hsound
        simp only [CallSound, hphase] at hsound
        exact hsound
    · cases hp
  | release i =>
    obtain ⟨call, hi, hp⟩ := Option.bind_eq_some_iff.mp hp
    split at hp
    · rename_i lock response hphase
      obtain rfl := Option.some.inj hp
      refine h.moves hi rfl ?_ (by simp [hphase]) (by simp [hphase, Phase.active]) ?_
      · rw [tickets_move]
        refine h.locks.reclaimed ?_
        rw [getElem?_tickets hi]
        simp [Call.ticket, hphase]
      · intro _ hsound
        simp only [CallSound, hphase] at hsound
        exact hsound
    · cases hp
  | leave i =>
    obtain ⟨call, hi, hp⟩ := Option.bind_eq_some_iff.mp hp
    split at hp
    · rename_i lock response hphase
      obtain rfl := Option.some.inj hp
      refine h.moves hi rfl ?_ (by simp [hphase]) (by simp [hphase, Phase.active]) ?_
      · rw [tickets_move]
        exact h.locks.left i
      · intro _ hsound
        simp only [CallSound, hphase] at hsound
        exact hsound
    · cases hp

end Steps

/-! ### Whole runs -/

/-- A gateway that starts is sound: its table holds each key once. -/
lemma sound_start (rows : Registry StoredResponse) (key : String) : Sound key (start rows) where
  locks := KeyedLocks.Consistent.nil ∅
  retained := by
    rintro ⟨w, hw, hkey⟩
    obtain ⟨⟨k, row⟩, hmem, rfl⟩ := List.mem_map.mp hw
    have hrow := Std.ExtTreeMap.mem_toList_iff_getElem?_eq_some.mp hmem
    have hk : k = key := hkey
    subst hk
    exact .inr (by simp [start, hrow])
  memory v hv := by
    simp [start] at hv
  rows row hrow := by
    have hmem := Std.ExtTreeMap.mem_toList_iff_getElem?_eq_some.mpr hrow
    exact .inl ⟨_, List.mem_map.mpr ⟨_, hmem, rfl⟩, rfl, rfl, .inl rfl⟩
  calls call hmem := by
    simp [start] at hmem
  unique := by
    have hkeys : rows.toList.countP (fun entry => entry.1 = key) ≤ 1 := by
      have hcount := List.nodup_iff_count_le_one.mp (Std.ExtTreeMap.nodup_keys (t := rows)) key
      rw [← Std.ExtTreeMap.map_fst_toList_eq_keys, List.count, List.countP_map] at hcount
      refine le_trans (le_of_eq (List.countP_congr fun entry _ => ?_)) hcount
      simp
    rw [start, List.countP_map]
    exact hkeys
  once := by simp [start]
  started hmem := by
    simp [start] at hmem

/-- Every state of a run that keeps the key in one of the caches is sound. -/
lemma sound_of_run {actions : List RetryAction}
    (hrun : Runs.Run (RetryStep key) (start rows) actions s) : Sound key s :=
  hrun.invariant (sound_start rows key) fun _ _ _ h hstep => h.perform hstep

/-- The response of a call that is fixed has its reason. -/
lemma Sound.justified (h : Sound key s) (hmem : call ∈ s.calls) (hkey : call.key = key)
    (hresponse : call.phase.response = some response) : s.Justified call response := by
  have hsound := h.calls call hmem hkey
  unfold CallSound at hsound
  cases hphase : call.phase <;> simp_all [Phase.response]

end Retries

/-- Calls of one retry key, in any interleaving in which the key is not evicted from both caches:
the calls that are not done refer to one mutex, one of them is between its miss and its write, the
method body is started once, one response is written, and every call returns the response it
wrote, or the written one, or a conflict if that has another fingerprint, or the error of its
query of the store; only the first of these ran the body. -/
theorem retries_execute_once {rows : Registry StoredResponse} {actions : List RetryAction}
    {s : Retries} {key : String}
    (hrun : Runs.Run (RetryStep key) (Retries.start rows) actions s) :
    (∀ call ∈ s.calls, ∀ other ∈ s.calls, ∀ t u, call.ticket = some t → other.ticket = some u →
      call.key = key → other.key = key → t.stage ≠ .released → u.stage ≠ .released →
        t.lock = u.lock) ∧
    (∀ (i j : ℕ) (call other : Call), s.calls[i]? = some call → s.calls[j]? = some other →
      call.key = key → other.key = key → call.phase.critical = true →
        other.phase.critical = true → i = j) ∧
    s.bodies.count key ≤ 1 ∧
    s.written.countP (fun w => w.key = key) ≤ 1 ∧
    ∀ call ∈ s.calls, call.key = key → ∀ response, call.phase.response = some response →
      s.Justified call response := by
  have hsound := Retries.sound_of_run hrun
  refine ⟨?_, ?_, hsound.once, hsound.unique, ?_⟩
  · intro call hcall other hother t u ht hu hkey hkey' hts hus
    refine hsound.locks.agree (List.mem_map.mpr ⟨call, hcall, ht⟩)
      (List.mem_map.mpr ⟨other, hother, hu⟩) ?_ hts hus
    rw [Retries.ticket_key ht, Retries.ticket_key hu, hkey, hkey']
  · intro i j call other hi hj hkey hkey' hc ho
    exact hsound.alone_critical hi hj (hkey.trans hkey'.symm) hc ho
  · intro call hmem hkey response hresponse
    exact hsound.justified hmem hkey hresponse

/-! ### Two runs -/

instance (key : String) (s : Retries) : Decidable (s.Retained key) :=
  inferInstanceAs (Decidable ((∃ w ∈ s.written, w.key = key) →
    s.memory[key]?.isSome = true ∨ s.rows[key]?.isSome = true))

/-- A step, if the key stays in one of the caches. -/
def Retries.performRetaining (key : String) (s : Retries) (action : RetryAction) : Option Retries :=
  (s.perform action).filter fun s' => s'.Retained key

/-- Steps that are performed are a run. -/
lemma Retries.run_of_foldlM {key : String} {s s' : Retries} {actions : List RetryAction}
    (h : actions.foldlM (Retries.performRetaining key) s = some s') :
    Runs.Run (RetryStep key) s actions s' := by
  refine (Runs.Run.of_foldlM h).mono fun s action s' hstep => ?_
  obtain ⟨hperform, hretained⟩ := Option.filter_eq_some_iff.mp hstep
  exact ⟨hperform, of_decide_eq_true hretained⟩

/-- A request to list the sessions, with a key of the client. -/
def listSessions : ApiRequest where
  requestId := "req_1"
  sessionId := none
  method := .sessionList
  idempotencyKey := some "k"
  parameters := .object []

def listed : ApiResponse where
  requestId := "req_1"
  sessionId := none
  revision := none
  state := none
  result := some (.array [])
  error := none

/-- What a call returned: its fingerprint, whether it ran the body, and the code of its error. -/
def Call.outcome (call : Call) : String × Bool × Option (Option ErrorCode) :=
  (call.fingerprint, call.ran,
    match call.phase with
    | .returned response => some (response.error.map ApiError.code)
    | _ => none)

/-- A retry arrives while the first call runs the body, and a request with other parameters. -/
def overlapping : List RetryAction :=
  [.arrive listSessions ⟨"alice", false⟩ .canonical "h",
    .arrive listSessions ⟨"alice", false⟩ .canonical "h",
    .arrive listSessions ⟨"alice", false⟩ .canonical "other",
    .enroll 0, .acquire 0, .lookMemory 0 none [], .enroll 1, .lookStore 0 none none [], .enroll 2,
    .finish 0 listed, .put 0 5 none, .cache 0, .unlock 0, .acquire 2, .lookMemory 2 none [],
    .release 0, .leave 0, .unlock 2, .acquire 1, .lookMemory 1 none [], .release 2, .leave 2,
    .unlock 1, .release 1, .leave 1]

/-- The retry gets the response of the first call, and the other request a conflict. -/
theorem overlapping_executes_once :
    ∃ s, Runs.Run (RetryStep "alice:global:session.list:k") (Retries.start ∅) overlapping s ∧
      s.calls.map Call.outcome = [("h", true, some none), ("h", false, some none),
        ("other", false, some (some .conflict))] ∧
      s.bodies.count "alice:global:session.list:k" ≤ 1 := by
  have heval : (overlapping.foldlM (Retries.performRetaining "alice:global:session.list:k")
      (Retries.start ∅)).map (fun s => s.calls.map Call.outcome) =
      some [("h", true, some none), ("h", false, some none), ("other", false, some (some .conflict))] := by
    decide +kernel
  obtain ⟨s, hs, houtcome⟩ := Option.map_eq_some_iff.mp heval
  have hrun := Retries.run_of_foldlM hs
  exact ⟨s, hrun, houtcome, (retries_execute_once hrun).2.2.1⟩

/-- The table of a gateway that has answered the request already. -/
def answeredRows : Registry StoredResponse :=
  (∅ : Registry StoredResponse).insert "alice:global:session.list:k" ⟨"h", listed, 0⟩

/-- A retry whose query of the store fails. -/
def failingQuery : List RetryAction :=
  [.arrive listSessions ⟨"alice", false⟩ .canonical "h", .enroll 0, .acquire 0,
    .lookMemory 0 none [], .lookStore 0 (some { code := .internal, message := "disk I/O error" })
      none [], .unlock 0, .release 0, .leave 0]

/-- The key is in the store throughout, and the retry returns neither the first response nor a
conflict. -/
theorem failing_query_hides_response :
    ∃ s, Runs.Run (RetryStep "alice:global:session.list:k") (Retries.start answeredRows)
        failingQuery s ∧
      s.written.map (fun w => (w.requestHash, w.response.error.map ApiError.code)) =
        [("h", none)] ∧
      s.calls.map Call.outcome = [("h", false, some (some .internal))] := by
  have heval : (failingQuery.foldlM (Retries.performRetaining "alice:global:session.list:k")
      (Retries.start answeredRows)).any (fun s =>
        s.written.map (fun w => (w.requestHash, w.response.error.map ApiError.code)) =
            [("h", none)] &&
          s.calls.map Call.outcome = [("h", false, some (some .internal))]) = true := by
    decide +kernel
  obtain ⟨s, hs, hview⟩ := (Option.any_eq_true _ _).mp heval
  rw [Bool.and_eq_true, decide_eq_true_eq, decide_eq_true_eq] at hview
  exact ⟨s, Retries.run_of_foldlM hs, hview.1, hview.2⟩

end GdbAi
