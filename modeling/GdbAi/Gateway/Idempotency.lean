import GdbAi.Gateway.RetryKeys
import GdbAi.Library.KeyedLocks
import GdbAi.Library.Runs

/-!
# Concurrent retries

`dispatch_inner` and `release_idempotency_lock` of `gdb-ai-core/src/gateway.rs`, with
`get_idempotent_response` and `put_idempotent_response` of `persistence.rs`: what the calls that
carry a retry key do to the registry of mutexes, to the cache in memory and to the table of the
store.  A call is cut at its lock sections, its lookups, its writes and its releases, and any
number of calls take these steps in any order.  `written` and `bodies` are histories: the
responses that were cached, and the keys whose method body was started.
-/

namespace GdbAi

/-! ### The two caches -/

/-- A row of the table `idempotency`, under its key. -/
structure StoredResponse where
  requestHash : String
  response : ApiResponse
  updated : ℕ

/-- The error for a key that was used for another request. -/
def idempotencyConflict : ApiError where
  code := .conflict
  message := "idempotency key was already used with different parameters"

/-- `Store::get_idempotent_response`; `fault` is an error of the query. -/
def getIdempotentResponse (rows : Registry StoredResponse) (key requestHash : String)
    (fault : Option ApiError) : Except ApiError (Option ApiResponse) :=
  match fault with
  | some error => .error error
  | none =>
    match rows[key]? with
    | none => .ok none
    | some row =>
      if row.requestHash ≠ requestHash then .error idempotencyConflict else .ok (some row.response)

/-- Where `put_idempotent_response` fails: its two statements are not one transaction. -/
inductive PutFault where
  | insert (error : ApiError)
  | trim (error : ApiError)

/-- The keys of the 4096 rows that were updated last. -/
def recentKeys (rows : Registry StoredResponse) : List String :=
  ((rows.toList.mergeSort fun left right => right.2.updated ≤ left.2.updated).take 4096).map
    Prod.fst

/-- `Store::put_idempotent_response`. -/
def putIdempotentResponse (rows : Registry StoredResponse) (key : String) (row : StoredResponse)
    (fault : Option PutFault) : Registry StoredResponse × Option ApiError :=
  match fault with
  | some (.insert error) => (rows, some error)
  | some (.trim error) => (rows.insert key row, some error)
  | none =>
    let inserted := rows.insert key row
    (inserted.filter fun key _ => key ∈ recentKeys inserted, none)

/-- The cache in memory, with room for one more entry. -/
def makeRoom (cache : Registry (String × ApiResponse)) : Registry (String × ApiResponse) :=
  if 1024 ≤ cache.size then
    match cache.firstKey with
    | some key => cache.erase key
    | none => cache
  else cache

/-- A response that could not be stored says so. -/
def ApiResponse.notDurable (response : ApiResponse) (error : ApiError) : ApiResponse :=
  { response with
    warnings := response.warnings ++
      [⟨"IDEMPOTENCY_NOT_DURABLE", error.code.debug ++ ": " ++ error.message⟩] }

/-! ### The calls -/

/-- How far a call is.  `lock` is the mutex it refers to. -/
inductive Phase where
  | arrived
  | waiting (lock : ℕ)
  | holding (lock : ℕ)
  /-- The cache in memory has no entry. -/
  | missed (lock : ℕ)
  /-- Neither cache has an entry: the method body runs. -/
  | running (lock : ℕ)
  | executed (lock : ℕ) (response : ApiResponse)
  /-- The response went to the store and not yet to the cache in memory. -/
  | stored (lock : ℕ) (response : ApiResponse)
  | answered (lock : ℕ) (response : ApiResponse)
  | unlocked (lock : ℕ) (response : ApiResponse)
  /-- `release_idempotency_lock` is done; the call still has its own handle of the mutex. -/
  | released (lock : ℕ) (response : ApiResponse)
  | returned (response : ApiResponse)

/-- A call of `dispatch_inner` with a retry key. -/
structure Call where
  request : ApiRequest
  key : String
  fingerprint : String
  phase : Phase := .arrived
  /-- Whether the call started the method body. -/
  ran : Bool := false
  /-- The error of its query of the store. -/
  fault : Option ApiError := none

/-- What a call has of the mutex of its key. -/
def Call.ticket (call : Call) : Option KeyedLocks.Ticket :=
  match call.phase with
  | .arrived | .returned _ => none
  | .waiting lock => some ⟨call.key, lock, .waiting⟩
  | .holding lock | .missed lock | .running lock | .executed lock _ | .stored lock _
  | .answered lock _ => some ⟨call.key, lock, .holding⟩
  | .unlocked lock _ => some ⟨call.key, lock, .unlocked⟩
  | .released lock _ => some ⟨call.key, lock, .released⟩

/-- A response that was cached. -/
structure Cached where
  key : String
  requestHash : String
  response : ApiResponse

/-- The gateway, as far as retries are concerned. -/
structure Retries where
  locks : Registry ℕ
  nextLock : ℕ
  memory : Registry (String × ApiResponse)
  rows : Registry StoredResponse
  calls : List Call
  written : List Cached
  bodies : List String

/-- A gateway that starts with the rows of an earlier one. -/
def Retries.start (rows : Registry StoredResponse) : Retries where
  locks := ∅
  nextLock := 0
  memory := ∅
  rows := rows
  calls := []
  written := rows.toList.map fun entry => ⟨entry.1, entry.2.requestHash, entry.2.response⟩
  bodies := []

/-- One step of the gateway: a request arrives, or the call `i` goes on.  What the step learns
from outside stands in its label. -/
inductive RetryAction where
  | arrive (request : ApiRequest) (caller : Caller) (mode : RequestMode) (fingerprint : String)
  | enroll (i : ℕ)
  | acquire (i : ℕ)
  | lookMemory (i : ℕ) (state : Option SessionState) (evidence : List Evidence)
  | lookStore (i : ℕ) (fault : Option ApiError) (state : Option SessionState)
      (evidence : List Evidence)
  | finish (i : ℕ) (response : ApiResponse)
  | put (i now : ℕ) (fault : Option PutFault)
  | cache (i : ℕ)
  | unlock (i : ℕ)
  | release (i : ℕ)
  | leave (i : ℕ)

namespace Retries

/-- The tickets of all calls. -/
def tickets (s : Retries) : List (Option KeyedLocks.Ticket) := s.calls.map Call.ticket

/-- The call `i` moves on. -/
def move (s : Retries) (i : ℕ) (call : Call) (phase : Phase) : Retries :=
  { s with calls := s.calls.set i { call with phase := phase } }

/-- One step, if it can be taken. -/
def perform (s : Retries) : RetryAction → Option Retries
  | .arrive request caller mode fingerprint =>
    (retryKey request caller mode).map fun key =>
      { s with calls := s.calls ++ [{ request := request, key := key, fingerprint := fingerprint }] }
  | .enroll i =>
    s.calls[i]?.bind fun call =>
      match call.phase with
      | .arrived =>
        let entry := KeyedLocks.enroll s.locks s.nextLock call.key
        some ({ s with locks := entry.1, nextLock := s.nextLock + 1 }.move i call
          (.waiting entry.2))
      | _ => none
  | .acquire i =>
    s.calls[i]?.bind fun call =>
      match call.phase with
      | .waiting lock =>
        if s.tickets.any (KeyedLocks.holds lock) then none
        else some (s.move i call (.holding lock))
      | _ => none
  | .lookMemory i state evidence =>
    s.calls[i]?.bind fun call =>
      match call.phase with
      | .holding lock =>
        match s.memory[call.key]? with
        | some (requestHash, response) =>
          if requestHash = call.fingerprint then some (s.move i call (.answered lock response))
          else some (s.move i call
            (.answered lock (.failure call.request idempotencyConflict state evidence)))
        | none => some (s.move i call (.missed lock))
      | _ => none
  | .lookStore i fault state evidence =>
    s.calls[i]?.bind fun call =>
      match call.phase with
      | .missed lock =>
        match getIdempotentResponse s.rows call.key call.fingerprint fault with
        | .ok (some response) => some (s.move i call (.answered lock response))
        | .ok none =>
          some ({ s with bodies := s.bodies ++ [call.key] }.move i { call with ran := true }
            (.running lock))
        | .error error =>
          some (s.move i { call with fault := fault }
            (.answered lock (.failure call.request error state evidence)))
      | _ => none
  | .finish i response =>
    s.calls[i]?.bind fun call =>
      match call.phase with
      | .running lock => some (s.move i call (.executed lock response))
      | _ => none
  | .put i now fault =>
    s.calls[i]?.bind fun call =>
      match call.phase with
      | .executed lock response =>
        let outcome := putIdempotentResponse s.rows call.key ⟨call.fingerprint, response, now⟩ fault
        some ({ s with rows := outcome.1 }.move i call
          (.stored lock (outcome.2.elim response response.notDurable)))
      | _ => none
  | .cache i =>
    s.calls[i]?.bind fun call =>
      match call.phase with
      | .stored lock response =>
        let cached : Cached := ⟨call.key, call.fingerprint, response⟩
        some ({ s with
          memory := (makeRoom s.memory).insert call.key (call.fingerprint, response)
          written := s.written ++ [cached] }.move i call (.answered lock response))
      | _ => none
  | .unlock i =>
    s.calls[i]?.bind fun call =>
      match call.phase with
      | .answered lock response => some (s.move i call (.unlocked lock response))
      | _ => none
  | .release i =>
    s.calls[i]?.bind fun call =>
      match call.phase with
      | .unlocked lock response =>
        some ({ s with locks := KeyedLocks.release s.locks s.tickets call.key lock }.move i call
          (.released lock response))
      | _ => none
  | .leave i =>
    s.calls[i]?.bind fun call =>
      match call.phase with
      | .released _ response => some (s.move i call (.returned response))
      | _ => none

end Retries

end GdbAi
