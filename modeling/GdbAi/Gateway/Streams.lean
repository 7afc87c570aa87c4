import GdbAi.Library.Json
import GdbAi.Library.Registry
import GdbAi.Library.Runs

/-!
# Requests and responses of a stream

A connection reads one JSON message a line. A request that passes its checks is entered into
`pending` under its id, with a number drawn from a shared counter, and a task of its own computes
its response. Responses come back through a queue, and one that the loop takes from the queue is
written only when its request is still pending with the same number. A cancelled request is
removed, so that its id may be used again while its response is still on the way.

The functions that decide whether a request is admitted, and what it yields, are parameters: the
statements hold whatever they do. An aborted task may have gone too far to be stopped, so tasks go
on regardless of a cancellation. The counter does not wrap during the life of a connection.
-/

namespace GdbAi.Streams

def maxPendingRequests : Nat := 128

/-- The capacity of the queue of responses. -/
def queueCapacity : Nat := 128

/-! ### Messages -/

def requestKey (id : Json) : String :=
  .ofList id.render

def validRequestId : Json → Bool
  | .string text => text.utf8ByteSize ≤ 128
  | .unsigned value => value < 2 ^ 64
  | .negative magnitude => magnitude < 2 ^ 63
  | _ => false

def rpcResult (id result : Json) : Json :=
  .object [("jsonrpc", .string "2.0"), ("id", id), ("result", result)]

/-- The reply for a fault, of which `error` is the object. -/
def rpcFault (id error : Json) : Json :=
  .object [("jsonrpc", .string "2.0"), ("id", id), ("error", error)]

/-- The reply for an error with a negative code. -/
def rpcError (id : Json) (code : Nat) (message : String) : Json :=
  rpcFault id (.object [("code", .negative (code - 1)), ("message", .string message)])

def progressNotification (token : Json) (progress : Nat) (message : String) : Json :=
  .object [("jsonrpc", .string "2.0"), ("method", .string "notifications/progress"),
    ("params", .object [("progressToken", token), ("progress", .unsigned progress),
      ("total", .unsigned 1), ("message", .string message)])]

/-! ### The state of a connection -/

inductive Phase where
  | new | awaitingInitialized | ready
deriving DecidableEq, Repr

/-- What the stream asks other functions: a fault is the object of an error. -/
structure Service where
  initializeConnection : Json → Phase → Except Json Json × Phase
  statelessRequest : Json → Except Json Bool
  statelessCaller : Json → Except Json Unit
  requestCancellation : String → Json → Except Json Unit
  /-- The token of a request for a client that is sent progress. -/
  progressToken : Json → Except Json (Option Json)
  /-- `canonical_rpc_request` and the admission of its operation. -/
  admission : String → Json → Except Json Unit
  statelessResult : String → Json → Json

/-- An entry of `pending`. `request` says which of the requests entered so far it is. -/
structure StreamPending where
  generation : Nat
  stateless : Bool
  request : Nat

/-- What the task of a request that was entered keeps of it. -/
structure Request where
  id : Json
  method : String
  generation : Nat
  stateless : Bool
  progressToken : Option Json

/-- Where a response task stands: it waits for its operation, has yet to send its messages, or has
sent them all. -/
inductive Stage where
  | waiting
  | sending (progress : Option Json) (response : Json)
  | done

/-- A message in the queue. `task` says which task sent it. -/
structure Queued where
  reservation : Option (String × Nat)
  response : Json
  task : Nat

/-- Whose message is written: one of the loop itself, the notification of progress of a task, or
its response. -/
inductive Source where
  | loop
  | progress (task : Nat)
  | response (task : Nat)
  deriving DecidableEq

/-- A message that was written to the connection. -/
structure Written where
  source : Source
  message : Json

/-- The requests that were entered: those that are pending, the messages that were written, and the
requests that were cancelled. -/
structure Books where
  pending : Registry StreamPending := ∅
  requests : List Request := []
  output : List Written := []
  cancelled : List Nat := []

/-- `write_rpc`. -/
def Books.write (books : Books) (source : Source) (message : Json) : Books :=
  { books with output := books.output ++ [⟨source, message⟩] }

/-- The variables of the loop, its tasks and its queue. -/
structure Stream where
  phase : Phase := .new
  books : Books := {}
  inputOpen : Bool := true
  sequence : Nat := 1
  queue : List Queued := []
  stages : List Stage := []
  stopped : Bool := false

/-- The loop writes a message of its own. -/
def Stream.write (s : Stream) (message : Json) : Stream :=
  { s with books := s.books.write .loop message }

/-! ### Lines -/

/-- `notifications/cancelled`. -/
def Books.cancel (books : Books) (id : Json) : Books :=
  match books.pending[requestKey id]? with
  | some entry =>
    if entry.stateless then books
    else
      { books with
        pending := books.pending.erase (requestKey id)
        cancelled := entry.request :: books.cancelled }
  | none => books

def Stream.handleNotification (s : Stream) (method : String) (params : Json) : Stream :=
  if method = "notifications/initialized" ∧ s.phase = .awaitingInitialized then
    { s with phase := .ready }
  else if method = "notifications/cancelled" then
    match params.get "requestId" with
    | some id => { s with books := s.books.cancel id }
    | none => s
  else s

/-- The checks of a request before its number is drawn: the reply that refuses it, or whether it
is stateless. -/
def Stream.precheck (s : Stream) (service : Service) (id : Json) (method : String)
    (params : Json) : Except Json Bool := do
  let stateless ← (service.statelessRequest params).mapError (rpcFault id)
  if method = "server/discover" ∧ stateless = false then
    throw (rpcError id 32602 "server/discover requires 2026-07-28 request metadata")
  if stateless = false ∧ method ≠ "ping" ∧ s.phase ≠ .ready then
    throw (rpcError id 32002 "server is not initialized")
  (if stateless then (service.statelessCaller params).mapError (rpcFault id) else .ok ())
  let pending := s.books.pending
  if pending.contains (requestKey id) ∨ pending.size ≥ maxPendingRequests then
    throw (rpcError id 32600 "duplicate request id or too many pending requests")
  return stateless

def Books.enter (books : Books) (request : Request) : Books :=
  { books with
    pending := books.pending.insert (requestKey request.id)
      ⟨request.generation, request.stateless, books.requests.length⟩
    requests := books.requests ++ [request] }

/-- The request is entered, and its task starts. -/
def Stream.enter (s : Stream) (request : Request) : Stream :=
  { s with books := s.books.enter request, stages := s.stages ++ [.waiting] }

/-- A client that is sent progress learns that its request has started. -/
def Stream.announce (s : Stream) : Option Json → Stream
  | some token => s.write (progressNotification token 0 "request started")
  | none => s

def Stream.handleRequest (s : Stream) (service : Service) (id : Json) (method : String)
    (params : Json) : Stream :=
  if validRequestId id = false then
    s.write (rpcError .null 32600 "id must be a string or integer")
  else if method = "initialize" then
    let (result, phase) := service.initializeConnection params s.phase
    { s with phase := phase }.write
      (match result with
      | .ok result => rpcResult id result
      | .error error => rpcFault id error)
  else
    match s.precheck service id method params with
    | .error reply => s.write reply
    | .ok stateless =>
      let generation := s.sequence
      let s := { s with sequence := s.sequence + 1 }
      match service.requestCancellation method params, service.progressToken params with
      | .error error, _ => s.write (rpcFault id error)
      | .ok _, .error error => s.write (rpcFault id error)
      | .ok _, .ok progressToken =>
        let s := s.announce progressToken
        match service.admission method params with
        | .error error => s.write (rpcFault id error)
        | .ok _ => s.enter ⟨id, method, generation, stateless, progressToken⟩

/-- A line of the input: blank, not JSON, or a message. -/
inductive Line where
  | blank
  | malformed (error : String)
  | message (value : Json)

def Stream.handleLine (s : Stream) (service : Service) : Line → Stream
  | .blank => s
  | .malformed error => s.write (rpcError .null 32700 error)
  | .message value =>
    match value.asObject with
    | none => s.write (rpcError .null 32600 "request must be an object")
    | some object =>
      let id := Json.lookup object "id"
      if (Json.lookup object "jsonrpc").bind Json.asStr ≠ some "2.0" then
        s.write (rpcError (id.getD .null) 32600 "jsonrpc must be 2.0")
      else
        match (Json.lookup object "method").bind Json.asStr, id with
        | none, some id => s.write (rpcError id 32600 "method is required")
        | none, none => s
        | some method, none =>
          s.handleNotification method ((Json.lookup object "params").getD (.object []))
        | some method, some id =>
          s.handleRequest service id method ((Json.lookup object "params").getD (.object []))

/-! ### Tasks, and the loop -/

/-- How the operation of a request ends: with a result, with a fault, or with its own failure. -/
inductive Outcome where
  | result (value : Json)
  | fault (error : Json)
  | lost (message : String)

/-- The messages of a task: its notification of progress, if any, and its response. -/
def Request.respond (request : Request) (service : Service) : Outcome → Stage
  | .result value =>
    let completed := (value.get "isError").bind Json.asBool ≠ some true ∧ value.get "error" = none
    let progress :=
      if completed then request.progressToken.map (progressNotification · 1 "request completed")
      else none
    .sending progress (rpcResult request.id
      (if request.stateless then service.statelessResult request.method value else value))
  | .fault error => .sending none (rpcFault request.id error)
  | .lost message => .sending none (rpcError request.id 32603 message)

/-- `response_rx.recv()`: a response is written when its request is pending with its number. -/
def Stream.deliver (s : Stream) (message : Queued) : Stream :=
  match message.reservation with
  | none => { s with books := s.books.write (.progress message.task) message.response }
  | some (key, generation) =>
    match s.books.pending[key]? with
    | some entry =>
      if entry.generation = generation then
        { s with
          books := { s.books with pending := s.books.pending.erase key }.write
            (.response message.task) message.response }
      else s
    | none => s

/-- What may happen next: the loop reads a line or the end of its input, takes a message from the
queue or stops; a task learns how its operation ended or sends a message; another user of the
counter draws a number. -/
inductive Action where
  | line (line : Line)
  | endOfInput
  | receive
  | stop
  | complete (task : Nat) (outcome : Outcome)
  | send (task : Nat)
  | draw

/-- The effect of an action that can happen. -/
def Stream.act (service : Service) (s : Stream) : Action → Option Stream
  | .line line => if s.inputOpen then some (s.handleLine service line) else none
  | .endOfInput => if s.inputOpen then some { s with inputOpen := false } else none
  | .receive =>
    match s.queue with
    | message :: queue => some ({ s with queue := queue }.deliver message)
    | [] => none
  | .stop =>
    if s.inputOpen = false ∧ s.books.pending.isEmpty then some { s with stopped := true } else none
  | .complete task outcome =>
    match s.books.requests[task]?, s.stages[task]? with
    | some request, some .waiting =>
      some { s with stages := s.stages.set task (request.respond service outcome) }
    | _, _ => none
  | .send task =>
    if s.queue.length < queueCapacity then
      match s.books.requests[task]?, s.stages[task]? with
      | some _, some (.sending (some progress) response) =>
        some { s with
          queue := s.queue ++ [⟨none, progress, task⟩]
          stages := s.stages.set task (.sending none response) }
      | some request, some (.sending none response) =>
        some { s with
          queue := s.queue ++ [⟨some (requestKey request.id, request.generation), response, task⟩]
          stages := s.stages.set task .done }
      | _, _ => none
    else none
  | .draw => some { s with sequence := s.sequence + 1 }

/-- Actions happen until the loop has stopped. -/
def Stream.perform (service : Service) (s : Stream) (action : Action) : Option Stream :=
  if s.stopped = false then s.act service action else none

/-! ### Every request is pending, answered or cancelled -/

variable {service : Service} {actions : List Action} {s s' : Stream} {books books' : Books}
  {sequence : Nat}

/-- The message is the response that the task of a request computes from the outcome of its own
operation. -/
def Computed (service : Service) (actions : List Action) (requests : List Request) (task : Nat)
    (message : Json) : Prop :=
  ∃ request outcome progress, requests[task]? = some request ∧ .complete task outcome ∈ actions ∧
    request.respond service outcome = .sending progress message

/-- Whether the entry of a key is that of a request. -/
def held (pending : Registry StreamPending) (key : String) (index : Nat) : Nat :=
  if pending[key]?.map StreamPending.request = some index then 1 else 0

/-- The number of final responses that were written for a request. -/
def Books.answersTo (books : Books) (index : Nat) : Nat :=
  books.output.countP fun written => written.source = .response index

/-- The books are in order: what is pending belongs to a request, numbers are drawn in order, a
response that was written is the one that its task has computed, and every request is pending,
answered or cancelled, and only one of these. -/
structure Balanced (service : Service) (actions : List Action) (books : Books) (sequence : Nat) :
    Prop where
  bound : books.pending.size ≤ maxPendingRequests
  owned : ∀ (key : String) entry, books.pending[key]? = some entry →
    ∃ request, books.requests[entry.request]? = some request ∧ requestKey request.id = key ∧
      request.generation = entry.generation ∧ request.stateless = entry.stateless
  ordered : books.requests.Pairwise fun first second => first.generation < second.generation
  drawn : ∀ request ∈ books.requests, request.generation < sequence
  answered : ∀ written ∈ books.output, ∀ task, written.source = .response task →
    Computed service actions books.requests task written.message
  withdrawn : ∀ index ∈ books.cancelled,
    ∃ request, books.requests[index]? = some request ∧ request.stateless = false
  once : ∀ index request, books.requests[index]? = some request →
    books.answersTo index + books.cancelled.count index +
      held books.pending (requestKey request.id) index = 1

lemma getElem?_grown {requests more : List Request} {index : Nat} {request : Request}
    (h : requests[index]? = some request) : (requests ++ more)[index]? = some request := by
  rw [List.getElem?_append_left (List.getElem?_eq_some_iff.mp h).1, h]

lemma Computed.grown {requests more : List Request} {task : Nat} {message : Json}
    (h : Computed service actions requests task message) :
    Computed service actions (requests ++ more) task message := by
  obtain ⟨request, outcome, progress, hrequest, hrest⟩ := h
  exact ⟨request, outcome, progress, getElem?_grown hrequest, hrest⟩

/-- A response carries the id of its request. -/
lemma Computed.id_eq {requests : List Request} {task : Nat} {message : Json}
    (h : Computed service actions requests task message) :
    ∃ request, requests[task]? = some request ∧ message.get "id" = some request.id := by
  obtain ⟨request, outcome, progress, hrequest, -, hrespond⟩ := h
  refine ⟨request, hrequest, ?_⟩
  cases outcome <;> cases hrespond <;> rfl

/-- What is no response answers no request. -/
lemma Balanced.write (h : Balanced service actions books sequence) {source : Source}
    (hsource : ∀ task, source ≠ .response task) (message : Json) :
    Balanced service actions (books.write source message) sequence :=
  { h with
    answered := List.forall_mem_append.mpr
      ⟨h.answered, List.forall_mem_singleton.mpr fun task htask => absurd htask (hsource task)⟩
    once := fun index request hrequest => by
      simpa [Books.answersTo, Books.write, hsource index] using h.once index request hrequest }

/-- Two requests with one number are one request. -/
lemma Balanced.same (h : Balanced service actions books sequence) {first second : Nat}
    {request request' : Request} (hfirst : books.requests[first]? = some request)
    (hsecond : books.requests[second]? = some request')
    (hnumber : request.generation = request'.generation) : first = second := by
  obtain ⟨hlt, rfl⟩ := List.getElem?_eq_some_iff.mp hfirst
  obtain ⟨hlt', rfl⟩ := List.getElem?_eq_some_iff.mp hsecond
  have hordered := List.pairwise_iff_getElem.mp h.ordered
  rcases Nat.lt_trichotomy first second with hless | heq | hmore
  · exact absurd hnumber (hordered first second hlt hlt' hless).ne
  · exact heq
  · exact absurd hnumber (hordered second first hlt' hlt hmore).ne'

/-- Removing an entry changes what is held of its own request alone. -/
lemma Balanced.held_erase (h : Balanced service actions books sequence) {key : String}
    {entry : StreamPending} (hentry : books.pending[key]? = some entry) {index : Nat} {request : Request}
    (hrequest : books.requests[index]? = some request) :
    held books.pending (requestKey request.id) index =
      held (books.pending.erase key) (requestKey request.id) index +
        if entry.request = index then 1 else 0 := by
  unfold held
  rw [Registry.getElem?_erase]
  by_cases hkey : key = requestKey request.id
  · rw [if_pos hkey, ← hkey, hentry]
    simp
  · have hother : entry.request ≠ index := by
      rintro rfl
      obtain ⟨owner, howner, hname, -⟩ := h.owned key entry hentry
      rw [hrequest] at howner
      cases howner
      exact hkey hname.symm
    rw [if_neg hkey, if_neg hother, Nat.add_zero]

/-- An entry that is removed becomes one answer or one cancellation of its request. -/
lemma Balanced.remove (h : Balanced service actions books sequence) {key : String}
    {entry : StreamPending} (hentry : books.pending[key]? = some entry) {output : List Written}
    {cancelled : List Nat}
    (hanswered : ∀ written ∈ output, ∀ task, written.source = .response task →
      Computed service actions books.requests task written.message)
    (hwithdrawn : ∀ index ∈ cancelled,
      ∃ request, books.requests[index]? = some request ∧ request.stateless = false)
    (hone : ∀ index,
      (output.countP fun written => written.source = .response index) + cancelled.count index =
        books.answersTo index + books.cancelled.count index +
          if entry.request = index then 1 else 0) :
    Balanced service actions ⟨books.pending.erase key, books.requests, output, cancelled⟩
      sequence where
  bound := Std.ExtTreeMap.size_erase_le.trans h.bound
  owned other left hleft := by
    rw [Registry.getElem?_erase] at hleft
    split at hleft
    · cases hleft
    · exact h.owned other left hleft
  ordered := h.ordered
  drawn := h.drawn
  answered := hanswered
  withdrawn := hwithdrawn
  once index request hrequest := by
    have honce := h.once index request hrequest
    have hheld := h.held_erase hentry hrequest
    have htotal := hone index
    simp only [Books.answersTo] at honce htotal ⊢
    omega

/-- A request that is entered is pending. -/
lemma Balanced.enter (h : Balanced service actions books sequence) {request : Request}
    (hnew : books.pending[requestKey request.id]? = none)
    (hroom : books.pending.size < maxPendingRequests) (hnumber : request.generation = sequence) :
    Balanced service actions (books.enter request) (sequence + 1) where
  bound := by
    have hsize := Std.ExtTreeMap.size_insert_le (t := books.pending) (k := requestKey request.id)
      (v := ⟨request.generation, request.stateless, books.requests.length⟩)
    exact hsize.trans hroom
  owned key entry hentry := by
    rw [Books.enter, Registry.getElem?_insert] at hentry
    split at hentry
    · rename_i hkey
      cases hentry
      exact ⟨request, List.getElem?_concat_length, hkey, rfl, rfl⟩
    · obtain ⟨owner, howner, hsame⟩ := h.owned key entry hentry
      exact ⟨owner, getElem?_grown howner, hsame⟩
  ordered := by
    refine List.pairwise_append.mpr ⟨h.ordered, List.pairwise_singleton _ _, ?_⟩
    intro earlier hearlier last hlast
    obtain rfl := List.mem_singleton.mp hlast
    exact (h.drawn earlier hearlier).trans_eq hnumber.symm
  drawn other hother := by
    obtain hold | hlast := List.mem_append.mp hother
    · exact (h.drawn other hold).trans (Nat.lt_succ_self _)
    · obtain rfl := List.mem_singleton.mp hlast
      exact Nat.lt_succ_of_le hnumber.le
  answered written hwritten task htask := (h.answered written hwritten task htask).grown
  withdrawn index hindex := by
    obtain ⟨owner, howner, hstateless⟩ := h.withdrawn index hindex
    exact ⟨owner, getElem?_grown howner, hstateless⟩
  once index owner howner := by
    change books.answersTo index + books.cancelled.count index + held _ _ index = 1
    unfold held
    rw [Books.enter, Registry.getElem?_insert]
    change (books.requests ++ [request])[index]? = _ at howner
    rw [List.getElem?_append] at howner
    split at howner
    · rename_i hlt
      have honce := h.once index owner howner
      unfold held at honce
      split
      · rename_i hkey
        rw [← hkey, hnew] at honce
        rw [Option.map_some, if_neg fun hsame => hlt.ne' (Option.some.inj hsame)]
        exact honce
      · exact honce
    · obtain ⟨hlt, rfl⟩ := List.getElem?_eq_some_iff.mp howner
      obtain rfl : index = books.requests.length := by
        rw [List.length_singleton] at hlt
        omega
      have hanswers : books.answersTo books.requests.length = 0 := by
        refine List.countP_eq_zero.mpr fun written hwritten htask => ?_
        obtain ⟨request, _, _, hrequest, -⟩ :=
          h.answered written hwritten _ (of_decide_eq_true htask)
        exact (List.getElem?_eq_some_iff.mp hrequest).1.ne rfl
      have hcancelled : books.cancelled.count books.requests.length = 0 := by
        refine List.count_eq_zero.mpr fun hmem => ?_
        obtain ⟨request, hrequest, -⟩ := h.withdrawn _ hmem
        exact (List.getElem?_eq_some_iff.mp hrequest).1.ne rfl
      rw [hanswers, hcancelled, List.getElem_singleton, if_pos rfl, Option.map_some, if_pos rfl]

lemma Balanced.cancel (h : Balanced service actions books sequence) (id : Json) :
    Balanced service actions (books.cancel id) sequence := by
  unfold Books.cancel
  split
  · rename_i entry hentry
    split
    · exact h
    · rename_i hstateless
      obtain ⟨owner, howner, -, -, hsame⟩ := h.owned _ entry hentry
      rw [Bool.not_eq_true] at hstateless
      refine h.remove hentry h.answered (List.forall_mem_cons.mpr
        ⟨⟨owner, howner, hsame.trans hstateless⟩, h.withdrawn⟩) fun index => ?_
      rw [List.count_cons, ← Nat.add_assoc]
      simp only [beq_iff_eq]
      rfl
  · exact h

/-! ### Steps and runs -/

/-- A response in the queue was computed by the task that has sent it, and names its number. -/
def Queued.Due (service : Service) (actions : List Action) (requests : List Request)
    (message : Queued) : Prop :=
  ∀ key generation, message.reservation = some (key, generation) →
    Computed service actions requests message.task message.response ∧
      ∃ request, requests[message.task]? = some request ∧ request.generation = generation

/-- The books are in order, responses on their way were computed by their own tasks, and the loop
has stopped only with its input ended and nothing pending. -/
structure Sound (service : Service) (actions : List Action) (s : Stream) : Prop where
  balanced : Balanced service actions s.books s.sequence
  lengths : s.stages.length = s.books.requests.length
  staged : ∀ task progress response, s.stages[task]? = some (.sending progress response) →
    Computed service actions s.books.requests task response
  queued : ∀ message ∈ s.queue, message.Due service actions s.books.requests
  ended : s.stopped = true → s.inputOpen = false ∧ s.books.pending.isEmpty = true

/-- Where a request is entered its key is free and there is room for it. -/
lemma precheck_ok {id : Json} {method : String} {params : Json} {stateless : Bool}
    (h : s.precheck service id method params = .ok stateless) :
    s.books.pending[requestKey id]? = none ∧ s.books.pending.size < maxPendingRequests := by
  obtain ⟨flag, -, h⟩ := except_bind_ok h
  dsimp only at h
  split at h
  · cases h
  split at h
  · cases h
  obtain ⟨-, -, h⟩ := except_bind_ok h
  split at h
  · cases h
  · rename_i hfree
    obtain ⟨hnew, hroom⟩ := not_or.mp hfree
    exact ⟨Registry.contains_eq_false.mp (Bool.not_eq_true _ ▸ hnew), Nat.not_le.mp hroom⟩

/-- A loop that runs has not ended. -/
lemma not_ended {P : Prop} (hrunning : s.stopped = false) (hstop : s.stopped = true) : P :=
  absurd (hrunning ▸ hstop) Bool.false_ne_true

section Sound

variable (h : Sound service actions s)
include h

/-- The loop may write what it likes. -/
lemma Sound.write (message : Json) : Sound service actions (s.write message) :=
  ⟨h.balanced.write (by simp) message, h.lengths, h.staged, h.queued, h.ended⟩

/-- A message about the progress is written, if it is asked for. -/
lemma Sound.announce (progressToken : Option Json) :
    Sound service actions (s.announce progressToken) := by
  cases progressToken with
  | none => exact h
  | some token => exact h.write _

/-- Another number may be drawn at any time. -/
lemma Sound.draw : Sound service actions { s with sequence := s.sequence + 1 } :=
  ⟨{ h.balanced with
      drawn := fun request hrequest => (h.balanced.drawn request hrequest).trans (Nat.lt_succ_self _) },
    h.lengths, h.staged, h.queued, h.ended⟩

section Running

variable (hrunning : s.stopped = false)
include hrunning

/-- A request is entered with the number that was drawn for it. -/
lemma Sound.enter {request : Request}
    (hnew : s.books.pending[requestKey request.id]? = none)
    (hroom : s.books.pending.size < maxPendingRequests)
    (hnumber : request.generation = s.sequence) :
    Sound service actions ({ s with sequence := s.sequence + 1 }.enter request) where
  balanced := h.balanced.enter hnew hroom hnumber
  lengths := by
    simp only [Stream.enter, Books.enter, List.length_append, h.lengths, List.length_singleton]
  staged index progress response hstage := by
    change (s.stages ++ [.waiting])[index]? = _ at hstage
    rw [List.getElem?_append] at hstage
    split at hstage
    · exact (h.staged index progress response hstage).grown
    · obtain ⟨hlt, hlast⟩ := List.getElem?_eq_some_iff.mp hstage
      rw [List.getElem_singleton] at hlast
      cases hlast
  queued message hmessage key generation hreservation := by
    obtain ⟨hcomputed, owner, howner, hsame⟩ :=
      h.queued message hmessage key generation hreservation
    exact ⟨hcomputed.grown, owner, getElem?_grown howner, hsame⟩
  ended := not_ended hrunning

/-- A request that is entered has a free key and there is room for it. -/
lemma Sound.handleRequest (id : Json) (method : String) (params : Json) :
    Sound service actions (s.handleRequest service id method params) := by
  unfold Stream.handleRequest
  split
  · exact h.write _
  split
  · have hphase (phase : Phase) : Sound service actions { s with phase := phase } :=
      ⟨h.balanced, h.lengths, h.staged, h.queued, h.ended⟩
    exact (hphase _).write _
  split
  · exact h.write _
  rename_i stateless hprecheck
  obtain ⟨hnew, hroom⟩ := precheck_ok hprecheck
  split
  · exact h.draw.write _
  · exact h.draw.write _
  rename_i progressToken _ _
  split
  · exact (h.draw.announce progressToken).write _
  · cases progressToken with
    | none =>
      change Sound service actions ({ s with sequence := s.sequence + 1 }.enter _)
      exact h.enter hrunning hnew hroom rfl
    | some token =>
      change Sound service actions ({ s.write _ with sequence := s.sequence + 1 }.enter _)
      exact Sound.enter (s := s.write _) (h.write _) hrunning hnew hroom rfl

/-- A notification may cancel a request. -/
lemma Sound.handleNotification (method : String) (params : Json) :
    Sound service actions (s.handleNotification method params) := by
  unfold Stream.handleNotification
  split
  · exact ⟨h.balanced, h.lengths, h.staged, h.queued, h.ended⟩
  split
  · split
    · rename_i id _
      have hrequests : (s.books.cancel id).requests = s.books.requests := by
        unfold Books.cancel
        split <;> [split; skip] <;> rfl
      refine ⟨h.balanced.cancel id, ?_, ?_, ?_, not_ended hrunning⟩
      · exact h.lengths.trans (congrArg _ hrequests.symm)
      · exact hrequests ▸ h.staged
      · exact hrequests ▸ h.queued
    · exact h
  · exact h

/-- A line is handled by the loop alone. -/
lemma Sound.handleLine (line : Line) : Sound service actions (s.handleLine service line) := by
  cases line with
  | blank => exact h
  | malformed error => exact h.write _
  | message value =>
    unfold Stream.handleLine
    dsimp only
    split
    · exact h.write _
    split
    · exact h.write _
    split
    · exact h.write _
    · exact h
    · exact h.handleNotification hrunning _ _
    · exact h.handleRequest hrunning _ _ _

/-- A response that is written was computed by the task of the request that is removed. -/
lemma Sound.deliver {message : Queued}
    (hmessage : message.Due service actions s.books.requests) :
    Sound service actions (s.deliver message) := by
  unfold Stream.deliver
  split
  · exact ⟨h.balanced.write (by simp) _, h.lengths, h.staged, h.queued, h.ended⟩
  rename_i key generation hreservation
  obtain ⟨hcomputed, sender, hsender, hnumber⟩ := hmessage key generation hreservation
  split
  · rename_i entry hentry
    split
    · rename_i hgeneration
      obtain ⟨owner, howner, -, hown, -⟩ := h.balanced.owned key entry hentry
      have hsame : entry.request = message.task :=
        h.balanced.same howner hsender (by rw [hown, hgeneration, hnumber])
      have hanswered : ∀ written ∈ s.books.output ++ [⟨.response message.task, message.response⟩],
          ∀ task, written.source = .response task →
            Computed service actions s.books.requests task written.message := by
        refine List.forall_mem_append.mpr ⟨h.balanced.answered, List.forall_mem_singleton.mpr ?_⟩
        rintro _ ⟨⟩
        exact hcomputed
      refine ⟨h.balanced.remove hentry hanswered h.balanced.withdrawn fun index => ?_, h.lengths,
        h.staged, h.queued, not_ended hrunning⟩
      rw [List.countP_append, List.countP_singleton, hsame]
      simp only [decide_eq_true_eq, Source.response.injEq]
      exact Nat.add_right_comm _ _ _
    · exact h
  · exact h

end Running

/-- A task goes on to another stage, and may send a message. -/
lemma Sound.advance {task : Nat} {stage : Stage} {messages : List Queued}
    (hstage : ∀ progress response, stage = .sending progress response →
      Computed service actions s.books.requests task response)
    (hmessages : ∀ message ∈ messages, message.Due service actions s.books.requests) :
    Sound service actions
      { s with queue := s.queue ++ messages, stages := s.stages.set task stage } where
  balanced := h.balanced
  lengths := (List.length_set ..).trans h.lengths
  staged index progress response hset := by
    rw [List.getElem?_set] at hset
    split at hset
    · rename_i heq
      subst heq
      split at hset
      · exact hstage progress response (Option.some.inj hset)
      · cases hset
    · exact h.staged index progress response hset
  queued := List.forall_mem_append.mpr ⟨h.queued, hmessages⟩
  ended := h.ended

/-- Every action of the run keeps the books in order. -/
lemma Sound.perform {action : Action} (hmem : action ∈ actions)
    (hperform : s.perform service action = some s') : Sound service actions s' := by
  obtain ⟨hrunning, hact⟩ := Option.ite_none_right_eq_some.mp hperform
  cases action with
  | line line =>
    obtain ⟨-, ⟨⟩⟩ := Option.ite_none_right_eq_some.mp hact
    exact h.handleLine hrunning line
  | endOfInput =>
    obtain ⟨-, ⟨⟩⟩ := Option.ite_none_right_eq_some.mp hact
    exact ⟨h.balanced, h.lengths, h.staged, h.queued, not_ended hrunning⟩
  | receive =>
    unfold Stream.act at hact
    dsimp only at hact
    split at hact
    · rename_i message queue hqueue
      cases hact
      obtain ⟨hmessage, hqueued⟩ := List.forall_mem_cons.mp (hqueue ▸ h.queued)
      have hrest : Sound service actions { s with queue := queue } :=
        ⟨h.balanced, h.lengths, h.staged, hqueued, h.ended⟩
      exact hrest.deliver (s := { s with queue := queue }) hrunning hmessage
    · cases hact
  | stop =>
    obtain ⟨hend, ⟨⟩⟩ := Option.ite_none_right_eq_some.mp hact
    exact ⟨h.balanced, h.lengths, h.staged, h.queued, fun _ => hend⟩
  | complete task outcome =>
    unfold Stream.act at hact
    dsimp only at hact
    split at hact
    · rename_i request hrequest _
      cases hact
      have hstage : ∀ progress response,
          request.respond service outcome = .sending progress response →
            Computed service actions s.books.requests task response :=
        fun progress _ hresponse => ⟨request, outcome, progress, hrequest, hmem, hresponse⟩
      have hsound := h.advance hstage (List.forall_mem_nil _)
      rwa [List.append_nil] at hsound
    · cases hact
  | send task =>
    obtain ⟨-, hact⟩ := Option.ite_none_right_eq_some.mp hact
    split at hact
    · rename_i request progress response hrequest hstage
      cases hact
      refine h.advance (fun _ _ hsending => ?_) (List.forall_mem_singleton.mpr fun _ _ hnone => ?_)
      · cases hsending
        exact h.staged task _ _ hstage
      · cases hnone
    · rename_i request response hrequest hstage
      cases hact
      refine h.advance (fun _ _ hsending => ?_) (List.forall_mem_singleton.mpr ?_)
      · cases hsending
      · rintro _ _ ⟨⟩
        exact ⟨h.staged task _ _ hstage, request, hrequest, rfl⟩
    · cases hact
  | draw =>
    cases hact
    exact h.draw

end Sound

lemma sound_initial : Sound service actions {} where
  balanced := ⟨Nat.zero_le _, fun _ _ hentry => by simp at hentry, .nil, List.forall_mem_nil _,
    List.forall_mem_nil _, List.forall_mem_nil _, fun _ _ hrequest => nomatch hrequest⟩
  lengths := rfl
  staged _ _ _ hstage := nomatch hstage
  queued := List.forall_mem_nil _
  ended hstop := nomatch hstop

/-- In every run of a connection at most one final response is written for a request that was
entered: the one that its own task has computed from the outcome of its operation, with its own id.
None is written for a request that was cancelled; at most 128 requests are pending; and the loop
stops only when its input has ended and every request was answered or cancelled. -/
theorem stream_responses_match {actions : List Action}
    (h : actions.foldlM (Stream.perform service) {} = some s) :
    (∀ index < s.books.requests.length, s.books.answersTo index ≤ 1) ∧
    (∀ written ∈ s.books.output, ∀ task, written.source = .response task →
      Computed service actions s.books.requests task written.message ∧
        ∃ request, s.books.requests[task]? = some request ∧
          written.message.get "id" = some request.id) ∧
    (∀ index ∈ s.books.cancelled, s.books.answersTo index = 0 ∧
      ∃ request, s.books.requests[index]? = some request ∧ request.stateless = false) ∧
    s.books.pending.size ≤ maxPendingRequests ∧
    (s.stopped = true → s.inputOpen = false ∧
      ∀ index < s.books.requests.length,
        0 < s.books.answersTo index ∨ index ∈ s.books.cancelled) := by
  have hsound : Sound service actions s := (Runs.Run.of_foldlM h).invariant_of_mem sound_initial
    fun _ _ hmem _ hs hstep => hs.perform hmem hstep
  have hbooks := hsound.balanced
  refine ⟨fun index hindex => ?_, fun written hwritten task htask => ?_, fun index hindex => ?_,
    hbooks.bound, fun hstop => ?_⟩
  · have honce := hbooks.once index _ (List.getElem?_eq_getElem hindex)
    omega
  · have hcomputed := hbooks.answered written hwritten task htask
    exact ⟨hcomputed, hcomputed.id_eq⟩
  · obtain ⟨request, hrequest, hstateless⟩ := hbooks.withdrawn index hindex
    have honce := hbooks.once index request hrequest
    have hcount := List.count_pos_iff.mpr hindex
    exact ⟨by omega, request, hrequest, hstateless⟩
  · obtain ⟨hinput, hempty⟩ := hsound.ended hstop
    refine ⟨hinput, fun index hindex => ?_⟩
    have honce := hbooks.once index _ (List.getElem?_eq_getElem hindex)
    rw [held, Std.ExtTreeMap.isEmpty_iff.mp hempty, Std.ExtTreeMap.getElem?_empty] at honce
    rw [← List.count_pos_iff]
    simp only [Option.map_none, reduceCtorEq, if_false] at honce
    omega

/-- A service that admits everything. -/
def lenient : Service where
  initializeConnection _ phase := (.ok .null, phase)
  statelessRequest _ := .ok false
  statelessCaller _ := .ok ()
  requestCancellation _ _ := .ok ()
  progressToken _ := .ok none
  admission _ _ := .ok ()
  statelessResult _ result := result

def message (fields : List (String × Json)) : Action :=
  .line (.message (.object (("jsonrpc", .string "2.0") :: fields)))

/-- The id of a cancelled request is used again before its late response arrives. -/
def reuse : List Action :=
  [message [("id", .unsigned 1), ("method", .string "ping")],
    message [("method", .string "notifications/cancelled"),
      ("params", .object [("requestId", .unsigned 1)])],
    message [("id", .unsigned 1), ("method", .string "ping")],
    .complete 0 (.result .null), .send 0, .receive, .complete 1 (.result .null), .send 1, .receive,
    .endOfInput, .stop]

theorem reused_id_answered :
    ∃ s, reuse.foldlM (Stream.perform lenient) {} = some s ∧ s.books.cancelled = [0] ∧
      s.books.answersTo 0 = 0 ∧ 0 < s.books.answersTo 1 := by
  have hrun : ((reuse.foldlM (Stream.perform lenient) {}).map fun s =>
      (s.books.cancelled, s.books.requests.length, s.stopped)) = some ([0], 2, true) := by
    decide +kernel
  obtain ⟨s, hs, hshape⟩ := Option.map_eq_some_iff.mp hrun
  obtain ⟨hcancelled, hrest⟩ := Prod.mk.inj hshape
  obtain ⟨hlength, hstopped⟩ := Prod.mk.inj hrest
  obtain ⟨-, -, hnone, -, hend⟩ := stream_responses_match hs
  refine ⟨s, hs, hcancelled, (hnone 0 (hcancelled ▸ List.mem_singleton_self 0)).1, ?_⟩
  refine ((hend hstopped).2 1 (by omega)).resolve_right fun hmem => ?_
  rw [hcancelled] at hmem
  exact absurd hmem (by decide)

end GdbAi.Streams
