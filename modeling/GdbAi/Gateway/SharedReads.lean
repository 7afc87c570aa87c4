import GdbAi.Gateway.Protocol
import GdbAi.Library.JsonText
import GdbAi.Library.Tables
import GdbAi.Output.Ring
import GdbAi.Reducer.Revision

/-!
# Shared reads

`execute_shared_read` of `gdb-ai-core/src/gateway.rs`, with the guards and the generation of
`dispatch_checked`: the reads of one session that share their results, the mutations that hold
the target guard, those that do not, and the events of the reducer, in any order.  The mutex of
the cache is held by one read at a time, so what that read has sampled stands beside the mutex.

The histories count.  `moments` has the stop after each event that changed the revision, so its
length numbers these events; `mutations` counts the admissions, of which `mutation_generation`
is the remainder; and `hits` has every result that was returned from the cache.
-/

namespace GdbAi

/-! ### Which reads are shared -/

/-- `direct_register_context`. -/
def directRegisterContext (parameters : Json) : Bool :=
  (((parameters.get "frame_level").bind Json.asUnsigned).all fun level => level = 0) &&
    ((parameters.get "frame_id").bind Json.asStr).all fun frame =>
      ['_', '0'].isSuffixOf frame.toList

/-- `shareable_view`. -/
def shareableView (parameters : Json) : Bool :=
  match (parameters.get "view").bind Json.asStr with
  | some view =>
    view ∈ ["capabilities", "providers", "mappings", "signals"] ||
      (view = "registers" && directRegisterContext parameters)
  | none => false

/-- `shareable_read`. -/
def shareableRead (request : ApiRequest) : Bool :=
  match request.method with
  | .registerRead => directRegisterContext request.parameters
  | .inspectionGet => shareableView request.parameters
  | .inspectionBatch =>
    directRegisterContext request.parameters &&
      match (request.parameters.get "requests").bind Json.asArray with
      | some items => !items.isEmpty && items.all shareableView
      | none => false
  | _ => false

/-- The key of a result. -/
def sharedKey (request : ApiRequest) : String :=
  request.method.asStr ++ ":" ++ String.ofList request.parameters.render

/-! ### The cache and the read that has it -/

/-- What a capture has read so far: the number of events and of admissions before its last read,
and the events since that are its own commits. -/
structure Capture where
  moment : ℕ
  own : ℕ
  mutations : ℕ
  deriving DecidableEq, Repr

/-- A result in the cache.  The request, the stop and the reads it was captured with are history. -/
structure SharedResult where
  key : String
  facts : Json
  bytes : ℕ
  request : ApiRequest
  stopId : Option StopId
  capture : Capture

/-- `SharedReads`. -/
structure SharedReads where
  fence : Option (ℕ × ℕ) := none
  results : Table SharedResult.key := .empty
  bytes : ℕ := 0

/-- What a read samples of the state; `moment` is the number of events at that time. -/
structure StateSample where
  revision : ℕ
  stopId : Option StopId
  executionEpoch : ℕ
  moment : ℕ
  deriving DecidableEq

/-- The generation a read has loaded; `mutations` is the number of admissions at that time. -/
structure GenerationLoad where
  generation : ℕ
  mutations : ℕ
  deriving DecidableEq

/-- How far the read is that has the mutex. -/
inductive SharedPhase where
  | locked
  | sampled (sample : StateSample)
  | loaded (sample : StateSample) (load : GenerationLoad)
  /-- The cache has no result: `execute_method` runs. -/
  | capturing (sample : StateSample) (load : GenerationLoad) (capture : Capture)
  /-- The revision was sampled again. -/
  | closed (sample : StateSample) (load : GenerationLoad) (capture : Capture) (revision : ℕ)

/-- A read that has its target guard; `exclusive` if it had to refresh the registries. -/
structure SharedReader where
  request : ApiRequest
  exclusive : Bool

/-- The read that has the mutex. -/
structure Holder where
  reader : SharedReader
  phase : SharedPhase

/-- The lock `target_state`. -/
inductive TargetGuard where
  | shared (readers : ℕ)
  | refreshing
  | mutating (admitted : Bool)
  deriving DecidableEq, Repr

/-- A result that was returned from the cache, with what the read had sampled, and the stop and
the numbers of events and of admissions at the lookup. -/
structure Hit where
  request : ApiRequest
  sample : StateSample
  load : GenerationLoad
  result : SharedResult
  stopId : Option StopId
  moment : ℕ
  mutations : ℕ

/-- `SessionEntry`, as far as shared reads are concerned. -/
structure Sharing where
  session : SessionState
  generation : ℕ
  guard : TargetGuard
  waiting : List SharedReader
  shared : SharedReads
  holder : Option Holder
  moments : List (Option StopId)
  mutations : ℕ
  hits : List Hit

/-- An entry in the state `session`, with an empty cache. -/
def Sharing.start (session : SessionState) : Sharing where
  session := session
  generation := 0
  guard := .shared 0
  waiting := []
  shared := {}
  holder := none
  moments := [session.stopId]
  mutations := 0
  hits := []

/-- One step.  What it learns from outside stands in its label. -/
inductive SharingAct where
  | event (sequence : ℕ) (event : DomainEvent)
  /-- A mutation takes the target guard. -/
  | beginMutation
  | admitMutation
  | endMutation
  /-- A mutation without the target guard. -/
  | admitOutOfBand
  /-- A read has its guard and qualifies. -/
  | arrive (request : ApiRequest) (exclusive : Bool)
  /-- The read `i` of those that wait gives up. -/
  | leave (i : ℕ)
  | lock (i : ℕ)
  /-- The read that has the mutex returns an error. -/
  | fail
  | sample
  | load
  | look
  /-- A target or state read of `execute_method`. -/
  | read
  /-- The commit of the observation. -/
  | commit (sequence : ℕ) (event : DomainEvent)
  | close
  /-- `execute_method` has returned `facts`; `complete` are its semantics. -/
  | finish (facts : Json) (complete : Bool)

/-- A read returns its guard. -/
def TargetGuard.release : TargetGuard → TargetGuard
  | .shared readers => .shared (readers - 1)
  | .refreshing => .shared 0
  | .mutating admitted => .mutating admitted

/-- The facts are not to be reused. -/
def incompleteFacts (facts : Json) (complete : Bool) : Bool :=
  (facts.get "partial").bind Json.asBool = some true ||
    (facts.get "complete").bind Json.asBool = some false || !complete

namespace SharedReads

/-- The end of `execute_shared_read`: a result that fits is stored, in an empty cache if the fence
moved or there is no room. -/
def store (shared : SharedReads) (maximum : ℕ) (fence : ℕ × ℕ) (result : SharedResult) :
    SharedReads :=
  if maximum < result.bytes then shared
  else
    let kept :=
      if shared.fence ≠ some fence ∨ 16 ≤ shared.results.rows.length ∨
          maximum < saturatingAdd shared.bytes result.bytes then {}
      else shared
    { fence := some fence
      bytes := kept.bytes + result.bytes
      results := kept.results.upsert result (fun old => { result with key := old.key })
        fun _ => rfl }

end SharedReads

namespace Sharing

/-- An event was applied. -/
def advance (s : Sharing) (session : SessionState) (changed : Bool) : Sharing :=
  { s with
    session := session
    moments := if changed then s.moments ++ [session.stopId] else s.moments }

/-- A mutation is admitted. -/
def countMutation (s : Sharing) : Sharing :=
  { s with generation := fetchAdd s.generation 1, mutations := s.mutations + 1 }

/-- The read that has the mutex goes on. -/
def proceed (s : Sharing) (holder : Holder) (phase : SharedPhase) : Sharing :=
  { s with holder := some { holder with phase := phase } }

/-- The read that has the mutex returns. -/
def release (s : Sharing) : Sharing := { s with holder := none, guard := s.guard.release }

/-- The result of a capture. -/
def result (request : ApiRequest) (sample : StateSample) (capture : Capture) (facts : Json) :
    SharedResult where
  key := sharedKey request
  facts := facts
  bytes := saturatingAdd facts.size (sharedKey request).utf8ByteSize
  request := request
  stopId := sample.stopId
  capture := capture

/-- One step, if it can be taken. -/
def perform (maximum : ℕ) (s : Sharing) (act : SharingAct) : Option Sharing :=
  match act with
  | .event sequence event =>
    match s.session.applyEvent sequence event with
    | .ok (session, changed) => some (s.advance session changed)
    | .error _ => none
  | .beginMutation => if s.guard = .shared 0 then some { s with guard := .mutating false } else none
  | .admitMutation =>
    if s.guard = .mutating false then some { s.countMutation with guard := .mutating true } else none
  | .endMutation =>
    match s.guard with
    | .mutating _ => some { s with guard := .shared 0 }
    | _ => none
  | .admitOutOfBand => some s.countMutation
  | .arrive request exclusive =>
    if shareableRead request && s.session.stopId.isSome then
      match s.guard, exclusive with
      | .shared readers, false =>
        some { s with guard := .shared (readers + 1), waiting := s.waiting ++ [⟨request, false⟩] }
      | .shared 0, true =>
        some { s with guard := .refreshing, waiting := s.waiting ++ [⟨request, true⟩] }
      | _, _ => none
    else none
  | .leave i =>
    s.waiting[i]?.map fun _ =>
      { s with waiting := s.waiting.eraseIdx i, guard := s.guard.release }
  | .lock i =>
    match s.waiting[i]?, s.holder with
    | some reader, none =>
      some { s with waiting := s.waiting.eraseIdx i, holder := some ⟨reader, .locked⟩ }
    | _, _ => none
  | .fail => s.holder.map fun _ => s.release
  | .sample =>
    match s.holder with
    | some ⟨reader, .locked⟩ =>
      some (s.proceed ⟨reader, .locked⟩ (.sampled
        ⟨s.session.revision, s.session.stopId, s.session.executionEpoch, s.moments.length⟩))
    | _ => none
  | .load =>
    match s.holder with
    | some ⟨reader, .sampled sample⟩ =>
      let shared :=
        if s.shared.fence ≠ some (sample.revision, s.generation) then {} else s.shared
      some ({ s with shared := shared }.proceed ⟨reader, .sampled sample⟩
        (.loaded sample ⟨s.generation, s.mutations⟩))
    | _ => none
  | .look =>
    match s.holder with
    | some ⟨reader, .loaded sample load⟩ =>
      match s.shared.results.lookup (sharedKey reader.request) with
      | some result =>
        some { s.release with
          hits := s.hits ++
            [⟨reader.request, sample, load, result, s.session.stopId, s.moments.length,
              s.mutations⟩] }
      | none =>
        some (s.proceed ⟨reader, .loaded sample load⟩
          (.capturing sample load ⟨s.moments.length, 0, s.mutations⟩))
    | _ => none
  | .read =>
    match s.holder with
    | some ⟨reader, .capturing sample load capture⟩ =>
      some (s.proceed ⟨reader, .capturing sample load capture⟩
        (.capturing sample load ⟨s.moments.length, 0, s.mutations⟩))
    | _ => none
  | .commit sequence event =>
    match s.holder with
    | some ⟨reader, .capturing sample load capture⟩ =>
      match s.session.applyEvent sequence event with
      | .ok (session, changed) =>
        some ((s.advance session changed).proceed ⟨reader, .capturing sample load capture⟩
          (.capturing sample load
            { capture with own := if changed then capture.own + 1 else capture.own }))
      | .error _ => none
    | _ => none
  | .close =>
    match s.holder with
    | some ⟨reader, .capturing sample load capture⟩ =>
      if s.session.stopId ≠ sample.stopId ∨ s.session.executionEpoch ≠ sample.executionEpoch then
        -- "target stop changed during shared read"
        some s.release
      else
        some (s.proceed ⟨reader, .capturing sample load capture⟩
          (.closed sample load capture s.session.revision))
    | _ => none
  | .finish facts complete =>
    match s.holder with
    | some ⟨reader, .closed sample load capture revision⟩ =>
      if incompleteFacts facts complete then some s.release
      else
        some { s.release with
          shared := s.shared.store maximum (revision, load.generation)
            (result reader.request sample capture facts) }
    | _ => none

end Sharing

end GdbAi
