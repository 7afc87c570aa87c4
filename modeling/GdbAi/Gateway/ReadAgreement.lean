import GdbAi.Gateway.Mediation

/-!
# Two ways to read memory at one stop

A request `memory.read` is classified when it is admitted, from the address among its parameters; a
memory item of an observation is classified once its address is resolved.  At one stop, with a
target that gives the same answers to both, `reads_agree_iff` says when they agree.  The selectors
of an item are resolved before its read and those of a request behind it; and for a profile that may
not read volatile memory a request with an address expression is refused when it is admitted, before
its expression is looked at.
-/

namespace GdbAi

open Procedure
open Json (asStr hasField lookup lookup_erase lookup_set mem_of_lookup)

/-! ### A target at one stop -/

/-- What both ways find at a stop: the target does not change while it is read. -/
structure StoppedTarget where
  profile : Profile
  /-- `limits.memory_read_bytes`. -/
  maximum : ℕ
  state : SessionState
  stopId : StopId
  stopped : state.stopId = some stopId
  /-- The text of `/proc/{pid}/maps`. -/
  maps : ℕ → Option String
  /-- The value of an expression in the context of the parameters. -/
  value : String → Except Error (Option String)
  /-- The outcome of the read of a range, and of storing what is too long for a response. -/
  contents : ℕ → ℕ → Except Error Unit

/-- The host of a target that does not change: the session is found and its stop stays the same. -/
def StoppedTarget.host (target : StoppedTarget) : MemoryHost where
  profile := target.profile
  maximum := target.maximum
  stackFrames := 64
  responseBytes := 256 * 1024
  state := fun _ => target.state
  maps := fun _ => target.maps
  value := fun trace => match trace.getLast? with
    | some (.evaluated expression) => target.value expression
    | _ => .ok none
  contents := fun trace => match trace.getLast? with
    | some (.read start length) => target.contents start length
    | _ => .ok ()
  tracking := fun _ => []
  inputBytes := fun _ => .ok 0
  banners := fun _ => []
  proceeds := fun _ => .ok ()

/-- The ranges that were read. -/
def readsOf (trace : List MemoryAccess) : List (ℕ × ℕ) :=
  trace.filterMap fun
    | .read start length => some (start, length)
    | _ => none

/-- Both are served, or both fail with the same code. -/
def Alike : Outcome Error Unit → Outcome Error Unit → Prop
  | .value _, .value _ => True
  | .error error, .error error' => error.code = error'.code
  | _, _ => False

/-- Two requests agree: they read the same ranges, and both are served or both fail alike. -/
def Agree (first second : Outcome Error Unit × List MemoryAccess) : Prop :=
  readsOf first.2 = readsOf second.2 ∧ Alike first.1 second.1

namespace Access

/-- The error for a caller without the right to the profile. -/
def unentitled : Error where
  code := .policyDenied
  message := "raw_admin requires an authenticated administrative caller"

/-- The capture of one item of an observation that `caller` makes without selectors of its own. -/
def captureItem (item : Json) (caller : Caller) : Access Unit := do
  let profile ← reads fun host _ => host.profile
  if profile = .rawAdmin && !caller.admin then fail unentitled
  else do
    let state ← sessionState
    match state.stopId with
    | none => fail { code := .targetRunning, message := "observation requires stopped target" }
    | some stopId => do
      let maximum ← reads fun host _ => host.maximum
      let (request, _) ← ofExcept (ObservationRequest.parse item stopId {} maximum .null)
      executeObservation (inspectionResult 2) request

/-- The memory item with the given parameters. -/
def memoryItem (fields : List (String × Json)) : Json :=
  .object (("view", .string "memory") :: fields)

/-! ### How the parts end -/

/-- How a procedure ends: its result, and the ranges that it reads. -/
abbrev Answer (α : Type) := Except Error α × List (ℕ × ℕ)

/-- What follows a result that was found without a read. -/
def follow {α β : Type} : Except Error α → (α → Answer β) → Answer β
  | .ok a, k => k a
  | .error e, _ => (.error e, [])

/-- Results that follow each other. -/
lemma follow_bind {α β γ : Type} (result : Except Error α) (f : α → Except Error β)
    (k : β → Answer γ) : follow (result >>= f) k = follow result fun a => follow (f a) k := by
  cases result <;> rfl

/-- Nothing follows a result without a value. -/
lemma except_bind_unit (result : Except Error Unit) : (result >>= fun _ => .ok ()) = result := by
  cases result <;> rfl

/-- A result as an outcome. -/
def outcomeOf {α : Type} : Except Error α → Outcome Error α
  | .ok a => .value a
  | .error e => .error e

/-- The procedure ends with this answer, whatever was done before. -/
def Ends {α : Type} (target : StoppedTarget) (m : Access α) (answer : Answer α) : Prop :=
  ∀ trace, ∃ trace', m target.host trace = (outcomeOf answer.1, trace') ∧
    readsOf trace' = readsOf trace ++ answer.2

section Ends

variable {target : StoppedTarget} {α β : Type} {m : Access α} {f : α → Access β}
  {result : Except Error α} {answer : Answer β}

/-- What follows a part that reads nothing. -/
lemma Ends.bind {k : α → Answer β} (hm : Ends target m (result, []))
    (hf : ∀ a, result = .ok a → Ends target (f a) (k a)) :
    Ends target (m >>= f) (follow result k) := by
  intro trace
  obtain ⟨trace₁, hrun₁, hreads₁⟩ := hm trace
  cases result with
  | error e => exact ⟨trace₁, run_bind_error hrun₁, hreads₁⟩
  | ok a =>
    obtain ⟨trace₂, hrun₂, hreads₂⟩ := hf a rfl trace₁
    refine ⟨trace₂, (run_bind_value hrun₁).trans hrun₂, ?_⟩
    rw [hreads₂, hreads₁, List.append_nil]
    rfl

/-- Two parts that read nothing. -/
lemma Ends.bind_pure {k : α → Except Error β} (hm : Ends target m (result, []))
    (hf : ∀ a, Ends target (f a) (k a, [])) : Ends target (m >>= f) (result >>= k, []) := by
  have hends := hm.bind fun a _ => hf a
  cases result <;> exact hends

variable {a : α}

/-- What reads nothing and gives a value is followed by the rest. -/
lemma Ends.then (hm : Ends target m (.ok a, [])) (hf : Ends target (f a) answer) :
    Ends target (m >>= f) answer := by
  refine Ends.bind (k := fun _ => answer) hm ?_
  rintro _ ⟨⟩
  exact hf

/-- Nothing follows a failure. -/
lemma Ends.bind_error {e : Error} (hm : Ends target m (.error e, [])) :
    Ends target (m >>= f) (.error e, []) :=
  Ends.bind (k := fun _ => (.error e, [])) hm nofun

/-- A result ends with itself. -/
lemma ends_ofExcept (result : Except Error α) : Ends target (ofExcept result) (result, []) := by
  intro trace
  refine ⟨trace, ?_, (List.append_nil _).symm⟩
  cases result <;> rfl

/-- A value ends with itself. -/
lemma ends_pure (a : α) : Ends target (pure a) (.ok a, []) := ends_ofExcept (.ok a)

/-- A result that is known is replaced. -/
lemma ends_ok (h : result = .ok a) : Ends target (ofExcept result) (.ok a, []) :=
  h ▸ ends_ofExcept result

/-- What is read off the target is the same at every point. -/
lemma ends_reads {g : MemoryHost → List MemoryAccess → α} (h : ∀ trace, g target.host trace = a) :
    Ends target (reads g) (.ok a, []) := by
  intro trace
  refine ⟨trace, ?_, (List.append_nil _).symm⟩
  rw [reads, h trace]
  rfl

/-- One more step in a trace. -/
lemma readsOf_append (trace : List MemoryAccess) (entry : MemoryAccess) :
    readsOf (trace ++ [entry]) = readsOf trace ++ readsOf [entry] :=
  List.filterMap_append

/-- The recorded step is the last one while its answer is looked up. -/
lemma ends_record (entry : MemoryAccess) {g : MemoryHost → List MemoryAccess → Except Error α}
    (h : ∀ trace, g target.host (trace ++ [entry]) = result) :
    Ends target (do
      record entry
      ofExcept (← reads g)) (result, readsOf [entry]) := by
  intro trace
  refine ⟨trace ++ [entry], ?_, readsOf_append trace entry⟩
  show ofExcept (g target.host (trace ++ [entry])) target.host (trace ++ [entry]) = _
  rw [h]
  cases result <;> rfl

/-- Other steps read nothing. -/
lemma ends_step : Ends target step (.ok (), []) := ends_record .other fun _ => rfl

/-- What reads nothing and follows a read decides whether it is served. -/
lemma Ends.after {m n : Access Unit} {answer : Answer Unit} {result : Except Error Unit}
    (hm : Ends target m answer) (hn : Ends target n (result, [])) :
    Ends target (m >>= fun _ => n) (answer.1 >>= fun _ => result, answer.2) := by
  intro trace
  obtain ⟨trace₁, hrun₁, hreads₁⟩ := hm trace
  obtain ⟨_ | ⟨⟨⟩⟩, ranges⟩ := answer
  · exact ⟨trace₁, run_bind_error hrun₁, hreads₁⟩
  · obtain ⟨trace₂, hrun₂, hreads₂⟩ := hn trace₁
    refine ⟨trace₂, (run_bind_value hrun₁).trans hrun₂, ?_⟩
    rw [hreads₂, hreads₁, List.append_nil]

/-- The session is found at its stop. -/
lemma ends_stoppedState {parameters : Json}
    (h : requireStoppedContext parameters target.state = .ok ()) :
    Ends target (stoppedState parameters) (.ok target.state, []) :=
  (ends_reads fun _ => rfl).then ((ends_ok h).then (ends_pure _))

/-- Whether the selectors of the parameters are resolved. -/
def contextIn (target : StoppedTarget) (parameters : Json) : Except Error Unit :=
  target.state.requestObservation parameters >>= fun _ => .ok ()

/-- The selectors are resolved in the state of the stop. -/
lemma ends_resolveContext (parameters : Json) :
    Ends target (resolveContext parameters) (contextIn target parameters, []) :=
  (ends_reads fun _ => rfl).then ((ends_ofExcept _).bind_pure fun _ => ends_pure ())

/-- The effect of a range of the target. -/
def effectOf (target : StoppedTarget) (start length : ℕ) : MemoryRangeEffect :=
  rangeEffect target.state.targetOrigin
    ((target.state.inferiors.toList.map Prod.snd).findSome? InferiorState.pid) target.maps start
    length

/-- The range is parsed and classified. -/
lemma ends_classifyMemoryRange (parameters : Json) (field : String) :
    Ends target (classifyMemoryRange parameters field)
      (memoryRange parameters field >>= fun range => .ok (effectOf target range.1 range.2),
        []) := by
  refine (ends_ofExcept _).bind_pure fun range trace => ⟨_, rfl, ?_⟩
  exact readsOf_append trace (.classified _ _ _)

/-- The address an expression leads to. -/
def addressOf (target : StoppedTarget) (expression : String) : Except Error ℕ :=
  target.value expression >>= fun value => match value with
    | some value => parseAddress value
    | none => .error { code := .gdbError, message := "address expression returned no value" }

/-- An expression is evaluated by the target. -/
lemma ends_evaluateAddress (expression : String) :
    Ends target (evaluateAddress expression "address expression returned no value")
      (addressOf target expression, []) := by
  intro trace
  refine ⟨trace ++ [.evaluated expression], ?_, readsOf_append trace (.evaluated expression)⟩
  have hvalue : target.host.value (trace ++ [.evaluated expression]) = target.value expression := by
    simp [StoppedTarget.host]
  show (ofExcept (target.host.value (trace ++ [.evaluated expression])) >>= _) target.host
    (trace ++ [.evaluated expression]) = _
  rw [hvalue, addressOf]
  cases target.value expression with
  | error e => rfl
  | ok value =>
    cases value with
    | none => rfl
    | some value =>
      show ofExcept (parseAddress value) _ _ = (outcomeOf (parseAddress value), _)
      cases parseAddress value <;> rfl

/-- The error of a range that is no range of addresses. -/
def overflows : Error :=
  { code := .invalidArgument, message := "memory range overflows address space" }

/-- How the read of a range ends. -/
def readAnswer (target : StoppedTarget) (start length : ℕ) : Answer Unit :=
  if start + (length - 1) < 2 ^ 64 then (target.contents start length, [(start, length)])
  else (.error overflows, [])

/-- A range of addresses is read. -/
lemma ends_readMemoryBytes (start length : ℕ) :
    Ends target (readMemoryBytes start length) (readAnswer target start length) := by
  unfold readMemoryBytes readAnswer ensure
  by_cases hrange : start + (length - 1) < 2 ^ 64
  · simp only [hrange, decide_true, if_true]
    refine (ends_pure ()).then (ends_record (.read start length) fun trace => ?_)
    simp [StoppedTarget.host]
  · simp only [hrange, decide_false, Bool.false_eq_true, if_false]
    exact (ends_ofExcept (.error overflows)).bind_error

end Ends

/-! ### Answers that are alike -/

/-- The code of a failure. -/
def codeOf : Except Error Unit → Option ErrorCode
  | .ok _ => none
  | .error e => some e.code

/-- The same ranges, and both served or both failed with the same code. -/
def Like (first second : Answer Unit) : Prop :=
  first.2 = second.2 ∧ codeOf first.1 = codeOf second.1

/-- The procedure ends like this. -/
def EndsLike (target : StoppedTarget) (m : Access Unit) (answer : Answer Unit) : Prop :=
  ∃ answer', Ends target m answer' ∧ Like answer' answer

section EndsLike

variable {target : StoppedTarget} {m n : Access Unit} {answer : Answer Unit}

/-- A procedure ends like its own answer. -/
lemma Ends.like (h : Ends target m answer) : EndsLike target m answer := ⟨answer, h, rfl, rfl⟩

/-- Failures with the same code are alike. -/
lemma Ends.like_error {e e' : Error} (h : Ends target m (.error e, [])) (hcode : e.code = e'.code) :
    EndsLike target m (.error e', []) := ⟨_, h, rfl, congrArg some hcode⟩

/-- A result is followed by what ends alike. -/
lemma Ends.like_follow {α : Type} {result : Except Error α} {k k' : α → Answer Unit}
    (hm : Ends target m (follow result k))
    (h : ∀ a, result = .ok a → Ends target m (k a) → EndsLike target m (k' a)) :
    EndsLike target m (follow result k') := by
  cases result with
  | error e => exact hm.like
  | ok a => exact h a rfl hm

/-- Procedures agree exactly when they end alike. -/
lemma agree_iff {answer' : Answer Unit} (hm : EndsLike target m answer)
    (hn : EndsLike target n answer') :
    Agree (m target.host []) (n target.host []) ↔ Like answer answer' := by
  obtain ⟨⟨first, ranges⟩, hfirst, hranges, hcode⟩ := hm
  obtain ⟨⟨second, ranges'⟩, hsecond, hranges', hcode'⟩ := hn
  obtain ⟨trace₁, hrun₁, hreads₁⟩ := hfirst []
  obtain ⟨trace₂, hrun₂, hreads₂⟩ := hsecond []
  rw [hrun₁, hrun₂, Agree, hreads₁, hreads₂, Like, ← hranges, ← hranges', ← hcode, ← hcode']
  refine and_congr Iff.rfl ?_
  cases first <;> cases second <;> simp [outcomeOf, Alike, codeOf]

end EndsLike

/-! ### What `memory_read` does -/

/-- Parameters that `memory_read` takes as far as their address. -/
structure Readable (target : StoppedTarget) (parameters : Json) (length : ℕ) : Prop where
  encoding : checkEncoding parameters = .ok ()
  stopped : requireStoppedContext parameters target.state = .ok ()
  length_eq : (parameters.get "length").bind Json.asUnsigned = some length
  positive : 0 < length
  within : length ≤ target.maximum

/-- The address among the parameters. -/
def addressIn (target : StoppedTarget) (parameters : Json) : Except Error ℕ :=
  match (parameters.get "address_expression").bind asStr with
  | some expression => validateExpression expression >>= fun _ =>
    evaluationCommand target.state parameters expression >>= fun _ => addressOf target expression
  | none => requiredString parameters "address" >>= Address.parse

section MemoryRead

variable {target : StoppedTarget} {parameters : Json} {length : ℕ}

/-- `memory_read` finds the address and reads. -/
lemma Readable.ends_memoryRead (h : Readable target parameters length) :
    Ends target (memoryRead parameters)
      (follow (addressIn target parameters) fun address => readAnswer target address length) := by
  have hlength : requiredUnsigned parameters "length" = .ok length := by
    rw [requiredUnsigned, h.length_eq]
  have hlimits : ensure (length ≠ 0 && length ≤ target.maximum)
      ("memory length must be between 1 and " ++ toString target.maximum) = .ok () := by
    rw [ensure, if_pos]
    simpa using And.intro h.positive.ne' h.within
  refine (ends_ok h.encoding).then (ends_step.then ?_)
  refine (ends_stoppedState h.stopped).then ((ends_ok hlength).then ?_)
  refine Ends.then (ends_reads fun _ => rfl) ((ends_ok hlimits).then (ends_step.then ?_))
  have hread {result : Except Error ℕ} (address : ℕ) (_ : result = .ok address) : Ends target (do
      readMemoryBytes address length
      step) (readAnswer target address length) := by
    have hends : Ends target (readMemoryBytes address length >>= fun _ => step) (_, _) :=
      (ends_readMemoryBytes address length).after ends_step
    rwa [except_bind_unit] at hends
  unfold addressIn
  generalize (parameters.get "address_expression").bind asStr = expression
  cases expression with
  | some expression =>
    simp only [follow_bind]
    exact (ends_ofExcept _).bind fun _ _ => (ends_ofExcept _).bind fun _ _ =>
      (ends_evaluateAddress _).bind hread
  | none =>
    rw [follow_bind]
    exact (ends_ofExcept _).bind fun text _ => (ends_ofExcept (Address.parse text)).bind hread

end MemoryRead

/-! ### Authorization -/

/-- The profiles that may read volatile memory. -/
def ReadsVolatile (profile : Profile) : Prop := profile = .labMutation ∨ profile = .rawAdmin

instance (profile : Profile) : Decidable (ReadsVolatile profile) :=
  inferInstanceAs (Decidable (_ ∨ _))

/-- Every profile may read. -/
lemma authorizeMethod_read (profile : Profile) :
    profile.authorizeMethod .memoryRead .read = .ok () := by
  cases profile <;> rfl

/-- Whether the profile may read a range. -/
def permission (target : StoppedTarget) (start length : ℕ) : Except Error Unit :=
  target.profile.authorizeMethod .memoryRead
    (if effectOf target start length ≠ .ordinary then .volatileTargetRead else .read)

/-- A profile that may read volatile memory may read every range. -/
lemma permission_of_readsVolatile {target : StoppedTarget} (h : ReadsVolatile target.profile)
    (start length : ℕ) : permission target start length = .ok () := by
  unfold permission
  rcases h with h | h <;> rw [h] <;> split <;> rfl

/-- Whether a range is one of addresses and the profile may read it. -/
def refusal (target : StoppedTarget) (start length : ℕ) : Except Error Unit :=
  if start + (length - 1) < 2 ^ 64 then permission target start length else .error overflows

/-- How a read ends that is authorized before: first the address is found. -/
def served (target : StoppedTarget) (address : Except Error ℕ) (length : ℕ)
    (context : Except Error Unit) : Answer Unit :=
  follow address fun address => follow (refusal target address length) fun _ =>
    (target.contents address length >>= fun _ => context, [(address, length)])

section Authorization

variable {target : StoppedTarget} {parameters : Json} {length : ℕ} {context : Except Error Unit}

/-- A read whose result is attributed to a context. -/
def attribution (answer : Answer Unit) (context : Except Error Unit) : Answer Unit :=
  (answer.1 >>= fun _ => context, answer.2)

/-- A context that is resolved changes nothing. -/
lemma attribution_ok (answer : Answer Unit) : attribution answer (.ok ()) = answer := by
  rw [attribution, except_bind_unit]

/-- A profile that may read volatile memory is served as by the read alone. -/
lemma served_of_readsVolatile (h : ReadsVolatile target.profile) (address : Except Error ℕ) :
    served target address length context = attribution
      (follow address fun address => readAnswer target address length) context := by
  unfold served refusal readAnswer
  cases address with
  | error e => rfl
  | ok address =>
    by_cases hrange : address + (length - 1) < 2 ^ 64
    · simp only [follow, if_pos hrange, permission_of_readsVolatile h, attribution]
    · simp only [follow, if_neg hrange, attribution]
      rfl

/-- The range of an item is classified and authorized. -/
lemma ends_authorizeObservationMemory (parameters : Json) :
    Ends target (authorizeObservationMemory parameters)
      (memoryRange parameters "address" >>= fun range => permission target range.1 range.2,
        []) := by
  have hends : Ends target (authorizeObservationMemory parameters) (_, []) :=
    (ends_classifyMemoryRange parameters "address").bind_pure
      (k := fun effect => target.profile.authorizeMethod .memoryRead
        (if effect ≠ .ordinary then .volatileTargetRead else .read)) fun effect => by
    refine Ends.then (ends_reads fun _ => rfl) ?_
    unfold onlyIf
    by_cases heffect : effect = .ordinary
    · rw [if_neg (by simpa using heffect), if_neg (by simpa using heffect), authorizeMethod_read]
      exact ends_pure ()
    · rw [if_pos (by simpa using heffect), if_pos heffect]
      exact ends_ofExcept _
  rw [bind_assoc] at hends
  exact hends

/-- The parameters have this text for a literal address. -/
structure Literal (parameters : Json) (text : String) : Prop where
  expression : (parameters.get "address_expression").bind asStr = none
  address : (parameters.get "address").bind asStr = some text

variable {text : String} {m : Access Unit} (hliteral : Literal parameters text)
include hliteral

/-- The range of parameters with a literal address. -/
lemma Literal.memoryRange_eq (hlength : (parameters.get "length").bind Json.asUnsigned = some length) :
    memoryRange parameters "address" = (Address.parse text >>= fun address => do
      ensure (address + (length - 1) < 2 ^ 64) "memory range overflows"
      .ok (address, length)) := by
  simp only [memoryRange, hliteral.address, hlength]

/-- A literal address is parsed, if there is a text. -/
lemma Literal.addressIn_eq (htext : text ≠ "") :
    addressIn target parameters = Address.parse text := by
  rw [addressIn, hliteral.expression]
  simp only [requiredString, hliteral.address, if_pos htext]
  rfl

/-- A literal address is read as its text says. -/
lemma Ends.like_literal (hprofile : ReadsVolatile target.profile)
    (hm : Ends target m (attribution (follow (addressIn target parameters) fun address =>
      readAnswer target address length) context)) :
    EndsLike target m (served target (Address.parse text) length context) := by
  rw [← served_of_readsVolatile hprofile] at hm
  by_cases htext : text = ""
  · subst htext
    rw [addressIn, hliteral.expression] at hm
    simp only [requiredString, hliteral.address] at hm
    exact hm.like_error rfl
  · rw [hliteral.addressIn_eq htext] at hm
    exact hm.like

/-- Behind a classified range, the read of a literal address is served. -/
lemma Readable.endsLike_classified (h : Readable target parameters length)
    (context : Except Error Unit)
    (hm : Ends target m (follow (memoryRange parameters "address") fun range => follow (permission
      target range.1 range.2) fun _ => attribution (follow (addressIn target parameters) fun address =>
      readAnswer target address length) context)) :
    EndsLike target m (served target (Address.parse text) length context) := by
  rw [hliteral.memoryRange_eq h.length_eq, follow_bind] at hm
  refine hm.like_follow fun address hparse hm => ?_
  have htext : text ≠ "" := by
    rintro rfl
    cases hparse
  rw [hliteral.addressIn_eq htext, hparse] at hm
  unfold refusal
  by_cases hrange : address + (length - 1) < 2 ^ 64
  · simp only [ensure, hrange, decide_true, if_true, follow, readAnswer, attribution] at hm ⊢
    exact hm.like
  · simp only [ensure, hrange, decide_false, Bool.false_eq_true, if_false, follow] at hm ⊢
    exact hm.like_error rfl

end Authorization

/-! ### The two ways -/

section Routes

variable {target : StoppedTarget} {request : ApiRequest} {caller : Caller} {answer : Answer Unit}

/-- The caller may use the profile. -/
def Entitled (target : StoppedTarget) (caller : Caller) : Prop :=
  target.profile = .rawAdmin → caller.admin = true

/-- The test of the caller. -/
lemma entitled_iff : (target.profile = .rawAdmin && !caller.admin) = false ↔
    Entitled target caller := by
  unfold Entitled
  cases caller.admin <;> simp

/-- Whether the caller may use the profile is asked before the rest. -/
lemma Ends.entitled {m : Access Unit} (hm : Ends target m answer) (h : Entitled target caller) :
    Ends target (if target.profile = .rawAdmin && !caller.admin then fail unentitled else m)
      answer := by
  rwa [if_neg (by rw [entitled_iff.mpr h]; decide)]

/-- A caller without the right to the profile goes no further. -/
lemma ends_unentitled {m : Access Unit} (h : ¬ Entitled target caller) :
    Ends target (if target.profile = .rawAdmin && !caller.admin then fail unentitled else m)
      (.error unentitled, []) := by
  rw [if_pos (by rwa [← entitled_iff, Bool.not_eq_false] at h)]
  exact ends_ofExcept (.error unentitled)

/-- A profile that may read volatile memory is not asked for the range; for the others the range
decides, or the request has none. -/
lemma ends_admittedEffect (hmethod : request.method = .memoryRead) :
    Ends target (admittedEffect request) (if ReadsVolatile target.profile then .ok .read else
      memoryRange request.parameters "address" >>= fun range =>
        .ok (if effectOf target range.1 range.2 ≠ .ordinary then .volatileTargetRead else .read),
      []) := by
  have heffect : effectForRequest request = .read := by
    simp [effectForRequest, hmethod, CanonicalMethod.takesInput, effectForMethod]
  have hclassifies : (decide (target.profile ≠ .labMutation) &&
      decide (target.profile ≠ .rawAdmin)) = !decide (ReadsVolatile target.profile) := by
    cases target.profile <;> rfl
  refine Ends.then (ends_reads fun _ => rfl) ?_
  show Ends target (if (_ && decide (target.profile ≠ .labMutation) &&
    decide (target.profile ≠ .rawAdmin)) = true then _ else _) _
  rw [Bool.and_assoc, hclassifies, heffect]
  by_cases hprofile : ReadsVolatile target.profile
  · rw [if_neg (by simp [hprofile]), if_pos hprofile]
    exact ends_pure _
  · rw [if_pos (by simp [hprofile, hmethod]), if_neg hprofile, if_neg (by rw [hmethod]; decide)]
    have hclassified : Ends target (classifyMemoryRange request.parameters "address") _ :=
      ends_classifyMemoryRange _ _
    have hends := hclassified.bind_pure fun effect =>
      ends_pure (if effect ≠ .ordinary then .volatileTargetRead else Effect.read)
    rw [bind_assoc] at hends
    exact hends

variable {parameters : Json} (hmethod : request.method = .memoryRead)
  (hparameters : request.parameters = parameters)
  (hcontract : CanonicalMethod.memoryRead.validateParameters parameters = .ok ())
include hmethod hparameters hcontract

/-- An entitled request is classified where its profile asks for it, authorized and run. -/
lemma ends_dispatch (hcaller : Entitled target caller)
    (hread : Ends target (memoryRead parameters) answer) :
    Ends target (dispatch request caller) (if ReadsVolatile target.profile then
        attribution answer (contextIn target parameters) else
      follow (memoryRange parameters "address") fun range =>
        follow (permission target range.1 range.2) fun _ =>
          attribution answer (contextIn target parameters)) := by
  subst hparameters
  have hoperation : Ends target (operation request)
      (attribution answer (contextIn target request.parameters)) := by
    unfold operation
    rw [hmethod]
    exact hread.after (ends_step.then (ends_resolveContext _))
  have hends {effect : Except Error Effect}
      (hadmitted : Ends target (admittedEffect request) (effect, [])) :
      Ends target (dispatch request caller) (follow effect fun effect =>
        follow (target.profile.authorizeMethod .memoryRead effect) fun _ =>
          attribution answer (contextIn target request.parameters)) := by
    refine Ends.then (ends_ok (by rw [hmethod]; exact hcontract)) (ends_step.then ?_)
    refine hadmitted.bind fun effect _ => Ends.then (ends_reads fun _ => rfl) (Ends.entitled ?_ hcaller)
    rw [hmethod]
    exact (ends_ofExcept _).bind fun _ _ => ends_step.then hoperation
  have hdispatch := hends (ends_admittedEffect hmethod)
  by_cases hprofile : ReadsVolatile target.profile
  · rw [if_pos hprofile] at hdispatch ⊢
    rw [follow, authorizeMethod_read] at hdispatch
    exact hdispatch
  · rw [if_neg hprofile, follow_bind] at hdispatch
    rw [if_neg hprofile]
    exact hdispatch

/-- A caller without the right to the profile is refused. -/
lemma ends_dispatch_unentitled (hcaller : ¬ Entitled target caller) :
    Ends target (dispatch request caller) (.error unentitled, []) := by
  have hprofile : ReadsVolatile target.profile := .inr (by_contra fun hother =>
    hcaller fun h => absurd h hother)
  subst hparameters
  have hadmitted : Ends target (admittedEffect request) _ := ends_admittedEffect hmethod
  rw [if_pos hprofile] at hadmitted
  refine Ends.then (ends_ok (by rw [hmethod]; exact hcontract)) (ends_step.then ?_)
  exact hadmitted.then (Ends.then (ends_reads fun _ => rfl) (ends_unentitled hcaller))

end Routes

/-! ### Addresses that were resolved -/

/-- The digits of an address are hexadecimal. -/
lemma hexDigit_of_mem_toDigits (address : ℕ) :
    ∀ c ∈ Nat.toDigits 16 address, (hexDigitValue c).isSome = true := by
  induction address using Nat.strongRecOn with
  | _ address ih =>
    rw [Nat.toDigits_eq_if (by decide)]
    split
    · rename_i hsmall
      intro c hc
      rw [List.mem_singleton.mp hc, hexDigitValue_digitChar hsmall]
      rfl
    · intro c hc
      rcases List.mem_append.mp hc with hc | hc
      · exact ih (address / 16) (by omega) c hc
      · rw [List.mem_singleton.mp hc, hexDigitValue_digitChar (Nat.mod_lt address (by decide))]
        rfl

variable {address : ℕ}

/-- The text of an address of 64 bits is an address. -/
lemma parse_addressText_eq (h : address < 2 ^ 64) :
    Address.parse (addressText address) = .ok address := by
  have hlist : (addressText address).toList = '0' :: 'x' :: Nat.toDigits 16 address := by
    simp [addressText]
  have hshort : (Nat.toDigits 16 address).length ≤ 16 :=
    (Nat.length_toDigits_le_iff (by decide) (by decide)).mpr (by norm_num at h ⊢; omega)
  have hdigits : (Nat.toDigits 16 address).all (fun c => (hexDigitValue c).isSome) = true :=
    List.all_eq_true.mpr (hexDigit_of_mem_toDigits address)
  have hnonempty : (Nat.toDigits 16 address).isEmpty = false := by
    rw [List.isEmpty_eq_false_iff]
    exact Nat.toDigits_ne_nil
  rw [Address.parse, hlist]
  show (ensure _ _ >>= fun _ => Except.ok (List.foldl _ _ (Nat.toDigits 16 address))) = _
  rw [foldl_toDigits, hnonempty, hdigits, ensure, if_pos (by simpa using hshort)]
  rfl

/-- A number that is read has 64 bits. -/
lemma fromStrRadix_lt {radix number : ℕ} {value : List Char}
    (h : fromStrRadix radix value = some number) : number < 2 ^ 64 := by
  unfold fromStrRadix at h
  simp only [Option.ite_none_right_eq_some] at h
  obtain ⟨-, hlt, heq⟩ := h
  rwa [← Option.some.inj heq]

/-- So has one that is found in a text. -/
lemma hexWord_lt {word : List Char} {number : ℕ} (h : hexWord word = some number) :
    number < 2 ^ 64 := by
  unfold hexWord at h
  split at h
  · exact fromStrRadix_lt h
  · cases h

/-- What `parse_address` finds is an address of 64 bits. -/
lemma parseAddress_lt {value : String} (h : parseAddress value = .ok address) :
    address < 2 ^ 64 := by
  unfold parseAddress at h
  simp only at h
  split at h
  · rename_i number hfound
    obtain rfl := Except.ok.inj h
    rw [Option.orElse_eq_orElse, Option.orElse_eq_or, Option.or_eq_some_iff] at hfound
    rcases hfound with hfirst | ⟨-, hlater⟩
    · split at hfirst
      · exact fromStrRadix_lt hfirst
      · exact fromStrRadix_lt hfirst
    · split at hlater
      · obtain ⟨word, -, hword⟩ := List.exists_of_findSome?_eq_some hlater
        exact hexWord_lt hword
      · cases hlater
  · cases h

/-- Expressions lead to addresses of 64 bits. -/
lemma addressOf_lt {target : StoppedTarget} {expression : String}
    (h : addressOf target expression = .ok address) : address < 2 ^ 64 := by
  obtain ⟨value, -, h⟩ := except_bind_ok h
  cases value with
  | none => cases h
  | some value => exact parseAddress_lt h

/-! ### The item -/

section Item

variable {target : StoppedTarget} {fields : List (String × Json)} {length : ℕ} {caller : Caller}

/-- The fields of the request behind a memory item. -/
def arranged (target : StoppedTarget) (fields : List (String × Json)) : List (String × Json) :=
  arrange .memory target.stopId (("view", .string "memory") :: fields)

variable {name : String}

/-- The item has the fields of its parameters, apart from its stop. -/
lemma lookup_arranged (h : name ∉ ["name", "stop_id", "view"]) :
    lookup (arranged target fields) name = lookup fields name := by
  have hview : ¬ "view" = name := by
    rintro rfl
    exact h (by decide)
  rw [arranged, lookup_arrange h, lookup, lookup,
    List.find?_cons_of_neg (by simpa using hview)]

/-- The same of the item as an object. -/
lemma get_item (hname : name ∉ ["name", "stop_id", "view"]) :
    (Json.object (arranged target fields)).get name = lookup fields name :=
  lookup_arranged hname

/-- The item has the stop of the target. -/
lemma stop_arranged :
    (Json.object (arranged target fields)).get "stop_id" = some (.string target.stopId.text) := by
  show lookup (Json.erase (Json.set (Json.erase _ "name") "stop_id" _) "view") "stop_id" = _
  rw [lookup_erase, if_neg (by decide), lookup_set, if_pos rfl]

/-- That stop is current. -/
lemma requireStoppedContext_of_stop {parameters : Json}
    (h : parameters.get "stop_id" = some (.string target.stopId.text)) :
    requireStoppedContext parameters target.state = .ok () := by
  rw [requireStoppedContext, target.stopped, h]
  exact if_pos rfl

section Accepted

variable (h : CanonicalMethod.memoryRead.contract.Accepted fields)
include h

/-- The contract of `memory.read` has no name and no view. -/
lemma lookup_unknown (hname : name ∈ ["name", "view"]) : lookup fields name = none := by
  have hunknown : ∀ name ∈ ["name", "view"],
      CanonicalMethod.memoryRead.contract.field name = none := by decide +kernel
  by_contra hsome
  obtain ⟨value, hvalue⟩ := Option.ne_none_iff_exists'.mp hsome
  obtain ⟨field, hfield, -⟩ := h.kinds (name, value) (mem_of_lookup hvalue)
  rw [hunknown name hname] at hfield
  cases hfield

/-- The contract of `memory.read` accepts the item at any stop. -/
lemma accepted_arranged : CanonicalMethod.memoryRead.contract.Accepted (arranged target fields) := by
  have habsent : ∀ name ∈ ["name", "view"], hasField fields name = false := by
    intro name hname
    rw [hasField, lookup_unknown h hname]
    rfl
  refine h.extend ?_ ?_ ?_
  · intro entry hentry
    rcases mem_arrange.mp hentry with ⟨-, rfl⟩ | ⟨hmem, -, -, hview⟩
    · exact .inr ⟨optional "stop_id" .string, rfl, rfl⟩
    · rcases List.mem_cons.mp hmem with rfl | hmem
      · exact absurd rfl (hview (by decide))
      · exact .inl hmem
  · intro name hname
    refine hasField_arrange.mpr ?_
    by_cases hstop : name = "stop_id"
    · exact .inl ⟨by decide, hstop⟩
    · refine .inr ⟨?_, ?_, fun _ => hstop, fun _ => ?_⟩
      · obtain ⟨value, hmem⟩ := Json.hasField_iff.mp hname
        exact Json.hasField_iff.mpr ⟨value, List.mem_cons_of_mem _ hmem⟩
      · rintro rfl
        rw [habsent _ (by decide)] at hname
        cases hname
      · rintro rfl
        rw [habsent _ (by decide)] at hname
        cases hname
  · intro group hgroup name hname
    have hgroups : ∀ group ∈ CanonicalMethod.memoryRead.contract.exactlyOneOf, ∀ name ∈ group,
        name ∉ ["name", "stop_id", "view"] := by decide +kernel
    rw [hasField, lookup_arranged (hgroups group hgroup name hname), hasField]

/-- A text among accepted parameters. -/
lemma exists_text
    (hkind : CanonicalMethod.memoryRead.contract.field name = some (optional name .string))
    {value : Json} (hvalue : lookup fields name = some value) :
    ∃ text, value = .string text := by
  obtain ⟨field, hfield, haccepts⟩ := h.kinds (name, value) (mem_of_lookup hvalue)
  rw [hkind] at hfield
  obtain rfl := Option.some.inj hfield
  obtain ⟨text, htext⟩ := Option.isSome_iff_exists.mp (show value.asStr.isSome = true from haccepts)
  cases value with
  | string text => exact ⟨text, rfl⟩
  | _ => cases htext

/-- Accepted parameters have either an address or an expression for it. -/
lemma address_or_expression :
    (∃ text, lookup fields "address" = some (.string text) ∧
        lookup fields "address_expression" = none) ∨
      ∃ expression, lookup fields "address_expression" = some (.string expression) ∧
        lookup fields "address" = none := by
  have hone := h.groups ["address", "address_expression"] (by decide)
  cases haddress : lookup fields "address" with
  | some value =>
    obtain ⟨text, rfl⟩ := exists_text h (by rfl) haddress
    refine .inl ⟨text, rfl, ?_⟩
    simpa [List.countP_cons, hasField, haddress] using hone
  | none =>
    have hexpression : lookup fields "address_expression" ≠ none := by
      simpa [List.countP_cons, hasField, haddress] using hone
    obtain ⟨value, hvalue⟩ := Option.ne_none_iff_exists'.mp hexpression
    obtain ⟨expression, rfl⟩ := exists_text h (by rfl) hvalue
    exact .inr ⟨expression, hvalue, rfl⟩

/-- The contract admits the two encodings only. -/
lemma checkEncoding_of_accepted : checkEncoding (.object fields) = .ok () := by
  rw [checkEncoding, Json.get]
  cases hencoding : lookup fields "encoding" with
  | none => rfl
  | some value =>
    obtain ⟨field, hfield, haccepts⟩ := h.kinds ("encoding", value) (mem_of_lookup hencoding)
    obtain rfl : optional "encoding" (.enum ["hex", "base64"]) = field := Option.some.inj hfield
    cases value with
    | string text =>
      have htext : text ∈ ["hex", "base64"] := by
        simpa [optional, ParameterKind.accepts, asStr] using haccepts
      rcases List.mem_cons.mp htext with rfl | htext
      · rfl
      · obtain rfl := List.mem_singleton.mp htext
        rfl
    | _ => cases haccepts

end Accepted

variable (haccepted : CanonicalMethod.memoryRead.contract.Accepted fields)
  (hlength : (lookup fields "length").bind Json.asUnsigned = some length)
  (hpositive : 0 < length) (hwithin : length ≤ target.maximum)

include haccepted hlength hpositive hwithin in
/-- `memory_read` takes the item as far as its address. -/
lemma readable_arranged : Readable target (.object (arranged target fields)) length where
  encoding := checkEncoding_of_accepted (accepted_arranged haccepted)
  stopped := requireStoppedContext_of_stop stop_arranged
  length_eq := by rw [get_item (by decide), hlength]
  positive := hpositive
  within := hwithin

/-- The address alone is replaced. -/
lemma get_withAddress (hname : name ∉ ["address", "address_expression"]) (address : ℕ) :
    (withAddress (.object fields) address).get name = lookup fields name := by
  simp only [List.mem_cons, List.not_mem_nil, or_false, not_or] at hname
  simp [withAddress, Json.get, Json.asObject, lookup_set, lookup_erase, hname]

/-- Behind the resolution of its expression the item has a literal address. -/
lemma Readable.withAddress (h : Readable target (.object fields) length) (address : ℕ) :
    Readable target (withAddress (.object fields) address) length where
  encoding := by
    rw [checkEncoding, get_withAddress (by decide)]
    exact h.encoding
  stopped := by
    rw [requireStoppedContext, get_withAddress (by decide), get_withAddress (by decide)]
    exact h.stopped
  length_eq := by
    rw [get_withAddress (by decide)]
    exact h.length_eq
  positive := h.positive
  within := h.within

/-- The item selects what its parameters select. -/
lemma ofJson_arranged :
    ContextParameters.ofJson (.object (arranged target fields)) = .ofJson (.object fields) := by
  simp only [ContextParameters.ofJson]
  rw [get_item (by decide), get_item (by decide), get_item (by decide), get_item (by decide)]
  rfl

/-- A stop among the parameters that was found to be current stays so. -/
lemma requireRequestedStop_ok {parameters : Json}
    (h : requireStoppedContext parameters target.state = .ok ()) :
    target.state.requireRequestedStop parameters = .ok () := by
  rw [requireStoppedContext, target.stopped] at h
  unfold SessionState.requireRequestedStop
  cases hstop : (parameters.get "stop_id").bind asStr with
  | none => rfl
  | some expected =>
    simp only [hstop] at h
    split at h
    · rename_i hsame
      exact if_pos (by rw [target.stopped, ← hsame])
    · cases h

/-- The command for an expression is built from what its selectors are resolved to. -/
lemma evaluationCommand_eq {parameters : Json}
    (h : requireStoppedContext parameters target.state = .ok ()) (expression : String) :
    evaluationCommand target.state parameters expression =
      (target.state.resolveCommandContext (.ofJson parameters) >>= fun context =>
        context.options ⟨"-data-evaluate-expression", [.string (utf8 expression)]⟩) := by
  change target.state.contextOptions _ parameters = _
  rw [SessionState.contextOptions, requireRequestedStop_ok h]
  rfl

/-- The checks of a memory item beyond its contract. -/
lemma check_arranged
    (hlength : (lookup fields "length").bind Json.asUnsigned = some length)
    (hpositive : 0 < length) (hwithin : length ≤ target.maximum) :
    ObservationKind.memory.check (arranged target fields) target.maximum {} = (do
      checkAddress fields
      validateExpressions ((lookup fields "address_expression").bind asStr).toList
      .ok ⟨length, 0⟩) := by
  have hcount : memoryLength (arranged target fields) = length := by
    rw [memoryLength, lookup_arranged (by decide), hlength]
    rfl
  have hnumber := Json.lt_of_asUnsigned hlength
  show checkMemory (arranged target fields) target.maximum {} = _
  unfold checkMemory
  simp only [hcount, Nat.zero_add]
  rw [ensure, if_pos (by simpa using And.intro hpositive.ne' hwithin), ensure,
    if_pos (by simpa using hnumber), ensure, if_pos (by simpa using hwithin), checkAddress,
    lookup_arranged (by decide), lookup_arranged (by decide)]
  rfl

include haccepted in
/-- The request behind a memory item. -/
lemma parse_memoryItem :
    ObservationRequest.parse (memoryItem fields) target.stopId {} target.maximum .null =
      (ObservationKind.memory.check (arranged target fields) target.maximum {} >>= fun budgets =>
        .ok (.ofObject "memory" .memory (arranged target fields), budgets)) := by
  have hvalid : CanonicalMethod.memoryRead.validateParameters (.object (arranged target fields)) =
      .ok () := MethodContract.validate_ok_iff.mpr ⟨_, rfl, accepted_arranged haccepted⟩
  have hname : lookup (("view", .string "memory") :: fields) "name" = none := by
    rw [lookup, List.find?_cons_of_neg (by decide)]
    exact lookup_unknown haccepted (by decide)
  have hview : lookup (("view", Json.string "memory") :: fields) "view" =
      some (.string "memory") := rfl
  rw [ObservationRequest.parse, memoryItem]
  simp only [Json.asObject, inheritSelection_null, hview, hname, Option.bind_some, asStr]
  rw [ensure, if_pos (by decide)]
  show (CanonicalMethod.memoryRead.validateParameters (.object (arranged target fields)) >>=
    _) = _
  rw [hvalid]
  rfl

include haccepted in
/-- An item that is well formed is observed, and another one is refused with its own error. -/
lemma ends_captureItem (hcaller : Entitled target caller) {answer : Answer Unit}
    (hobserved : Ends target (observationMemoryRead (.object (arranged target fields))) answer) :
    Ends target (captureItem (memoryItem fields) caller)
      (follow (ObservationKind.memory.check (arranged target fields) target.maximum {})
        fun _ => follow (contextIn target (.object fields)) fun _ => answer) := by
  refine Ends.then (ends_reads fun _ => rfl) (Ends.entitled ?_ hcaller)
  refine Ends.then (ends_reads fun _ => rfl) ?_
  show Ends target (match target.state.stopId with
    | none => _
    | some stopId => _) _
  rw [target.stopped]
  refine Ends.then (ends_reads fun _ => rfl) ?_
  have hparse : ObservationRequest.parse (memoryItem fields) target.stopId {} target.maximum
      .null = _ := parse_memoryItem haccepted
  show Ends target (ofExcept (ObservationRequest.parse (memoryItem fields) target.stopId {}
    target.maximum .null) >>= _) _
  rw [hparse]
  cases ObservationKind.memory.check (arranged target fields) target.maximum {} with
  | error e => exact (ends_ofExcept (.error e)).bind_error
  | ok budgets =>
    have hcontext : contextIn target (.object (arranged target fields)) =
        contextIn target (.object fields) := by
      rw [contextIn, SessionState.requestObservation, ofJson_arranged]
      rfl
    rw [← hcontext]
    exact (ends_pure _).then (ends_step.then ((ends_resolveContext _).bind fun _ _ => hobserved))

/-- A caller without the right to the profile makes no observation. -/
lemma ends_captureItem_unentitled (hcaller : ¬ Entitled target caller) :
    Ends target (captureItem (memoryItem fields) caller) (.error unentitled, []) :=
  Ends.then (ends_reads fun _ => rfl) (ends_unentitled hcaller)

/-- An expression is evaluated first; what it leads to takes its place. -/
def resolvedIn (target : StoppedTarget) (parameters : Json) : Except Error Json :=
  match (parameters.get "address_expression").bind asStr with
  | some expression => evaluationCommand target.state parameters expression >>= fun _ =>
    addressOf target expression >>= fun address => .ok (withAddress parameters address)
  | none => .ok parameters

/-- The resolved address is classified and read. -/
lemma ends_observationMemoryRead {parameters : Json}
    (h : requireStoppedContext parameters target.state = .ok ()) {answer : Json → Answer Unit}
    (hread : ∀ resolved, resolvedIn target parameters = .ok resolved →
      Ends target (memoryRead resolved) (answer resolved)) :
    Ends target (observationMemoryRead parameters)
      (follow (resolvedIn target parameters) fun resolved =>
        follow (memoryRange resolved "address") fun range =>
          follow (permission target range.1 range.2) fun _ => answer resolved) := by
  have hresolves : Ends target (resolveAddress target.state parameters)
      (resolvedIn target parameters, []) := by
    unfold resolveAddress resolvedIn
    generalize (parameters.get "address_expression").bind asStr = expression
    cases expression with
    | some expression =>
      exact (ends_ofExcept _).bind_pure fun _ => (ends_evaluateAddress _).bind_pure fun _ =>
        ends_pure _
    | none => exact ends_pure _
  refine (ends_stoppedState h).then (ends_step.then (hresolves.bind fun resolved hresolved => ?_))
  rw [← follow_bind]
  exact (ends_authorizeObservationMemory resolved).bind fun _ _ => hread resolved hresolved

/-- Whatever the address of the item is, its read is served. -/
lemma ends_observed (h : Readable target (.object fields) length) :
    Ends target (observationMemoryRead (.object fields))
      (follow (resolvedIn target (.object fields)) fun resolved =>
        follow (memoryRange resolved "address") fun range =>
          follow (permission target range.1 range.2) fun _ =>
            follow (addressIn target resolved) fun address => readAnswer target address length) := by
  refine ends_observationMemoryRead h.stopped fun resolved hresolved => ?_
  unfold resolvedIn at hresolved
  split at hresolved
  · obtain ⟨_, -, hresolved⟩ := except_bind_ok hresolved
    obtain ⟨address, -, hresolved⟩ := except_bind_ok hresolved
    obtain rfl := Except.ok.inj hresolved
    exact (h.withAddress address).ends_memoryRead
  · obtain rfl := Except.ok.inj hresolved
    exact h.ends_memoryRead

end Item

/-! ### Agreement -/

/-- Where an expression leads an item: it is checked, the selectors are resolved, and then it is
evaluated as for a request. -/
def expressionStart (target : StoppedTarget) (fields : List (String × Json)) (expression : String) :
    Except Error ℕ :=
  validateExpression expression >>= fun _ => contextIn target (.object fields) >>= fun _ =>
    evaluationCommand target.state (.object fields) expression >>= fun _ =>
      addressOf target expression

/-- When a request and an item for the same range agree.  A literal address is malformed, or the
selectors are resolved, or the request is refused before its read with the code with which the
selectors of the item are.  An expression is evaluated for a profile that may read volatile memory,
or what stands before the read of the item fails with `INVALID_ARGUMENT`, as the request does. -/
def Concord (target : StoppedTarget) (fields : List (String × Json)) (length : ℕ) : Prop :=
  match (lookup fields "address").bind asStr with
  | some text => ∀ start, Address.parse text = .ok start →
      contextIn target (.object fields) = .ok () ∨
        ∃ e e', contextIn target (.object fields) = .error e ∧
          refusal target start length = .error e' ∧ e.code = e'.code
  | none => ReadsVolatile target.profile ∨
      ∀ expression, (lookup fields "address_expression").bind asStr = some expression →
        ∃ e, (expressionStart target fields expression >>= fun start =>
          refusal target start length) = .error e ∧ e.code = .invalidArgument

/-- The two ways to a literal address: the selectors are resolved behind the read, or before it. -/
lemma like_served_iff {target : StoppedTarget} {address : Except Error ℕ} {length : ℕ}
    {context : Except Error Unit} :
    Like (served target address length context)
        (follow address fun _ => follow context fun _ => served target address length (.ok ())) ↔
      ∀ start, address = .ok start → context = .ok () ∨ ∃ e e', context = .error e ∧
        refusal target start length = .error e' ∧ e.code = e'.code := by
  cases address with
  | error e => exact iff_of_true ⟨rfl, rfl⟩ (by simp)
  | ok start =>
    cases context with
    | ok => exact iff_of_true ⟨rfl, rfl⟩ (by simp)
    | error e =>
      simp only [served, follow, Except.ok.injEq, forall_eq', reduceCtorEq, false_or,
        Except.error.injEq]
      cases refusal target start length with
      | error e' => simp [Like, codeOf, eq_comm]
      | ok => simp [Like]

/-- An item is refused like a request exactly if it fails before its read. -/
lemma like_refused_iff {target : StoppedTarget} {start : Except Error ℕ} {length : ℕ} {e : Error} :
    Like (.error e, []) (served target start length (.ok ())) ↔
      ∃ e', (start >>= fun start => refusal target start length) = .error e' ∧
        e'.code = e.code := by
  cases start with
  | error e' => simp [served, follow, Like, codeOf, bind, Except.bind, eq_comm]
  | ok start =>
    simp only [served, follow, bind, Except.bind]
    cases refusal target start length with
    | error e' => simp [Like, codeOf, eq_comm]
    | ok => simp [Like]

section Agreement

variable {target : StoppedTarget} {request : ApiRequest} {caller : Caller}
  {fields : List (String × Json)} {length : ℕ}

/-- A request and an item for the same range of the same target. -/
structure Paired (target : StoppedTarget) (request : ApiRequest) (fields : List (String × Json))
    (length : ℕ) : Prop where
  method : request.method = .memoryRead
  parameters : request.parameters = .object fields
  contract : CanonicalMethod.memoryRead.validateParameters (.object fields) = .ok ()
  stopped : requireStoppedContext (.object fields) target.state = .ok ()
  length_eq : (lookup fields "length").bind Json.asUnsigned = some length
  positive : 0 < length
  within : length ≤ target.maximum

namespace Paired

variable (h : Paired target request fields length)
include h

/-- The contract accepts the parameters. -/
lemma accepted : CanonicalMethod.memoryRead.contract.Accepted fields := by
  obtain ⟨object, hobject, haccepted⟩ := MethodContract.validate_ok_iff.mp h.contract
  obtain rfl := Json.object.inj hobject
  exact haccepted

/-- `memory_read` takes the parameters as far as their address. -/
lemma readable : Readable target (.object fields) length where
  encoding := checkEncoding_of_accepted h.accepted
  stopped := h.stopped
  length_eq := h.length_eq
  positive := h.positive
  within := h.within

/-- It takes those of the item, too. -/
lemma readable_item : Readable target (.object (arranged target fields)) length :=
  readable_arranged h.accepted h.length_eq h.positive h.within

/-- A literal address is checked with the plan. -/
lemma check_literal {text : String} (htext : lookup fields "address" = some (.string text))
    (hnone : lookup fields "address_expression" = none) :
    ObservationKind.memory.check (arranged target fields) target.maximum {} =
      (Address.parse text >>= fun _ => .ok ⟨length, 0⟩) := by
  rw [check_arranged h.length_eq h.positive h.within, checkAddress, htext, hnone]
  show ((Address.parse text >>= fun _ => .ok ()) >>= _) = _
  cases Address.parse text with
  | error e => rfl
  | ok address => rfl

/-- An expression is checked with the plan. -/
lemma check_expression {expression : String} (hnone : lookup fields "address" = none)
    (hexpression : lookup fields "address_expression" = some (.string expression)) :
    ObservationKind.memory.check (arranged target fields) target.maximum {} =
      (validateExpression expression >>= fun _ => .ok ⟨length, 0⟩) := by
  rw [check_arranged h.length_eq h.positive h.within, checkAddress, hnone, hexpression]
  show (validateExpressions [expression] >>= fun _ => Except.ok (Budgets.mk length 0)) = _
  rw [validateExpressions]
  cases validateExpression expression with
  | error e => rfl
  | ok => rfl

section Literal

variable {text : String} (htext : lookup fields "address" = some (.string text))
  (hnone : lookup fields "address_expression" = none) (hcaller : Entitled target caller)
include htext hnone hcaller

/-- How the request ends whose address is literal. -/
lemma dispatch_literal : EndsLike target (dispatch request caller)
    (served target (Address.parse text) length (contextIn target (.object fields))) := by
  have hliteral : Literal (.object fields) text :=
    ⟨by rw [Json.get, hnone]; rfl, by rw [Json.get, htext]; rfl⟩
  have hdispatch := ends_dispatch h.method h.parameters h.contract hcaller
    h.readable.ends_memoryRead
  by_cases hprofile : ReadsVolatile target.profile
  · rw [if_pos hprofile] at hdispatch
    exact Ends.like_literal hliteral hprofile hdispatch
  · rw [if_neg hprofile] at hdispatch
    exact h.readable.endsLike_classified hliteral _ hdispatch

/-- How the item ends whose address is literal: its selectors are resolved first. -/
lemma item_literal : EndsLike target (captureItem (memoryItem fields) caller)
      (follow (Address.parse text) fun _ => follow (contextIn target (.object fields)) fun _ =>
        served target (Address.parse text) length (.ok ())) := by
  have hliteral : Literal (.object (arranged target fields)) text :=
    ⟨by rw [get_item (by decide), hnone]; rfl, by rw [get_item (by decide), htext]; rfl⟩
  have hitem := ends_captureItem h.accepted hcaller (ends_observed h.readable_item)
  rw [h.check_literal htext hnone, follow_bind, resolvedIn, hliteral.expression] at hitem
  refine hitem.like_follow fun _ _ hitem => Ends.like_follow hitem fun _ _ hitem => ?_
  exact h.readable_item.endsLike_classified hliteral (.ok ()) (by rw [attribution_ok]; exact hitem)

end Literal

section Expression

variable {expression : String} (hnone : lookup fields "address" = none)
  (hexpression : lookup fields "address_expression" = some (.string expression))
  (hcaller : Entitled target caller)
include hnone hexpression hcaller

/-- How the item ends whose address is an expression. -/
lemma item_expression : EndsLike target (captureItem (memoryItem fields) caller)
      (served target (expressionStart target fields expression) length (.ok ())) := by
  have hcommand : evaluationCommand target.state (.object (arranged target fields)) expression =
      evaluationCommand target.state (.object fields) expression := by
    rw [evaluationCommand_eq h.readable_item.stopped, evaluationCommand_eq h.readable.stopped,
      ofJson_arranged]
  have hresolved : resolvedIn target (.object (arranged target fields)) =
      (evaluationCommand target.state (.object fields) expression >>= fun _ =>
        addressOf target expression >>= fun address =>
          .ok (withAddress (.object (arranged target fields)) address)) := by
    rw [resolvedIn, get_item (by decide), hexpression, ← hcommand]
    rfl
  have hitem := ends_captureItem h.accepted hcaller (ends_observed h.readable_item)
  rw [h.check_expression hnone hexpression, follow_bind, hresolved] at hitem
  unfold served expressionStart
  simp only [follow_bind] at hitem ⊢
  refine hitem.like_follow fun _ _ hitem => Ends.like_follow hitem fun _ _ hitem => ?_
  refine hitem.like_follow fun _ _ hitem => hitem.like_follow fun address hfound hitem => ?_
  have hliteral : Literal (withAddress (.object (arranged target fields)) address)
      (addressText address) := by
    constructor <;> simp [withAddress, Json.get, lookup_set, lookup_erase, asStr]
  have hserved := (h.readable_item.withAddress address).endsLike_classified hliteral (.ok ())
    (by rw [attribution_ok]; exact hitem)
  rwa [parse_addressText_eq (addressOf_lt hfound)] at hserved

omit hnone hcaller in
/-- The request finds the same address, and fails before its read where the selectors are not
resolved. -/
lemma served_expression :
    served target (addressIn target (.object fields)) length (contextIn target (.object fields)) =
      served target (expressionStart target fields expression) length (.ok ()) := by
  have haddress : addressIn target (.object fields) =
      (validateExpression expression >>= fun _ =>
        evaluationCommand target.state (.object fields) expression >>= fun _ =>
          addressOf target expression) := by
    rw [addressIn, Json.get, hexpression]
    rfl
  rw [haddress, expressionStart]
  cases validateExpression expression with
  | error e => rfl
  | ok =>
    cases hcontext : contextIn target (.object fields) with
    | ok => rfl
    | error e =>
      -- the command cannot be built either
      have hresolve : target.state.resolveCommandContext (.ofJson (.object fields)) = .error e := by
        rw [contextIn, SessionState.requestObservation] at hcontext
        cases hresolve : target.state.resolveCommandContext (.ofJson (.object fields)) with
        | error e' =>
          rw [hresolve] at hcontext
          rw [Except.error.inj hcontext]
        | ok context =>
          rw [hresolve] at hcontext
          cases hcontext
      rw [evaluationCommand_eq h.readable.stopped, hresolve]
      rfl

/-- An expression leads both to the same address, if the request is not classified before. -/
lemma agree_expression (hprofile : ReadsVolatile target.profile) :
    Agree (dispatch request caller target.host [])
      (captureItem (memoryItem fields) caller target.host []) := by
  have hdispatch := ends_dispatch h.method h.parameters h.contract hcaller
    h.readable.ends_memoryRead
  rw [if_pos hprofile, ← served_of_readsVolatile hprofile, h.served_expression hexpression]
    at hdispatch
  exact (agree_iff hdispatch.like (h.item_expression hnone hexpression hcaller)).mpr ⟨rfl, rfl⟩

/-- Where the request is classified before, an expression is no address for it. -/
lemma agree_expression_iff (hprofile : ¬ ReadsVolatile target.profile) :
    Agree (dispatch request caller target.host [])
        (captureItem (memoryItem fields) caller target.host []) ↔
      ∃ e, (expressionStart target fields expression >>= fun start =>
        refusal target start length) = .error e ∧ e.code = .invalidArgument := by
  have hdispatch := ends_dispatch h.method h.parameters h.contract hcaller
    h.readable.ends_memoryRead
  have hrange : memoryRange (.object fields) "address" =
      .error { code := .invalidArgument, message := "memory address is required" } := by
    unfold memoryRange
    rw [Json.get, hnone]
    rfl
  rw [if_neg hprofile, hrange] at hdispatch
  exact (agree_iff hdispatch.like (h.item_expression hnone hexpression hcaller)).trans
    like_refused_iff

end Expression

end Paired

end Agreement

end Access

/-- A process that is stopped at `s1`, under the profile `liveObserver`: expressions lead to its
program at `0x1000`. -/
def observedTarget : StoppedTarget where
  profile := .liveObserver
  maximum := 1024 * 1024
  state := { SessionState.creating ⟨"session"⟩ with
    stopId := some ⟨"s1"⟩
    targetOrigin := .local
    inferiors := (∅ : Registry InferiorState).insert "i1"
      ⟨⟨"i1"⟩, "i1", some 7, 1, .stopped, none, ∅⟩ }
  stopId := ⟨"s1"⟩
  stopped := rfl
  maps := fun pid => if pid = 7 then some "1000-2000 r--p 0 08:01 9 /bin/x\n" else none
  value := fun _ => .ok (some "0x1000")
  contents := fun _ _ => .ok ()

/-- Eight bytes at an address that is given in one of the two ways. -/
def eightBytes (field text : String) : List (String × Json) :=
  [("stop_id", .string "s1"), (field, .string text), ("length", .unsigned 8)]

/-- The request for these bytes. -/
def eightBytesRequest (field text : String) : ApiRequest where
  requestId := "r1"
  sessionId := some "session"
  method := .memoryRead
  parameters := .object (eightBytes field text)

end GdbAi
