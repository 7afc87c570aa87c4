import GdbAi.Gateway.Protocol

/-!
# Retry keys

`dispatch_inner` of `gdb-ai-core/src/gateway.rs` looks a request up under its retry key: the
principal, the session, the method and the key of the client, joined by colons, with the mode of
an Agent request in front.  The text is read back only when mode and principal of one request
with their colon do not begin those of the other, and the session has no colon and is not called
`global`, which stands for no session.
-/

namespace GdbAi

/-- `idempotency_key`. -/
def idempotencyKey (request : ApiRequest) (caller : Caller) : String :=
  principalIdentity caller.identity ++ ":" ++ request.sessionId.getD "global" ++ ":" ++
    request.method.asStr ++ ":" ++ request.idempotencyKey.getD ""

/-- The retry key that `dispatch_inner` computes; a request without a key of its own has none. -/
def retryKey (request : ApiRequest) (caller : Caller) (mode : RequestMode) : Option String :=
  request.idempotencyKey.map fun _ =>
    match mode with
    | .canonical => idempotencyKey request caller
    | .agent => "agent:" ++ idempotencyKey request caller

/-- The part in front of the principal. -/
def RequestMode.tag : RequestMode → List Char
  | .canonical => []
  | .agent => "agent".toList ++ [':']

/-- What stands in front of the session: the mode and the principal, with the colon behind it. -/
def keyFront (caller : Caller) (mode : RequestMode) : List Char :=
  mode.tag ++ (principalIdentity caller.identity).toList ++ [':']

/-- Neither front begins the other one, unless mode and principal are the same. -/
def FrontsApart (caller caller' : Caller) (mode mode' : RequestMode) : Prop :=
  keyFront caller mode <+: keyFront caller' mode' ∨
      keyFront caller' mode' <+: keyFront caller mode →
    mode = mode' ∧ principalIdentity caller.identity = principalIdentity caller'.identity

/-- The session can be told from what follows it, and from no session. -/
def Separable (request : ApiRequest) : Prop :=
  ∀ id, request.sessionId = some id → ':' ∉ id.toList ∧ id ≠ "global"

/-! ### Reading a key back -/

/-- The characters of a key, part by part. -/
lemma retryKey_eq_some {request : ApiRequest} {caller : Caller} {mode : RequestMode} {key : String}
    (h : retryKey request caller mode = some key) :
    ∃ client, request.idempotencyKey = some client ∧
      key.toList = keyFront caller mode ++ ((request.sessionId.getD "global").toList ++ ':' ::
        (request.method.asStr.toList ++ ':' :: client.toList)) := by
  obtain ⟨client, hclient, rfl⟩ := Option.map_eq_some_iff.mp h
  refine ⟨client, hclient, ?_⟩
  cases mode <;> simp [idempotencyKey, keyFront, RequestMode.tag, hclient, String.toList_append]

/-- The text of the session part determines the session. -/
lemma sessionPart_injective {left right : ApiRequest} (hleft : Separable left)
    (hright : Separable right)
    (h : left.sessionId.getD "global" = right.sessionId.getD "global") :
    left.sessionId = right.sessionId := by
  cases hl : left.sessionId with
  | none =>
    cases hr : right.sessionId with
    | none => rfl
    | some id =>
      rw [hl, hr] at h
      exact absurd h.symm (hright id hr).2
  | some id =>
    cases hr : right.sessionId with
    | none =>
      rw [hl, hr] at h
      exact absurd h (hleft id hl).2
    | some id' =>
      rw [hl, hr] at h
      exact congrArg some h

/-- The session part has no colon. -/
lemma Separable.session_notMem {request : ApiRequest} (h : Separable request) :
    ':' ∉ (request.sessionId.getD "global").toList := by
  cases hid : request.sessionId with
  | none => decide
  | some id => exact (h id hid).1

/-- Two keys with the same text have the same mode and principal in front: both fronts begin that
text, so one of them begins the other. -/
lemma FrontsApart.eq {caller caller' : Caller} {mode mode' : RequestMode} {x x' : List Char}
    (hapart : FrontsApart caller caller' mode mode')
    (h : keyFront caller mode ++ x = keyFront caller' mode' ++ x') :
    mode = mode' ∧ principalIdentity caller.identity = principalIdentity caller'.identity ∧
      x = x' := by
  have hfront' : keyFront caller' mode' <+: keyFront caller mode ++ x := h ▸ List.prefix_append _ _
  obtain ⟨rfl, hprincipal⟩ :=
    hapart (List.prefix_or_prefix_of_prefix (List.prefix_append _ _) hfront')
  have hfront : keyFront caller mode = keyFront caller' mode := by
    rw [keyFront, keyFront, hprincipal]
  exact ⟨rfl, hprincipal, List.append_cancel_left (hfront ▸ h)⟩

/-! ### Who shares a key -/

/-- Requests whose fronts are apart and whose sessions can be told share a retry key only if mode,
principal, session, method and client key are the same. -/
theorem retryKey_isolates {left right : ApiRequest} {caller caller' : Caller}
    {mode mode' : RequestMode} {key : String} (hapart : FrontsApart caller caller' mode mode')
    (hleft : Separable left) (hright : Separable right)
    (h : retryKey left caller mode = some key) (h' : retryKey right caller' mode' = some key) :
    mode = mode' ∧ principalIdentity caller.identity = principalIdentity caller'.identity ∧
      left.sessionId = right.sessionId ∧ left.method = right.method ∧
      left.idempotencyKey = right.idempotencyKey := by
  obtain ⟨client, hclient, htext⟩ := retryKey_eq_some h
  obtain ⟨client', hclient', htext'⟩ := retryKey_eq_some h'
  obtain ⟨hmode, hprincipal, hrest⟩ := hapart.eq (htext.symm.trans htext')
  obtain ⟨hsession, hrest⟩ :=
    Numerals.split_first hleft.session_notMem hright.session_notMem hrest
  obtain ⟨hmethod, hkey⟩ :=
    Numerals.split_first left.method.colon_notMem right.method.colon_notMem hrest
  refine ⟨hmode, hprincipal, ?_, ?_, ?_⟩
  · exact sessionPart_injective hleft hright (String.toList_inj.mp hsession)
  · exact CanonicalMethod.asStr_injective (String.toList_inj.mp hmethod)
  · rw [hclient, hclient', String.toList_inj.mp hkey]

/-- A request to read memory with a key of the client. -/
def retriedRead (session : Option String) : ApiRequest where
  requestId := "req_1"
  sessionId := session
  method := .memoryRead
  idempotencyKey := some "k"
  parameters := .object []

/-- Two clients of one user of the Unix socket share a key, and agree in all five parts. -/
theorem retryKey_isolates_client :
    retryKey (retriedRead (some "sess_1")) ⟨"unix:uid:1000/mcp:one", false⟩ .agent =
        retryKey (retriedRead (some "sess_1")) ⟨"unix:uid:1000/mcp:two", false⟩ .agent ∧
      principalIdentity "unix:uid:1000/mcp:one" = principalIdentity "unix:uid:1000/mcp:two" := by
  have hapart : FrontsApart ⟨"unix:uid:1000/mcp:one", false⟩ ⟨"unix:uid:1000/mcp:two", false⟩
      .agent .agent := fun _ => ⟨rfl, by decide⟩
  have hseparable : Separable (retriedRead (some "sess_1")) := by
    intro id hid
    obtain rfl := Option.some.inj hid
    decide
  have hone : retryKey (retriedRead (some "sess_1")) ⟨"unix:uid:1000/mcp:one", false⟩ .agent =
      some "agent:unix:uid:1000:sess_1:memory.read:k" := by decide
  have htwo : retryKey (retriedRead (some "sess_1")) ⟨"unix:uid:1000/mcp:two", false⟩ .agent =
      some "agent:unix:uid:1000:sess_1:memory.read:k" := by decide
  exact ⟨hone.trans htwo.symm, (retryKey_isolates hapart hseparable hseparable hone htwo).2.1⟩

/-- Two principals, two sessions and two modes that share a retry key: a colon moves a part of
the session into the principal, a session called `global` is no session, and a principal can
carry the mark of the mode. -/
theorem retryKey_collisions :
    (retryKey (retriedRead (some "c")) ⟨"a:b", false⟩ .canonical =
        retryKey (retriedRead (some "b:c")) ⟨"a", false⟩ .canonical ∧
      principalIdentity "a:b" ≠ principalIdentity "a") ∧
    retryKey (retriedRead none) ⟨"a", false⟩ .canonical =
      retryKey (retriedRead (some "global")) ⟨"a", false⟩ .canonical ∧
    retryKey (retriedRead none) ⟨"agent:a", false⟩ .canonical =
      retryKey (retriedRead none) ⟨"a", false⟩ .agent := by
  decide

end GdbAi
