import GdbAi.Gateway.CommandContext
import GdbAi.Reducer.Handles

/-!
# Frame handles

A frame handle joins a thread handle, a stop handle and a level with underscores.  Decoding tries
the handles of every registered thread at the current stop.  What it accepts ends in a numeral
behind the last underscore and in the number of the stop before that, so the handle determines the
level, the stop and the thread, in either format; a handle of another stop or of a thread that is
gone is not found.

Resolution of a found handle still asks for the thread of the stop, and fails when that thread is
no longer registered.
-/

namespace GdbAi

open Runs

/-- The parameters of a request with a frame handle alone. -/
def ContextParameters.ofFrame (id : FrameId) : ContextParameters where
  frameId := some id.text

/-! ### Numerals read back -/

/-- The digits of a numeral give its number. -/
lemma foldl_digits (n : ℕ) :
    (toString n).toList.foldl (fun number digit => number * 10 + (digit.toNat - 48)) 0 = n := by
  have hdigits : Nat.ofDigitChars 10 (Nat.toDigits 10 n) 0 = n :=
    Nat.ofDigitChars_toDigits (by decide) (by decide)
  rw [Nat.toString_eq_repr, Nat.toList_repr]
  simp only [Nat.ofDigitChars, Nat.mul_comm 10] at hdigits
  exact hdigits

lemma parseUnsigned_toString {bound n : ℕ} (h : n < bound) :
    parseUnsigned bound (toString n) = some n := by
  have hall : (toString n).toList.all Char.isDigit = true :=
    List.all_eq_true.mpr fun c hc => Numerals.isDigit_of_mem hc
  have hvalue := foldl_digits n
  unfold parseUnsigned
  cases hdigits : (toString n).toList with
  | nil => exact absurd hdigits (Numerals.toString_ne_nil n)
  | cons digit digits =>
    rw [hdigits] at hall hvalue
    -- a numeral starts with a digit, not with a sign
    have hsign : digit ≠ '+' := by
      rintro rfl
      have hplus := List.all_eq_true.mp hall '+' List.mem_cons_self
      exact absurd hplus (by decide)
    split
    · rename_i rest hcons
      exact absurd (List.cons.inj hcons).1 hsign
    · simp [hall, hvalue, h]

/-- A number is read from digits behind an optional sign, never from an underscore. -/
lemma separator_notMem_of_parseUnsigned {bound n : ℕ} {value : String}
    (h : parseUnsigned bound value = some n) : '_' ∉ value.toList := by
  have hdigits : ∀ {digits : List Char} {x : Option ℕ},
      (if digits ≠ [] && digits.all Char.isDigit then x else none) = some n → '_' ∉ digits := by
    intro digits x hread hmem
    split at hread
    · rename_i hboth
      rw [Bool.and_eq_true] at hboth
      exact absurd (List.all_eq_true.mp hboth.2 '_' hmem) (by decide)
    · cases hread
  unfold parseUnsigned at h
  dsimp only at h
  split at h
  · rename_i rest hvalue
    rw [hvalue]
    simpa using hdigits h
  · exact hdigits h

/-! ### The handle in front of the level -/

/-- A frame handle without its level. -/
def frameLead (thread : ThreadId) (stop : StopId) : String :=
  (if (stripPrefix "thr_" thread.text).isSome || (stripPrefix "stop_" stop.text).isSome then "frm_"
    else "f") ++ thread.text ++ "_" ++ stop.text

lemma FrameId.new_text (thread : ThreadId) (stop : StopId) (level : ℕ) :
    (FrameId.new thread stop level).text = frameLead thread stop ++ "_" ++ toString level := by
  unfold FrameId.new frameLead
  split <;> rfl

lemma stripPrefix_eq_some {lead value : String} {rest : List Char} :
    stripPrefix lead value = some rest ↔ value.toList = lead.toList ++ rest := by
  unfold stripPrefix
  constructor
  · intro h
    split at h
    · rename_i hstarts
      obtain ⟨tail, htail⟩ := List.isPrefixOf_iff_prefix.mp hstarts
      have hrest := Option.some.inj h
      rw [← htail, List.drop_left] at hrest
      rw [← htail, hrest]
    · cases h
  · intro h
    have hstarts : lead.toList.isPrefixOf value.toList = true :=
      List.isPrefixOf_iff_prefix.mpr ⟨rest, h.symm⟩
    rw [if_pos hstarts, h, List.drop_left]

/-- What stands before the level `0` is what stands before every level. -/
lemma dropLast_new (thread : ThreadId) (stop : StopId) :
    String.ofList (FrameId.new thread stop 0).text.toList.dropLast =
      frameLead thread stop ++ "_" := by
  have hzero : (toString 0).toList = ['0'] := by decide
  rw [FrameId.new_text, String.toList_append, hzero, List.dropLast_concat, String.ofList_toList]

/-- The text is a handle of the frame, with any numeral for its level. -/
def FrameOf (thread : ThreadId) (stop : StopId) (level : ℕ) (handle : String) : Prop :=
  ∃ numeral, handle = frameLead thread stop ++ "_" ++ numeral ∧
    parseUnsigned (2 ^ 64) numeral = some level

/-- The handle that is minted for a frame is one of its handles. -/
lemma FrameOf.new (thread : ThreadId) (stop : StopId) {level : ℕ} (h : level < 2 ^ 64) :
    FrameOf thread stop level (FrameId.new thread stop level).text :=
  ⟨_, FrameId.new_text thread stop level, parseUnsigned_toString h⟩

/-- A handle has one level, and one text in front of it. -/
lemma FrameOf.split {thread thread' : ThreadId} {stop stop' : StopId} {level level' : ℕ}
    {handle : String} (h : FrameOf thread stop level handle)
    (h' : FrameOf thread' stop' level' handle) :
    frameLead thread stop = frameLead thread' stop' ∧ level = level' := by
  obtain ⟨numeral, rfl, hparse⟩ := h
  obtain ⟨numeral', htext, hparse'⟩ := h'
  have hlist := congrArg String.toList htext
  simp only [String.toList_append, List.append_assoc] at hlist
  obtain ⟨hlead, hnumeral⟩ := Numerals.split_last (separator_notMem_of_parseUnsigned hparse)
    (separator_notMem_of_parseUnsigned hparse') hlist
  obtain rfl := String.toList_injective hnumeral
  exact ⟨String.toList_injective hlead, Option.some.inj (hparse.symm.trans hparse')⟩

/-- A handle decodes at the threads whose frame it is. -/
lemma decodeFrame_eq_some {stop : StopId} {frame b : String} {thread : ThreadState} {level : ℕ} :
    decodeFrame stop frame thread = some (b, level) ↔
      FrameOf thread.id stop level frame ∧ thread.backendId = b := by
  unfold decodeFrame FrameOf
  simp only [dropLast_new, Option.bind_eq_some_iff, Option.map_eq_some_iff, Prod.mk.injEq,
    stripPrefix_eq_some]
  constructor
  · rintro ⟨rest, hframe, parsed, hparse, rfl, rfl⟩
    refine ⟨⟨String.ofList rest, String.toList_injective ?_, hparse⟩, rfl⟩
    rw [hframe, String.toList_append (s := frameLead thread.id stop ++ "_"), String.toList_ofList]
  · rintro ⟨⟨rest, rfl, hparse⟩, rfl⟩
    refine ⟨rest.toList, String.toList_append, level, ?_, rfl, rfl⟩
    rw [String.ofList_toList]
    exact hparse

/-! ### Handles of one session -/

/-- A thread handle of the session. -/
def ThreadId.OfSession (session : SessionId) (id : ThreadId) : Prop :=
  ∃ generation k n t, id = ThreadId.fromBackend (.fromBackend session generation k) n t

variable {session : SessionId}

/-- The handles of a legacy session are marked, those of a compact one are not. -/
lemma frameLead_legacy (h : session.usesCompactHandles = false) (id : ThreadId) (n : ℕ) :
    frameLead id (.fromEvent session n) =
      "frm_" ++ id.text ++ ("_stop_" ++ session.text) ++ "_" ++ toString n := by
  have hstop : (StopId.fromEvent session n).text = "stop_" ++ (session.text ++ "_" ++ toString n) := by
    unfold StopId.fromEvent
    simp only [h, Bool.false_eq_true, if_false, String.append_assoc]
  unfold frameLead
  rw [hstop, stripPrefix_append, Option.isSome_some, Bool.or_true, if_pos rfl]
  simp only [String.append_assoc]
  rfl

lemma frameLead_compact (h : session.usesCompactHandles = true) {id : ThreadId}
    (hid : id.OfSession session) (n : ℕ) :
    frameLead id (.fromEvent session n) = "f" ++ id.text ++ "_" ++ ("s" ++ toString n) := by
  obtain ⟨generation, k, m, t, rfl⟩ := hid
  have hstop : StopId.fromEvent session n = ⟨"s" ++ toString n⟩ := if_pos h
  have hunmarked : stripPrefix "stop_" ("s" ++ toString n ++ "") = none :=
    stripPrefix_numeral (by decide : "stop_".toList = ['s', 't', 'o', 'p', '_']) (by decide)
      (by decide) n _
  have hthread : (ThreadId.fromBackend (.fromBackend session generation k) m t).text =
      "t" ++ toString m ++ ("_" ++ safeComponent t) := by
    unfold ThreadId.fromBackend
    rw [InferiorId.compact_not_legacy h]
    simp only [Bool.false_eq_true, if_false, String.append_assoc]
  have hunmarked' : stripPrefix "thr_" ("t" ++ toString m ++ ("_" ++ safeComponent t)) = none :=
    stripPrefix_numeral (by decide : "thr_".toList = ['t', 'h', 'r', '_']) (by decide)
      (by decide) m _
  rw [String.append_empty] at hunmarked
  unfold frameLead
  rw [hstop, hthread, hunmarked, hunmarked']
  rfl

/-- The text in front of the level determines the stop and the thread. -/
lemma frameLead_inj {id id' : ThreadId} {n m : ℕ} (hid : id.OfSession session)
    (hid' : id'.OfSession session)
    (h : frameLead id (.fromEvent session n) = frameLead id' (.fromEvent session m)) :
    id = id' ∧ n = m := by
  cases hcompact : session.usesCompactHandles with
  | false =>
    rw [frameLead_legacy hcompact, frameLead_legacy hcompact] at h
    obtain ⟨htext, hnumber⟩ := Numerals.trailing h
    have hlist := congrArg String.toList htext
    simp only [String.toList_append, List.append_assoc, List.append_cancel_left_eq,
      List.append_cancel_right_eq] at hlist
    exact ⟨congrArg ThreadId.mk (String.toList_injective hlist), hnumber⟩
  | true =>
    rw [frameLead_compact hcompact hid, frameLead_compact hcompact hid'] at h
    have hlist := congrArg String.toList h
    simp only [String.toList_append, List.append_assoc] at hlist
    have hnumber : ∀ n : ℕ, '_' ∉ "s".toList ++ (toString n).toList := by
      intro n hmem
      rcases List.mem_append.mp hmem with hmem | hmem
      · exact absurd hmem (by decide)
      · exact Numerals.separator_notMem n hmem
    rw [← List.append_assoc, ← List.append_assoc "f".toList id'.text.toList] at hlist
    obtain ⟨hthread, hstop⟩ := Numerals.split_last (hnumber n) (hnumber m) hlist
    have htext := String.toList_injective (List.append_cancel_left hthread)
    have hnumeral := String.toList_injective (List.append_cancel_left hstop)
    exact ⟨congrArg ThreadId.mk htext, Numerals.toString_injective hnumeral⟩

namespace SessionState

variable {s : SessionState}

variable {thread : ThreadState}

/-- All threads are those that are registered. -/
lemma mem_allThreads : thread ∈ s.allThreads ↔ ∃ k i t, s.Holds k i t thread := by
  unfold allThreads
  rw [List.mem_flatMap]
  constructor
  · rintro ⟨⟨k, i⟩, hi, hthread⟩
    obtain ⟨⟨t, _⟩, ht, rfl⟩ := List.mem_map.mp hthread
    exact ⟨k, i, t, Std.ExtTreeMap.mem_toList_iff_getElem?_eq_some.mp hi,
      Std.ExtTreeMap.mem_toList_iff_getElem?_eq_some.mp ht⟩
  · rintro ⟨k, i, t, hi, ht⟩
    exact ⟨(k, i), Std.ExtTreeMap.mem_toList_iff_getElem?_eq_some.mpr hi, List.mem_map.mpr
      ⟨(t, thread), Std.ExtTreeMap.mem_toList_iff_getElem?_eq_some.mpr ht, rfl⟩⟩

/-- Every reachable state is identified. -/
lemma Reachable.identified (h : s.Reachable) : s.Identified := by
  obtain ⟨session, es, hrun⟩ := h
  exact (identified_creating session).run hrun

namespace Identified

variable (hs : s.Identified) {k k' t t' : String} {i i' : InferiorState} {thread' : ThreadState}
include hs

/-- A handle names one inferior. -/
lemma inferior_inj (hi : s.inferiors[k]? = some i) (hi' : s.inferiors[k']? = some i')
    (hid : i.id = i'.id) : k = k' ∧ i = i' := by
  have hgeneration := generation_eq_of_id hs (.nil s) hi hi' hid
  obtain rfl := hs.generations k k' i i' hi hi' hgeneration
  exact ⟨rfl, Option.some.inj (hi.symm.trans hi')⟩

/-- A handle names one thread. -/
lemma thread_inj (hholds : s.Holds k i t thread) (hholds' : s.Holds k' i' t' thread')
    (hid : thread.id = thread'.id) : i = i' ∧ t = t' ∧ thread = thread' := by
  obtain ⟨rfl, -, rfl⟩ := same_thread_of_id hs (.nil s) hholds hholds' hid
  obtain rfl := Option.some.inj (hholds.1.symm.trans hholds'.1)
  exact ⟨rfl, rfl, Option.some.inj (hholds.2.symm.trans hholds'.2)⟩

/-- The search for the handle of an inferior finds that inferior. -/
lemma first_eq (hi : s.inferiors[k]? = some i) :
    (s.inferiors.first fun _ i' => i'.id = i.id) = some (k, i) := by
  cases hfirst : s.inferiors.first fun _ i' => i'.id = i.id with
  | none =>
    have hnot := Registry.first_eq_none hfirst hi
    simp at hnot
  | some found =>
    obtain ⟨hfound, hid⟩ := Registry.first_eq_some hfirst
    obtain ⟨hkey, hsame⟩ := hs.inferior_inj hfound hi (of_decide_eq_true hid)
    rw [← hkey, ← hsame]

/-- Threads are registered under their backend ids. -/
lemma backendId_eq (hholds : s.Holds k i t thread) : thread.backendId = t := by
  obtain ⟨n, -, hborn⟩ := hs.thread k i t thread hholds
  exact hborn.backendId

/-- The handles of registered threads belong to the session. -/
lemma ofSession (hholds : s.Holds k i t thread) : thread.id.OfSession s.sessionId := by
  obtain ⟨n, -, hborn⟩ := hs.thread k i t thread hholds
  have hid := (hs.inferior k i hholds.1).1
  exact ⟨i.generation, k, n, t, hid ▸ hborn.id⟩

end Identified

/-- Decoding finds exactly the registered thread whose handle it is, at the current stop. -/
lemma findSome?_decodeFrame (hs : s.Identified) {t : ThreadId} (ht : t.OfSession s.sessionId)
    {n m level : ℕ} (hlevel : level < 2 ^ 64) {b : String} {level' : ℕ}
    (h : s.allThreads.findSome? (decodeFrame (.fromEvent s.sessionId n)
      (FrameId.new t (.fromEvent s.sessionId m) level).text) = some (b, level')) :
    m = n ∧ level' = level ∧ ∃ k i key thread, s.Holds k i key thread ∧ thread.id = t ∧
      thread.backendId = b := by
  obtain ⟨thread, hmem, hdecode⟩ := List.exists_of_findSome?_eq_some h
  obtain ⟨k, i, key, hholds⟩ := mem_allThreads.mp hmem
  obtain ⟨hframe, rfl⟩ := decodeFrame_eq_some.mp hdecode
  obtain ⟨hlead, rfl⟩ := (FrameOf.new t _ hlevel).split hframe
  obtain ⟨hid, hnumber⟩ := frameLead_inj ht (hs.ofSession hholds) hlead
  exact ⟨hnumber, rfl, k, i, key, thread, hholds, hid.symm, rfl⟩

/-- The handle of a registered thread at the current stop decodes to that thread. -/
lemma findSome?_decodeFrame_current (hs : s.Identified) {k key : String} {i : InferiorState}
    (hholds : s.Holds k i key thread) {n level : ℕ} (hlevel : level < 2 ^ 64) :
    s.allThreads.findSome? (decodeFrame (.fromEvent s.sessionId n)
      (FrameId.new thread.id (.fromEvent s.sessionId n) level).text) =
        some (thread.backendId, level) := by
  cases hfind : s.allThreads.findSome? (decodeFrame (.fromEvent s.sessionId n)
      (FrameId.new thread.id (.fromEvent s.sessionId n) level).text) with
  | none =>
    have hnot := List.findSome?_eq_none_iff.mp hfind thread (mem_allThreads.mpr ⟨k, i, key, hholds⟩)
    rw [decodeFrame_eq_some.mpr ⟨.new thread.id _ hlevel, rfl⟩] at hnot
    cases hnot
  | some found =>
    obtain ⟨b, level'⟩ := found
    obtain ⟨-, rfl, k', i', key', thread', hholds', hid, rfl⟩ :=
      findSome?_decodeFrame hs (hs.ofSession hholds) hlevel hfind
    -- one state has no two threads with one handle
    obtain ⟨-, -, rfl⟩ := hs.thread_inj hholds' hholds hid
    rfl

/-- The thread of the stop, if there is one, is registered. -/
def StopThreadRegistered (s : SessionState) : Prop :=
  ∀ id, s.stoppedThreadId = some id → ∃ k i t thread, s.Holds k i t thread ∧ thread.id = id

/-- A thread handle leads to the backend id of the registered thread that has it. -/
lemma currentBackendThread_ok (hs : s.Identified) {handle b : String} :
    s.currentBackendThread handle = .ok b ↔
      ∃ k i thread, s.Holds k i b thread ∧ thread.id = ⟨handle⟩ := by
  unfold currentBackendThread
  cases hfind : s.allThreads.find? fun thread => thread.id.text = handle with
  | none =>
    constructor
    · rintro ⟨⟩
    · rintro ⟨k, i, thread, hholds, hid⟩
      have hnot := List.find?_eq_none.mp hfind thread (mem_allThreads.mpr ⟨k, i, b, hholds⟩)
      simp [hid] at hnot
  | some thread =>
    obtain ⟨k, i, t, hholds⟩ := mem_allThreads.mp (List.mem_of_find?_eq_some hfind)
    have htext := List.find?_some hfind
    have hid : thread.id = ⟨handle⟩ := congrArg ThreadId.mk (of_decide_eq_true htext)
    obtain rfl := hs.backendId_eq hholds
    constructor
    · intro hok
      obtain rfl := Except.ok.inj hok
      exact ⟨k, i, thread, hholds, hid⟩
    · rintro ⟨k', i', thread', hholds', hid'⟩
      obtain ⟨-, rfl, -⟩ := hs.thread_inj hholds hholds' (hid.trans hid'.symm)
      rfl

/-- The default thread is found exactly when the thread of the stop is registered. -/
lemma resolveDefaultThread_ok (hs : s.Identified) :
    (∃ default, s.resolveDefaultThread = .ok default) ↔ s.StopThreadRegistered := by
  unfold resolveDefaultThread StopThreadRegistered
  cases s.stoppedThreadId with
  | none => simp
  | some id =>
    constructor
    · rintro ⟨default, hok⟩ _ ⟨⟩
      cases hcurrent : s.currentBackendThread id.text with
      | ok b =>
        obtain ⟨k, i, thread, hthread⟩ := (currentBackendThread_ok hs).mp hcurrent
        exact ⟨k, i, b, thread, hthread⟩
      | error error =>
        simp only [hcurrent] at hok
        cases hok
    · intro hregistered
      obtain ⟨k, i, b, thread, hthread⟩ := hregistered id rfl
      have hcurrent := (currentBackendThread_ok hs).mpr ⟨k, i, thread, hthread⟩
      refine ⟨some b, ?_⟩
      simp only [hcurrent]
      rfl

/-- With a frame handle that decodes, resolution is up to the default thread. -/
lemma resolveCommandContext_ofFrame {id : FrameId} {b : String} {level : ℕ}
    (hframe : s.resolveFrame (.ofFrame id) = .ok (some b, some level)) (hlevel : level < 2 ^ 32) :
    s.resolveCommandContext (.ofFrame id) = s.resolveDefaultThread.map fun default =>
      { backendThread := some b, defaultThread := default, frameLevel := some level,
        observation := s.observationOf (some b) level } := by
  have hrequested : s.requestedThread (.ofFrame id) = .ok none := rfl
  have hrange : requireLevel (some level) = .ok level := if_pos hlevel
  unfold resolveCommandContext
  rw [hrequested, hframe]
  cases hdefault : s.resolveDefaultThread with
  | error error => rfl
  | ok default =>
    have htail : (requireLevel (some level) >>= fun l => pure {
        backendThread := some b, defaultThread := default, frameLevel := some level,
        observation := s.observationOf (some b) l }) = (.ok {
        backendThread := some b, defaultThread := default, frameLevel := some level,
        observation := s.observationOf (some b) level } : Except Error CommandContext) := by
      rw [hrange]
      rfl
    exact htail

/-- A frame handle that does not decode at the current stop makes every resolution stale. -/
lemma resolveCommandContext_stale {parameters : ContextParameters} {frame : String} {stop : StopId}
    (hframe : parameters.frameId = some frame) (hstop : s.stopId = some stop)
    (hnone : s.allThreads.findSome? (decodeFrame stop frame) = none) :
    ∃ message, s.resolveCommandContext parameters = .error ⟨.staleContext, message, false⟩ := by
  have hresolve : s.resolveFrame parameters =
      .error ⟨.staleContext, "frame handle is not current for this stop", false⟩ := by
    simp only [resolveFrame, hframe, hstop, hnone]
  unfold resolveCommandContext
  rw [hresolve]
  cases hrequested : s.requestedThread parameters with
  | ok requested => exact ⟨_, rfl⟩
  | error error =>
    -- the thread handle is looked up first, and is stale too
    unfold requestedThread currentBackendThread at hrequested
    split at hrequested
    · cases hrequested
    split at hrequested
    · cases hrequested
    · cases hrequested
      exact ⟨_, rfl⟩

/-- Without a stop no frame handle resolves. -/
lemma resolveCommandContext_running {parameters : ContextParameters} {frame : String}
    (hframe : parameters.frameId = some frame) (hstop : s.stopId = none) :
    ∃ error, s.resolveCommandContext parameters = .error error := by
  have hresolve : s.resolveFrame parameters =
      .error ⟨.targetRunning, "frame requires a stopped target", false⟩ := by
    simp only [resolveFrame, hframe, hstop]
  unfold resolveCommandContext
  rw [hresolve]
  cases s.requestedThread parameters <;> exact ⟨_, rfl⟩

/-- Frame handles decode to exactly what they encode: the handle of a registered thread at the
current stop resolves to that thread and level exactly when the thread of the stop, if there is
one, is still registered.  A handle minted at an earlier point for a stop that is no longer
current, or for a thread that is no longer registered, is stale, whatever else is selected; without
a stop no frame handle resolves. -/
theorem frame_handles_decode (session : SessionId) (es₁ es₂ : List (ℕ × DomainEvent))
    (s₁ s₂ : SessionState) (h₁ : Run Applies (creating session) es₁ s₁)
    (h₂ : Run Applies s₁ es₂ s₂) :
    (∀ stop k i t thread level, s₂.stopId = some stop → s₂.Holds k i t thread → level < 2 ^ 32 →
      ((∃ context, s₂.resolveCommandContext (.ofFrame (.new thread.id stop level)) = .ok context ∧
          context.backendThread = some thread.backendId ∧ context.frameLevel = some level) ↔
        s₂.StopThreadRegistered)) ∧
    ∀ stop k i t thread level (parameters : ContextParameters), s₁.stopId = some stop →
      s₁.Holds k i t thread → level < 2 ^ 32 →
      parameters.frameId = some (FrameId.new thread.id stop level).text →
      (s₂.stopId ≠ some stop ∨
        ∀ k' i' t' thread', s₂.Holds k' i' t' thread' → thread'.id ≠ thread.id) →
      (s₂.stopId ≠ none →
        ∃ message, s₂.resolveCommandContext parameters = .error ⟨.staleContext, message, false⟩) ∧
      (s₂.stopId = none → ∃ error, s₂.resolveCommandContext parameters = .error error) := by
  have hs₁ := (identified_creating session).run h₁
  have hs₂ := hs₁.run h₂
  have hc₁ := (coherent_creating session).run h₁
  have hc₂ := hc₁.run h₂
  constructor
  · intro stop k i t thread level hstop hholds hlevel
    obtain ⟨n, -, rfl⟩ := hc₂.fresh stop hstop
    have hwide : level < 2 ^ 64 := hlevel.trans (by decide)
    have hframe : s₂.resolveFrame (.ofFrame (.new thread.id (.fromEvent s₂.sessionId n) level)) =
        .ok (some thread.backendId, some level) := by
      simp only [resolveFrame, ContextParameters.ofFrame, hstop,
        findSome?_decodeFrame_current hs₂ hholds hwide]
      rfl
    rw [resolveCommandContext_ofFrame hframe hlevel, ← resolveDefaultThread_ok hs₂]
    cases hdefault : s₂.resolveDefaultThread with
    | ok default => exact ⟨fun _ => ⟨default, rfl⟩, fun _ => ⟨_, rfl, rfl, rfl⟩⟩
    | error error =>
      constructor
      · rintro ⟨context, hok, -⟩
        cases hok
      · rintro ⟨default, hok⟩
        cases hok
  · intro stop k i t thread level parameters hstop hholds hlevel hframe hstale
    refine ⟨fun hsome => ?_, fun hnone => resolveCommandContext_running hframe hnone⟩
    obtain ⟨current, hcurrent⟩ := Option.ne_none_iff_exists'.mp hsome
    obtain ⟨m, -, rfl⟩ := hc₁.fresh stop hstop
    obtain ⟨n, -, rfl⟩ := hc₂.fresh current hcurrent
    have hsession := (run_identity h₂).1
    refine resolveCommandContext_stale hframe hcurrent ?_
    by_contra hfound
    obtain ⟨⟨b, level'⟩, hfound⟩ := Option.ne_none_iff_exists'.mp hfound
    rw [← hsession] at hfound hstale
    obtain ⟨rfl, -, k', i', t', thread', hholds', hid, -⟩ :=
      findSome?_decodeFrame hs₂ (hsession ▸ hs₁.ofSession hholds) (hlevel.trans (by decide)) hfound
    rcases hstale with hstop' | hgone
    · exact hstop' hcurrent
    · exact hgone k' i' t' thread' hholds' hid

/-- The top frame of the stopped thread resolves. -/
theorem stoppedFrame_resolves : ∃ i thread context, stoppedSession.Holds "i1" i "1" thread ∧
    stoppedSession.resolveCommandContext
      (.ofFrame (.new thread.id (.fromEvent ⟨"sess_x"⟩ 1) 0)) = .ok context ∧
    context.backendThread = some thread.backendId ∧ context.frameLevel = some 0 := by
  have hholds : ∃ i thread, stoppedSession.Holds "i1" i "1" thread ∧
      stoppedSession.stoppedThreadId = some thread.id := ⟨_, _, ⟨rfl, rfl⟩, rfl⟩
  obtain ⟨i, thread, hholds, hstopped⟩ := hholds
  have hregistered : stoppedSession.StopThreadRegistered := fun id hid =>
    ⟨"i1", i, "1", thread, hholds, Option.some.inj (hstopped.symm.trans hid)⟩
  have hdecode := frame_handles_decode ⟨"sess_x"⟩ _ _ _ _
    (.cons applies_stoppedSession (.nil _)) (.nil _)
  obtain ⟨context, hcontext⟩ :=
    (hdecode.1 (.fromEvent ⟨"sess_x"⟩ 1) "i1" i "1" thread 0 rfl hholds (by decide)).mpr hregistered
  exact ⟨i, thread, context, hholds, hcontext⟩

/-- The thread of the stop exits; the handle of the other thread at the current stop is refused. -/
theorem orphaned_stop_refuses_frames :
    ∃ s, Run Applies (creating ⟨"sess_x"⟩)
        [(1, .targetStopped (some "i1") (some "1") "breakpoint-hit" none none),
          (2, .threadCreated "i1" "2"), (3, .threadExited (some "i1") "1")] s ∧
      s.stopId = some (.fromEvent ⟨"sess_x"⟩ 1) ∧
      ∃ i thread, s.Holds "i1" i "2" thread ∧
        s.resolveCommandContext (.ofFrame (.new thread.id (.fromEvent ⟨"sess_x"⟩ 1) 0)) =
          .error ⟨.staleContext, "thread handle is not current", false⟩ := by
  refine ⟨_, .cons applies_stoppedSession (.cons ⟨true, rfl⟩ (.cons ⟨true, rfl⟩ (.nil _))), rfl, _, _,
    ⟨rfl, rfl⟩, ?_⟩
  decide +kernel

end SessionState

end GdbAi
