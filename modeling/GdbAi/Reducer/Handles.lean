import GdbAi.Library.Numerals
import GdbAi.Reducer.StopFence

/-!
# Public handles are never reused

The handles of inferiors, threads and breakpoints carry the sequence number of the event that
minted them, in front of a backend name that is sanitised and may repeat.  An event mints at most
one inferior handle and one thread handle, and every state a session reaches holds only handles
with numbers of its past (`Identified`).  So of two points of a run, the later one holds a handle
with an old number only where the earlier one holds it (`Descends`).

In a legacy session the handle of a thread starts with the handle of its inferior; there the
thread's number is found behind the inferior's name, which the generation determines.
-/

namespace GdbAi

open Runs

/-! ### The number in a handle -/

variable {session : SessionId} {n m : ℕ} {a b : String}

lemma InferiorId.generation_eq
    (h : InferiorId.fromBackend session n a = InferiorId.fromBackend session m b) : n = m := by
  unfold InferiorId.fromBackend at h
  split at h <;> exact (Numerals.leading (InferiorId.mk.inj h)).1

/-- A number behind the first character is not read as a longer mark. -/
lemma stripPrefix_numeral {lead first : String} {c d : Char} {tail : List Char}
    (hlead : lead.toList = c :: d :: tail) (hfirst : first.toList = [c]) (hd : d.isDigit = false)
    (n : ℕ) (rest : String) : stripPrefix lead (first ++ toString n ++ rest) = none := by
  have hshape : (first ++ toString n ++ rest).toList =
      c :: ((toString n).toList ++ rest.toList) := by
    rw [String.toList_append, String.toList_append, hfirst, List.singleton_append, List.cons_append]
  unfold stripPrefix
  rw [hshape, hlead]
  cases hdigits : (toString n).toList with
  | nil => exact absurd hdigits (Numerals.toString_ne_nil n)
  | cons digit digits =>
    have hdigit : digit.isDigit = true := Numerals.isDigit_of_mem (hdigits ▸ List.mem_cons_self)
    have hne : (d == digit) = false := by
      rw [beq_eq_false_iff_ne]
      rintro rfl
      rw [hd] at hdigit
      cases hdigit
    simp [List.isPrefixOf, hne]

/-- What is built on a mark is read with it. -/
lemma stripPrefix_append (lead rest : String) :
    stripPrefix lead (lead ++ rest) = some rest.toList := by
  unfold stripPrefix
  have hlead : lead.toList.isPrefixOf (lead ++ rest).toList = true := by
    rw [List.isPrefixOf_iff_prefix, String.toList_append]
    exact List.prefix_append _ _
  rw [if_pos hlead, String.toList_append, List.drop_left]

/-- A compact inferior handle is not read as a legacy one. -/
lemma InferiorId.compact_not_legacy (h : session.usesCompactHandles = true) (n : ℕ) (a : String) :
    (stripPrefix "inf_" (InferiorId.fromBackend session n a).text).isSome = false := by
  unfold InferiorId.fromBackend
  rw [if_pos h]
  have hnone : stripPrefix "inf_" ("i" ++ toString n ++ ("_" ++ safeComponent a)) = none :=
    stripPrefix_numeral (by decide : "inf_".toList = ['i', 'n', 'f', '_']) (by decide)
      (by decide) n _
  rw [← String.append_assoc] at hnone
  rw [hnone]
  rfl

lemma InferiorId.legacy (h : session.usesCompactHandles = false) (n : ℕ) (a : String) :
    (stripPrefix "inf_" (InferiorId.fromBackend session n a).text).isSome = true := by
  unfold InferiorId.fromBackend
  simp only [h, Bool.false_eq_true, if_false, String.append_assoc]
  rw [stripPrefix_append]
  rfl

/-- Thread handles of one inferior carry the number of their event. -/
lemma ThreadId.birth_eq {inferior : InferiorId}
    (h : ThreadId.fromBackend inferior n a = ThreadId.fromBackend inferior m b) : n = m := by
  unfold ThreadId.fromBackend at h
  split at h <;> exact (Numerals.leading (ThreadId.mk.inj h)).1

/-- Thread handles of any inferiors of one session carry the number of their event, if the
generation of an inferior determines its backend name. -/
lemma ThreadId.birth_eq_of_inferiors {g g' n m : ℕ} {k k' a b : String} (hname : g = g' → k = k')
    (h : ThreadId.fromBackend (.fromBackend session g k) n a = ThreadId.fromBackend (.fromBackend
      session g' k') m b) : n = m := by
  cases hcompact : session.usesCompactHandles with
  | true =>
    unfold ThreadId.fromBackend at h
    rw [InferiorId.compact_not_legacy hcompact, InferiorId.compact_not_legacy hcompact] at h
    exact (Numerals.leading (ThreadId.mk.inj h)).1
  | false =>
    have hg : g = g' := by
      unfold ThreadId.fromBackend at h
      rw [InferiorId.legacy hcompact, InferiorId.legacy hcompact, if_pos rfl, if_pos rfl] at h
      have htext := ThreadId.mk.inj h
      unfold InferiorId.fromBackend at htext
      simp only [hcompact, Bool.false_eq_true, if_false] at htext
      -- the inferior's number is the first one behind the session
      simp only [String.append_assoc] at htext
      have hjoined : ("thr_" ++ "inf_" ++ session.text ++ "_") ++ toString g ++ "_" ++
          (safeComponent k ++ "_" ++ toString n ++ "_" ++ safeComponent a) =
          ("thr_" ++ "inf_" ++ session.text ++ "_") ++ toString g' ++ "_" ++
            (safeComponent k' ++ "_" ++ toString m ++ "_" ++ safeComponent b) := by
        simpa only [String.append_assoc] using htext
      exact (Numerals.leading hjoined).1
    subst hg
    obtain rfl := hname rfl
    exact ThreadId.birth_eq h

lemma BreakpointId.event_eq
    (h : BreakpointId.fromEvent session n a = BreakpointId.fromEvent session m b) : n = m := by
  unfold BreakpointId.fromEvent at h
  dsimp only at h
  split at h <;> exact (Numerals.leading (BreakpointId.mk.inj h)).1

namespace SessionState

/-! ### What one event mints -/

/-- The thread that an event registers unless it is known, with its inferior. -/
def mentionedThread (s : SessionState) : DomainEvent → Option (String × String)
  | .threadCreated b thread => some (b, thread)
  | .targetStopped b (some thread) _ _ _ => some (s.stoppedBackend b (some thread), thread)
  | _ => none

/-- The thread registered under a key has the handle minted by the event numbered `n`. -/
structure Born (i : InferiorState) (n : ℕ) (t : String) (thread : ThreadState) : Prop where
  id : thread.id = ThreadId.fromBackend i.id n t
  backendId : thread.backendId = t

/-- A thread with the handle and the backend name of another. -/
structure SameThread (thread thread' : ThreadState) (t : String) : Prop where
  id : thread'.id = thread.id
  backendId : thread.backendId = t → thread'.backendId = t

lemma SameThread.refl (thread : ThreadState) (t : String) : SameThread thread thread t :=
  ⟨rfl, fun h => h⟩

/-- An inferior with the handle of another, whose threads are that inferior's or minted now. -/
structure SameInferior (s : SessionState) (k : String) (e : DomainEvent) (i i' : InferiorState) :
    Prop where
  id : i'.id = i.id
  generation : i'.generation = i.generation
  backendId : i'.backendId = i.backendId
  threads : ∀ (t : String) (thread' : ThreadState), i'.threads[t]? = some thread' →
    (∃ thread, i.threads[t]? = some thread ∧ SameThread thread thread' t) ∨
      (s.mentionedThread e = some (k, t) ∧ Born i' s.eventSeq t thread')

/-- An inferior whose handle is minted now, whose threads are minted now. -/
structure NewInferior (s : SessionState) (k : String) (e : DomainEvent) (i' : InferiorState) :
    Prop where
  subject : s.subject e = some k
  id : i'.id = InferiorId.fromBackend s.sessionId s.eventSeq k
  generation : i'.generation = s.eventSeq
  backendId : i'.backendId = k
  threads : ∀ (t : String) (thread' : ThreadState), i'.threads[t]? = some thread' →
    s.mentionedThread e = some (k, t) ∧ Born i' s.eventSeq t thread'

variable {s : SessionState} {k : String} {e : DomainEvent} {i : InferiorState}

variable {i' : InferiorState}

lemma SameInferior.of_threads (hid : i'.id = i.id) (hgeneration : i'.generation = i.generation)
    (hbackendId : i'.backendId = i.backendId)
    (h : ∀ (t : String) (thread' : ThreadState), i'.threads[t]? = some thread' → ∃ thread,
      i.threads[t]? = some thread ∧ SameThread thread thread' t) : SameInferior s k e i i' :=
  ⟨hid, hgeneration, hbackendId, fun t thread' ht => .inl (h t thread' ht)⟩

lemma SameInferior.refl (i : InferiorState) : SameInferior s k e i i :=
  .of_threads rfl rfl rfl fun t thread ht => ⟨thread, ht, .refl thread t⟩

/-- Running or halting its threads keeps an inferior's handles. -/
lemma SameInferior.of_map {f : String → ThreadState → ThreadState} (hid : i'.id = i.id)
    (hgeneration : i'.generation = i.generation) (hbackendId : i'.backendId = i.backendId)
    (hthreads : i'.threads = i.threads.map f) (hf : ∀ t thread, SameThread thread (f t thread) t) :
    SameInferior s k e i i' := by
  refine .of_threads hid hgeneration hbackendId fun t thread' ht => ?_
  rw [hthreads, Registry.getElem?_map, Option.map_eq_some_iff] at ht
  obtain ⟨thread, hthread, rfl⟩ := ht
  exact ⟨thread, hthread, hf t thread⟩

lemma sameInferior_stopInferior (i : InferiorState) : SameInferior s k e i (stopInferior i) := by
  unfold stopInferior
  split
  · exact .refl i
  · exact .of_map rfl rfl rfl rfl fun t thread => ⟨rfl, fun h => h⟩

lemma SameInferior.trans_threads {i₁ i₂ : InferiorState} (h : SameInferior s k e i i₁)
    (hid : i₂.id = i₁.id) (hgeneration : i₂.generation = i₁.generation)
    (hbackendId : i₂.backendId = i₁.backendId)
    (hthreads : ∀ (t : String) (thread' : ThreadState), i₂.threads[t]? = some thread' →
      (∃ thread, i₁.threads[t]? = some thread ∧ SameThread thread thread' t) ∨
        (s.mentionedThread e = some (k, t) ∧ Born i₂ s.eventSeq t thread')) :
    SameInferior s k e i i₂ := by
  refine ⟨hid.trans h.id, hgeneration.trans h.generation, hbackendId.trans h.backendId, ?_⟩
  intro t thread' ht
  rcases hthreads t thread' ht with ⟨thread₁, ht₁, hsame⟩ | hborn
  · rcases h.threads t thread₁ ht₁ with ⟨thread, hthread, hsame₁⟩ | ⟨hmentioned, hborn⟩
    · exact .inl ⟨thread, hthread, hsame.id.trans hsame₁.id,
        fun hb => hsame.backendId (hsame₁.backendId hb)⟩
    · refine .inr ⟨hmentioned, ?_, hsame.backendId hborn.backendId⟩
      rw [hsame.id, hborn.id, hid]
  · exact .inr hborn

/-- A thread inserted with the handle it has, or with a new one. -/
lemma sameInferior_insert {i i' : InferiorState} {t : String} {new : ThreadState}
    (hid : i'.id = i.id) (hgeneration : i'.generation = i.generation)
    (hbackendId : i'.backendId = i.backendId) (hthreads : i'.threads = i.threads.insert t new)
    (hnew : (∃ thread, i.threads[t]? = some thread ∧ SameThread thread new t) ∨
      (s.mentionedThread e = some (k, t) ∧ Born i' s.eventSeq t new)) :
    SameInferior s k e i i' := by
  refine ⟨hid, hgeneration, hbackendId, fun t' thread' ht => ?_⟩
  rw [hthreads, Registry.getElem?_insert] at ht
  split at ht
  · rename_i hkey
    obtain rfl := Option.some.inj ht
    exact hkey ▸ hnew
  · exact .inl ⟨thread', ht, .refl thread' t'⟩

lemma sameInferior_registerThread (i : InferiorState) {thread : String}
    (hmentioned : s.mentionedThread e = some (k, thread)) :
    SameInferior s k e i (registerThread s.eventSeq thread i).1 := by
  unfold registerThread
  split
  · rename_i known hknown
    exact sameInferior_insert rfl rfl rfl rfl (.inl ⟨known, hknown, rfl, fun h => h⟩)
  · exact sameInferior_insert rfl rfl rfl rfl (.inr ⟨hmentioned, rfl, rfl⟩)

lemma sameInferior_stopThread (i : InferiorState) {thread : String} (frame : Option FrameSummary)
    (hmentioned : s.mentionedThread e = some (k, thread)) :
    SameInferior s k e i (stopThread s.eventSeq frame thread i).1 := by
  unfold stopThread
  cases hknown : i.threads[thread]? with
  | some known =>
    exact sameInferior_insert rfl rfl rfl rfl (.inl ⟨known, hknown, rfl, fun _ => rfl⟩)
  | none => exact sameInferior_insert rfl rfl rfl rfl (.inr ⟨hmentioned, rfl, rfl⟩)

/-- What an event does to an inferior keeps its handle, unless a new process takes its place. -/
lemma update_handles (s : SessionState) (k : String) (e : DomainEvent) (i : InferiorState) :
    SameInferior s k e i (s.update k e i) ∨ NewInferior s k e (s.update k e i) := by
  cases e with
  | inferiorAdded b pid =>
    simp only [update]
    split
    · rename_i hk
      subst hk
      unfold addProcess
      dsimp only
      split
      · -- a clean generation starts without threads
        right
        refine ⟨rfl, ?_, ?_, ?_, fun t thread' ht => ?_⟩
        · split <;> rfl
        · split <;> rfl
        · split <;> rfl
        · have hempty : (∅ : Registry ThreadState)[t]? = some thread' := by
            split at ht <;> exact ht
          simp at hempty
      · left
        split <;> exact .of_threads rfl rfl rfl fun t thread ht => ⟨thread, ht, .refl thread t⟩
    · exact .inl (.refl i)
  | backendExited status =>
    simp only [update]
    split
    · exact .inl (.refl i)
    · exact .inl (.of_threads rfl rfl rfl fun t thread ht => ⟨thread, ht, .refl thread t⟩)
  | inferiorExited b exitCode fromStop =>
    simp only [update]
    split
    · exact .inl (.of_threads rfl rfl rfl fun t thread ht => ⟨thread, ht, .refl thread t⟩)
    · exact .inl (.refl i)
  | targetRunning names =>
    simp only [update]
    split
    · exact .inl (.of_map rfl rfl rfl rfl fun t thread => ⟨rfl, fun h => h⟩)
    · exact .inl (.refl i)
  | targetStopped b thread reason detail frame =>
    simp only [update]
    split
    · rename_i thread
      split
      · rename_i hk
        have hmentioned : s.mentionedThread (.targetStopped b (some thread) reason detail frame) =
            some (k, thread) := by
          rw [mentionedThread, hk]
        have hstopped := sameInferior_stopThread (stopInferior i) frame hmentioned
        exact .inl ((sameInferior_stopInferior i).trans_threads hstopped.id hstopped.generation
          hstopped.backendId hstopped.threads)
      · exact .inl (sameInferior_stopInferior i)
    · exact .inl (sameInferior_stopInferior i)
  | threadCreated b thread =>
    simp only [update]
    split
    · rename_i hk
      exact .inl (sameInferior_registerThread i (by rw [mentionedThread, hk]))
    · exact .inl (.refl i)
  | threadExited b thread =>
    simp only [update]
    split
    · refine .inl (.of_threads rfl rfl rfl fun t thread' ht => ?_)
      rw [Registry.getElem?_erase] at ht
      split at ht
      · cases ht
      · exact ⟨thread', ht, .refl thread' t⟩
    · exact .inl (.refl i)
  | targetDisconnected | targetDetached =>
    exact .inl (.of_threads rfl rfl rfl fun t thread ht => ⟨thread, ht, .refl thread t⟩)
  | coreOpened b =>
    simp only [update]
    split
    · exact .inl (.of_threads rfl rfl rfl fun t thread ht => ⟨thread, ht, .refl thread t⟩)
    · exact .inl (.refl i)
  | _ => exact .inl (.refl i)

/-- An inferior behind an event is one from before it, or its handle is minted now. -/
lemma reduce_handles (s : SessionState) (e : DomainEvent) {k : String}
    (hi' : (s.reduce e).1.inferiors[k]? = some i') :
    (∃ i, s.inferiors[k]? = some i ∧ SameInferior s k e i i') ∨ NewInferior s k e i' := by
  by_cases hremoved : e = .inferiorRemoved k
  · subst hremoved
    cases (s.reduce_getElem?_removed k).symm.trans hi'
  rw [s.reduce_getElem? e k hremoved, Option.map_eq_some_iff] at hi'
  obtain ⟨i, hi, rfl⟩ := hi'
  by_cases hknown : s.inferiors[k]? = some i
  · rcases s.update_handles k e i with hsame | hnew
    · exact .inl ⟨i, hknown, hsame⟩
    · exact .inr hnew
  -- the inferior has just been registered, without threads
  right
  have hsubject : s.subject e = some k := by
    by_contra hother
    rw [if_neg hother] at hi
    exact hknown hi
  have hfresh : i = freshInferior s.sessionId s.eventSeq k := by
    rw [if_pos hsubject] at hi
    cases hat : s.inferiors[k]? with
    | none =>
      rw [inferiorAt, hat] at hi
      exact (Option.some.inj hi).symm
    | some j =>
      rw [inferiorAt_eq hat] at hi
      exact absurd (hat.trans hi) hknown
  subst hfresh
  rcases s.update_handles k e (freshInferior s.sessionId s.eventSeq k) with hsame | hnew
  · refine ⟨hsubject, hsame.id, hsame.generation, hsame.backendId, fun t thread' ht => ?_⟩
    rcases hsame.threads t thread' ht with ⟨thread, hthread, -⟩ | hborn
    · simp [freshInferior] at hthread
    · exact hborn
  · exact hnew

/-! ### Handles of a reached state -/

/-- The thread is registered in the inferior at the key. -/
def Holds (s : SessionState) (k : String) (i : InferiorState) (t : String) (thread : ThreadState) :
    Prop := s.inferiors[k]? = some i ∧ i.threads[t]? = some thread

/-- Every handle carries the number of an event of the past, and the number determines what the
handle names. -/
structure Identified (s : SessionState) : Prop where
  inferior : ∀ (k : String) (i : InferiorState), s.inferiors[k]? = some i →
    i.id = InferiorId.fromBackend s.sessionId i.generation k ∧ i.backendId = k ∧
      i.generation ≤ s.eventSeq
  generations : ∀ (k k' : String) (i i' : InferiorState), s.inferiors[k]? = some i →
    s.inferiors[k']? = some i' → i.generation = i'.generation → k = k'
  thread : ∀ (k : String) (i : InferiorState) (t : String) (thread : ThreadState),
    s.Holds k i t thread → ∃ n ≤ s.eventSeq, Born i n t thread
  births : ∀ (k k' : String) (i i' : InferiorState) (t t' : String) (thread thread' : ThreadState)
    (n : ℕ), s.Holds k i t thread → s.Holds k' i' t' thread' → Born i n t thread →
      Born i' n t' thread' → k = k' ∧ t = t'

lemma identified_creating (session : SessionId) : (creating session).Identified where
  inferior k i h := by simp [creating] at h
  generations k k' i i' h := by simp [creating] at h
  thread k i t thread h := by simp [Holds, creating] at h
  births k k' i i' t t' thread thread' n h := by simp [Holds, creating] at h

/-- A handle is minted once: a thread has one number. -/
lemma Born.unique {i : InferiorState} {n m : ℕ} {t t' : String} {thread : ThreadState}
    (h : Born i n t thread) (h' : Born i m t' thread) : n = m :=
  ThreadId.birth_eq (h.id.symm.trans h'.id)

/-- The same thread of the same inferior was born at the same event. -/
lemma Born.same {i i' : InferiorState} {n : ℕ} {t : String} {thread thread' : ThreadState}
    (h : Born i n t thread) (hid : i'.id = i.id) (hthread : SameThread thread thread' t) :
    Born i' n t thread' := by
  refine ⟨?_, hthread.backendId h.backendId⟩
  rw [hthread.id, h.id, hid]

section Step

variable {s s' : SessionState} {journaled : ℕ × DomainEvent} {k t : String} {i' : InferiorState}
  {thread' : ThreadState}

/-- An inferior behind an event is one from before it, or the event's own. -/
lemma Applies.inferior_handle (h : s.Applies journaled s') (hi' : s'.inferiors[k]? = some i') :
    (∃ i, s.inferiors[k]? = some i ∧ i'.id = i.id ∧ i'.generation = i.generation ∧
        i'.backendId = i.backendId) ∨
      ({ s with eventSeq := journaled.1 }.subject journaled.2 = some k ∧
        i'.id = InferiorId.fromBackend s.sessionId journaled.1 k ∧ i'.generation = journaled.1 ∧
        i'.backendId = k) := by
  obtain ⟨-, revision, rfl⟩ := h.reduce
  rcases { s with eventSeq := journaled.1 }.reduce_handles journaled.2 hi' with
    ⟨i, hi, hsame⟩ | hnew
  · exact .inl ⟨i, hi, hsame.id, hsame.generation, hsame.backendId⟩
  · exact .inr ⟨hnew.subject, hnew.id, hnew.generation, hnew.backendId⟩

/-- A thread behind an event is one from before it, or the one the event mentions. -/
lemma Applies.thread_handle (h : s.Applies journaled s') (hholds : s'.Holds k i' t thread') :
    (∃ i thread, s.Holds k i t thread ∧ i'.id = i.id ∧ SameThread thread thread' t) ∨
      ({ s with eventSeq := journaled.1 }.mentionedThread journaled.2 = some (k, t) ∧
        Born i' journaled.1 t thread') := by
  obtain ⟨-, revision, rfl⟩ := h.reduce
  obtain ⟨hi', hthread'⟩ := hholds
  rcases { s with eventSeq := journaled.1 }.reduce_handles journaled.2 hi' with
    ⟨i, hi, hsame⟩ | hnew
  · rcases hsame.threads t thread' hthread' with ⟨thread, hthread, hkept⟩ | hborn
    · exact .inl ⟨i, thread, ⟨hi, hthread⟩, hsame.id, hkept⟩
    · exact .inr hborn
  · exact .inr (hnew.threads t thread' hthread')

end Step

variable {s s' : SessionState} {journaled : ℕ × DomainEvent}

/-- The handles of the state behind an event carry numbers of its past. -/
lemma Identified.applies (h : s.Identified) (hstep : s.Applies journaled s') : s'.Identified := by
  obtain ⟨hsession, hlt, hseq⟩ := hstep.identity
  rw [hseq] at hlt
  constructor
  case inferior =>
    intro k i' hi'
    rw [hsession, hseq]
    rcases hstep.inferior_handle hi' with ⟨i, hi, hid, hgen, hback⟩ | ⟨-, hid, hgen, hback⟩
    · obtain ⟨hid', hback', hle⟩ := h.inferior k i hi
      rw [hid, hgen, hback]
      exact ⟨hid', hback', hle.trans hlt.le⟩
    · rw [hgen]
      exact ⟨hid, hback, le_rfl⟩
  case generations =>
    intro k k' i i' hi hi' hgen
    rcases hstep.inferior_handle hi with ⟨j, hj, -, hgenj, -⟩ | ⟨hsubject, -, hnew, -⟩
    · rcases hstep.inferior_handle hi' with ⟨j', hj', -, hgenj', -⟩ | ⟨-, -, hnew', -⟩
      · exact h.generations k k' j j' hj hj' (by rw [← hgenj, hgen, hgenj'])
      · have hle := (h.inferior k j hj).2.2
        omega
    · rcases hstep.inferior_handle hi' with ⟨j', hj', -, hgenj', -⟩ | ⟨hsubject', -, -, -⟩
      · have hle := (h.inferior k' j' hj').2.2
        omega
      · exact Option.some.inj (hsubject.symm.trans hsubject')
  case thread =>
    intro k i' t thread' hholds
    rw [hseq]
    rcases hstep.thread_handle hholds with ⟨i, thread, hold, hid, hkept⟩ | ⟨-, hborn⟩
    · obtain ⟨n, hle, hborn⟩ := h.thread k i t thread hold
      exact ⟨n, hle.trans hlt.le, hborn.same hid hkept⟩
    · exact ⟨journaled.1, le_rfl, hborn⟩
  case births =>
    intro k k' i i' t t' thread thread' n hholds hholds' hborn hborn'
    rcases hstep.thread_handle hholds with ⟨j, th, hold, hid, hkept⟩ | ⟨hnew, hnow⟩
    · obtain ⟨m, hle, hm⟩ := h.thread k j t th hold
      have hmn : m = n := (hm.same hid hkept).unique hborn
      rcases hstep.thread_handle hholds' with ⟨j', th', hold', hid', hkept'⟩ | ⟨-, hnow'⟩
      · obtain ⟨m', -, hm'⟩ := h.thread k' j' t' th' hold'
        have hmn' : m' = n := (hm'.same hid' hkept').unique hborn'
        exact h.births k k' j j' t t' th th' n hold hold' (hmn ▸ hm) (hmn' ▸ hm')
      · have hn := hnow'.unique hborn'
        omega
    · have hn := hnow.unique hborn
      rcases hstep.thread_handle hholds' with ⟨j', th', hold', hid', hkept'⟩ | ⟨hnew', -⟩
      · obtain ⟨m', hle', hm'⟩ := h.thread k' j' t' th' hold'
        have hmn' : m' = n := (hm'.same hid' hkept').unique hborn'
        omega
      · have hpair := Option.some.inj (hnew.symm.trans hnew')
        exact Prod.mk.inj hpair

lemma Identified.run {es : List (ℕ × DomainEvent)} (h : s.Identified) (hrun : Run Applies s es s') :
    s'.Identified :=
  hrun.invariant h fun _ _ _ hs hstep => hs.applies hstep

/-! ### Handles at two points of a run -/

/-- What carries an old number at the later point is there at the earlier one. -/
structure Descends (s₁ s₂ : SessionState) : Prop where
  inferior : ∀ (k : String) (i₂ : InferiorState), s₂.inferiors[k]? = some i₂ →
    i₂.generation ≤ s₁.eventSeq → ∃ i₁, s₁.inferiors[k]? = some i₁ ∧ i₁.generation = i₂.generation
  thread : ∀ (k : String) (i₂ : InferiorState) (t : String) (thread₂ : ThreadState) (n : ℕ),
    s₂.Holds k i₂ t thread₂ → Born i₂ n t thread₂ → n ≤ s₁.eventSeq →
      ∃ i₁ thread₁, s₁.Holds k i₁ t thread₁ ∧ i₁.id = i₂.id ∧ Born i₁ n t thread₁

lemma Descends.refl (s : SessionState) : s.Descends s where
  inferior _ i hi _ := ⟨i, hi, rfl⟩
  thread _ i _ thread _ hholds hborn _ := ⟨i, thread, hholds, rfl, hborn⟩

/-- One event in front of a run. -/
lemma Descends.cons {s s₁ s₂ : SessionState} (hs : s.Identified) (hstep : s.Applies journaled s₁)
    (h : s₁.Descends s₂) : s.Descends s₂ := by
  obtain ⟨-, hlt, hseq⟩ := hstep.identity
  constructor
  case inferior =>
    intro k i₂ hi₂ hle
    obtain ⟨i₁, hi₁, hgen₁⟩ := h.inferior k i₂ hi₂ (hle.trans hlt.le)
    rcases hstep.inferior_handle hi₁ with ⟨i, hi, -, hgen, -⟩ | ⟨-, -, hnew, -⟩
    · exact ⟨i, hi, hgen.symm.trans hgen₁⟩
    · omega
  case thread =>
    intro k i₂ t thread₂ n hholds hborn hle
    obtain ⟨i₁, thread₁, hholds₁, hid₁, hborn₁⟩ :=
      h.thread k i₂ t thread₂ n hholds hborn (hle.trans hlt.le)
    rcases hstep.thread_handle hholds₁ with ⟨i, thread, hold, hid, hkept⟩ | ⟨-, hnow⟩
    · obtain ⟨m, -, hm⟩ := hs.thread k i t thread hold
      have hmn : m = n := (hm.same hid hkept).unique hborn₁
      exact ⟨i, thread, hold, hid.symm.trans hid₁, hmn ▸ hm⟩
    · have hn := hnow.unique hborn₁
      omega

lemma descends_of_run {s₁ s₂ : SessionState} {es : List (ℕ × DomainEvent)} (h : s₁.Identified)
    (hrun : Run Applies s₁ es s₂) : s₁.Descends s₂ := by
  induction hrun with
  | nil s => exact .refl s
  | cons head _ ih => exact .cons h head (ih (h.applies head))

section TwoPoints

variable {s₁ s₂ : SessionState} {es : List (ℕ × DomainEvent)} {k₁ k₂ t₁ t₂ : String}
  {i₁ i₂ : InferiorState} {thread₁ thread₂ : ThreadState}

/-- A generation names one inferior. -/
lemma same_key_of_generation (h : s₁.Identified) (hrun : Run Applies s₁ es s₂)
    (hi₁ : s₁.inferiors[k₁]? = some i₁) (hi₂ : s₂.inferiors[k₂]? = some i₂)
    (hgen : i₁.generation = i₂.generation) : k₁ = k₂ := by
  have hle := (h.inferior k₁ i₁ hi₁).2.2
  obtain ⟨j, hj, hgenj⟩ := (descends_of_run h hrun).inferior k₂ i₂ hi₂ (hgen ▸ hle)
  exact h.generations k₁ k₂ i₁ j hi₁ hj (hgen.trans hgenj.symm)

lemma generation_eq_of_id (h : s₁.Identified) (hrun : Run Applies s₁ es s₂)
    (hi₁ : s₁.inferiors[k₁]? = some i₁) (hi₂ : s₂.inferiors[k₂]? = some i₂)
    (hid : i₁.id = i₂.id) : i₁.generation = i₂.generation := by
  have hid₁ := (h.inferior k₁ i₁ hi₁).1
  have hid₂ := ((h.run hrun).inferior k₂ i₂ hi₂).1
  rw [(run_identity hrun).1] at hid₂
  exact InferiorId.generation_eq (hid₁.symm.trans (hid.trans hid₂))

/-- A thread handle names one thread of one inferior. -/
lemma same_thread_of_id (h : s₁.Identified) (hrun : Run Applies s₁ es s₂)
    (hholds₁ : s₁.Holds k₁ i₁ t₁ thread₁) (hholds₂ : s₂.Holds k₂ i₂ t₂ thread₂)
    (hid : thread₁.id = thread₂.id) : k₁ = k₂ ∧ i₁.id = i₂.id ∧ t₁ = t₂ := by
  obtain ⟨n₁, hle, hborn₁⟩ := h.thread k₁ i₁ t₁ thread₁ hholds₁
  obtain ⟨n₂, -, hborn₂⟩ := (h.run hrun).thread k₂ i₂ t₂ thread₂ hholds₂
  have hid₁ := (h.inferior k₁ i₁ hholds₁.1).1
  have hid₂ := ((h.run hrun).inferior k₂ i₂ hholds₂.1).1
  rw [(run_identity hrun).1] at hid₂
  have hname : i₁.generation = i₂.generation → k₁ = k₂ :=
    same_key_of_generation h hrun hholds₁.1 hholds₂.1
  have hids : ThreadId.fromBackend (.fromBackend s₁.sessionId i₁.generation k₁) n₁ t₁ =
      ThreadId.fromBackend (.fromBackend s₁.sessionId i₂.generation k₂) n₂ t₂ := by
    rw [← hid₁, ← hid₂, ← hborn₁.id, ← hborn₂.id, hid]
  obtain rfl := ThreadId.birth_eq_of_inferiors hname hids
  -- the number is old, so the later thread is already there at the earlier point
  obtain ⟨j, thread, hholds, hidj, hborn⟩ :=
    (descends_of_run h hrun).thread k₂ i₂ t₂ thread₂ n₁ hholds₂ hborn₂ hle
  obtain ⟨rfl, rfl⟩ := h.births k₁ k₂ i₁ j t₁ t₂ thread₁ thread n₁ hholds₁ hholds hborn₁ hborn
  have hj : j = i₁ := Option.some.inj (hholds.1.symm.trans hholds₁.1)
  exact ⟨rfl, hj ▸ hidj, rfl⟩

end TwoPoints

/-- The event mints the handle of a breakpoint whose backend number is not known. -/
def Mints (s : SessionState) (journaled : ℕ × DomainEvent) (s' : SessionState) (id : BreakpointId) :
    Prop :=
  ∃ number enabled pending b, (journaled.2 = .breakpointCreated number enabled pending ∨
      journaled.2 = .breakpointModified number enabled pending) ∧
    s.breakpoints[number]? = none ∧ s.Applies journaled s' ∧
    s'.breakpoints[number]? = some b ∧ b.id = id

/-- A minted breakpoint handle carries the number of its event. -/
lemma Mints.fromEvent {id : BreakpointId} (h : s.Mints journaled s' id) :
    ∃ number, id = BreakpointId.fromEvent s.sessionId journaled.1 number := by
  obtain ⟨number, enabled, pending, b, hevent, hunknown, hstep, hb, rfl⟩ := h
  obtain ⟨-, revision, rfl⟩ := hstep.reduce
  refine ⟨number, ?_⟩
  have hset : ({ s with eventSeq := journaled.1 }.setBreakpoint number enabled
      pending).breakpoints[number]? = some b := by
    rcases hevent with hevent | hevent <;> exact (by rw [hevent] at hb; exact hb)
  simp only [setBreakpoint] at hset
  rw [Registry.getElem?_insert, if_pos rfl, hunknown] at hset
  rw [← Option.some.inj hset]
  rfl

/-- Public handles are never reused: of two points of a run, an inferior handle that occurs at
both names the same backend inferior in the same generation, a thread handle that occurs at both
names the same backend thread of the same inferior, no two inferiors and no two threads of one
state share a handle, and a minted breakpoint handle differs from every one minted before. -/
theorem handles_never_reused (session : SessionId) (es₁ es₂ : List (ℕ × DomainEvent))
    (s₁ s₂ : SessionState) (h₁ : Run Applies (creating session) es₁ s₁)
    (h₂ : Run Applies s₁ es₂ s₂) :
    (∀ (k₁ k₂ : String) (i₁ i₂ : InferiorState), s₁.inferiors[k₁]? = some i₁ →
      s₂.inferiors[k₂]? = some i₂ → i₁.id = i₂.id →
      k₁ = k₂ ∧ i₁.backendId = i₂.backendId ∧ i₁.generation = i₂.generation) ∧
    (∀ k₁ k₂ i₁ i₂ t₁ t₂ thread₁ thread₂, s₁.Holds k₁ i₁ t₁ thread₁ →
      s₂.Holds k₂ i₂ t₂ thread₂ → thread₁.id = thread₂.id →
      i₁.id = i₂.id ∧ t₁ = t₂ ∧ thread₁.backendId = thread₂.backendId) ∧
    (∀ (k k' : String) (i i' : InferiorState), s₂.inferiors[k]? = some i →
      s₂.inferiors[k']? = some i' → i.id = i'.id → k = k') ∧
    (∀ k k' i i' t t' thread thread', s₂.Holds k i t thread → s₂.Holds k' i' t' thread' →
      thread.id = thread'.id → k = k' ∧ t = t') ∧
    ∀ journaled₁ journaled₂ (s s' : SessionState) id₁ id₂, s.Mints journaled₁ s₁ id₁ →
      s₂.Mints journaled₂ s' id₂ → id₁ ≠ id₂ := by
  have hs₁ := (identified_creating session).run h₁
  have hs₂ := hs₁.run h₂
  refine ⟨?_, ?_, ?_, ?_, ?_⟩
  · intro k₁ k₂ i₁ i₂ hi₁ hi₂ hid
    have hgen := generation_eq_of_id hs₁ h₂ hi₁ hi₂ hid
    have hkey := same_key_of_generation hs₁ h₂ hi₁ hi₂ hgen
    have hback₁ := (hs₁.inferior k₁ i₁ hi₁).2.1
    have hback₂ := (hs₂.inferior k₂ i₂ hi₂).2.1
    exact ⟨hkey, by rw [hback₁, hback₂, hkey], hgen⟩
  · intro k₁ k₂ i₁ i₂ t₁ t₂ thread₁ thread₂ hholds₁ hholds₂ hid
    obtain ⟨-, hinferior, hthread⟩ := same_thread_of_id hs₁ h₂ hholds₁ hholds₂ hid
    obtain ⟨n₁, -, hborn₁⟩ := hs₁.thread k₁ i₁ t₁ thread₁ hholds₁
    obtain ⟨n₂, -, hborn₂⟩ := hs₂.thread k₂ i₂ t₂ thread₂ hholds₂
    exact ⟨hinferior, hthread, by rw [hborn₁.backendId, hborn₂.backendId, hthread]⟩
  · intro k k' i i' hi hi' hid
    have hgen := generation_eq_of_id hs₂ (.nil s₂) hi hi' hid
    exact hs₂.generations k k' i i' hi hi' hgen
  · intro k k' i i' t t' thread thread' hholds hholds' hid
    obtain ⟨hkey, -, hthread⟩ := same_thread_of_id hs₂ (.nil s₂) hholds hholds' hid
    exact ⟨hkey, hthread⟩
  · intro journaled₁ journaled₂ s s' id₁ id₂ hmint₁ hmint₂ heq
    obtain ⟨number₁, hid₁⟩ := hmint₁.fromEvent
    obtain ⟨number₂, hid₂⟩ := hmint₂.fromEvent
    obtain ⟨-, -, -, -, -, -, hstep₁, -, -⟩ := hmint₁
    obtain ⟨-, -, -, -, -, -, hstep₂, -, -⟩ := hmint₂
    obtain ⟨hsession₁, -, hseq₁⟩ := hstep₁.identity
    obtain ⟨-, hlt₂, hseq₂⟩ := hstep₂.identity
    obtain ⟨hsession, hle⟩ := run_identity h₂
    rw [hid₁, hid₂, hsession, hsession₁] at heq
    have hn := BreakpointId.event_eq heq
    omega

/-- A thread that comes when another has exited gets a handle of its own. -/
theorem later_thread_has_another_handle :
    ∃ s₂, Run Applies stoppedSession
        [(2, .threadExited (some "i1") "1"), (3, .threadCreated "i1" "2")] s₂ ∧
      (∃ i₁ thread₁, stoppedSession.Holds "i1" i₁ "1" thread₁) ∧
      (∃ i₂ thread₂, s₂.Holds "i1" i₂ "2" thread₂) ∧
      ∀ i₁ i₂ thread₁ thread₂, stoppedSession.Holds "i1" i₁ "1" thread₁ →
        s₂.Holds "i1" i₂ "2" thread₂ → thread₁.id ≠ thread₂.id := by
  have hrun : ∃ s₂, Run Applies stoppedSession
      [(2, .threadExited (some "i1") "1"), (3, .threadCreated "i1" "2")] s₂ ∧
      ∃ i₂ thread₂, s₂.Holds "i1" i₂ "2" thread₂ :=
    ⟨_, .cons ⟨true, rfl⟩ (.cons ⟨true, rfl⟩ (.nil _)), _, _, rfl, rfl⟩
  obtain ⟨s₂, hrun, hholds₂⟩ := hrun
  refine ⟨s₂, hrun, ⟨_, _, rfl, rfl⟩, hholds₂, ?_⟩
  intro i₁ i₂ thread₁ thread₂ h₁ h₂ heq
  have hnever := handles_never_reused ⟨"sess_x"⟩ _ _ _ _
    (.cons applies_stoppedSession (.nil _)) hrun
  obtain ⟨-, hname, -⟩ := hnever.2.1 _ _ _ _ _ _ _ _ h₁ h₂ heq
  exact absurd hname (by decide)

end SessionState

end GdbAi
