import GdbAi.Gateway.FrameHandles
import GdbAi.Gateway.ObservationPlans
import GdbAi.Session.Protocol

/-!
# The selection of a command and its attribution

`context_options` puts the selected thread and frame in front of the arguments of a command, and
`observation_context` says in the response which inferior, thread and frame were observed.  Both
resolve the same selectors.

The two agree if a frame is never selected without a thread and if one registered thread is what
every handle names, the first of its backend id.  A level alone is passed on without a thread, for
every command that does not take the thread of the stop by default; and the observation goes from
the backend id back to the first inferior that registers it.
-/

namespace GdbAi

namespace SessionState

variable {s : SessionState} {parameters : ContextParameters}

/-! ### What is registered -/

/-- The thread of the thread handle is registered under it. -/
lemma requestedThread_ok (hs : s.Identified) {requested : Option String}
    (h : s.requestedThread parameters = .ok requested) :
    (parameters.threadId = none ∧ requested = none) ∨
      ∃ handle k i t thread, parameters.threadId = some handle ∧ s.Holds k i t thread ∧
        thread.id = ⟨handle⟩ ∧ requested = some t := by
  unfold requestedThread at h
  cases hthread : parameters.threadId with
  | none =>
    rw [hthread] at h
    exact .inl ⟨rfl, (Except.ok.inj h).symm⟩
  | some handle =>
    rw [hthread] at h
    cases hcurrent : s.currentBackendThread handle with
    | error error =>
      simp only [hcurrent] at h
      cases h
    | ok b =>
      simp only [hcurrent] at h
      obtain ⟨k, i, thread, hholds, hid⟩ := (currentBackendThread_ok hs).mp hcurrent
      exact .inr ⟨handle, k, i, b, thread, rfl, hholds, hid, (Except.ok.inj h).symm⟩

/-- The frame handle is that of a registered thread, at the level that was asked for. -/
lemma resolveFrame_ok (hs : s.Identified) {frameThread : Option String} {level : Option ℕ}
    (h : s.resolveFrame parameters = .ok (frameThread, level)) :
    (parameters.frameId = none ∧ frameThread = none ∧ level = parameters.frameLevel) ∨
      ∃ handle stop k i t thread n, parameters.frameId = some handle ∧ s.stopId = some stop ∧
        s.Holds k i t thread ∧ FrameOf thread.id stop n handle ∧ frameThread = some t ∧
        level = some n ∧ ∀ m, parameters.frameLevel = some m → m = n := by
  unfold resolveFrame at h
  split at h
  · rename_i hframe
    obtain ⟨rfl, rfl⟩ := Prod.mk.inj (Except.ok.inj h)
    exact .inl ⟨hframe, rfl, rfl⟩
  rename_i handle hframe
  split at h
  · cases h
  rename_i stop hstop
  split at h
  · cases h
  rename_i b n hfind
  split at h
  · cases h
  rename_i hsame
  obtain ⟨rfl, rfl⟩ := Prod.mk.inj (Except.ok.inj h)
  obtain ⟨thread, hmem, hdecode⟩ := List.exists_of_findSome?_eq_some hfind
  obtain ⟨k, i, t, hholds⟩ := mem_allThreads.mp hmem
  obtain ⟨hhandle, rfl⟩ := decodeFrame_eq_some.mp hdecode
  obtain rfl := hs.backendId_eq hholds
  refine .inr ⟨handle, stop, k, i, _, thread, n, hframe, hstop, hholds, hhandle, rfl, rfl, ?_⟩
  intro m hm
  simpa [hm] using hsame

variable {i : InferiorState}

/-- An inferior has the threads that are registered in it. -/
lemma hasThread_holds (hs : s.Identified) {k b : String} (hi : s.inferiors[k]? = some i)
    (h : hasThread i b = true) : ∃ thread, s.Holds k i b thread := by
  obtain ⟨t, thread, ht, hb⟩ := Registry.anyEntry_eq_true.mp h
  obtain rfl := (hs.backendId_eq ⟨hi, ht⟩).symm.trans (of_decide_eq_true hb)
  exact ⟨thread, hi, ht⟩

/-- The only thread of an inferior is registered, and no other one is. -/
lemma holds_iff_of_toList {k t t' : String} {thread thread' : ThreadState}
    (hi : s.inferiors[k]? = some i) (h : i.threads.toList = [(t, thread)]) :
    s.Holds k i t' thread' ↔ t' = t ∧ thread' = thread := by
  unfold Holds
  rw [and_iff_right hi, ← Std.ExtTreeMap.mem_toList_iff_getElem?_eq_some, h, List.mem_singleton,
    Prod.mk.injEq]

/-- The selected thread is one of the inferior of the inferior handle: the one selected before, or
else the default thread or the only one. -/
lemma selectThread_ok (hs : s.Identified) {before default after : Option String}
    (h : s.selectThread parameters before default = .ok after) :
    (parameters.inferiorId = none ∧ after = before) ∨
      ∃ handle k i t thread, parameters.inferiorId = some handle ∧ s.Holds k i t thread ∧
        i.id = ⟨handle⟩ ∧ after = some t ∧ (before = some t ∨
          before = none ∧ (default = some t ∨ i.threads.toList = [(t, thread)])) := by
  unfold selectThread at h
  split at h
  · rename_i hnone
    exact .inl ⟨hnone, (Except.ok.inj h).symm⟩
  rename_i handle hhandle
  unfold selectInferior at h
  split at h
  · cases h
  rename_i k i hfirst
  obtain ⟨hi, htext⟩ := Registry.first_eq_some hfirst
  have hid : i.id = ⟨handle⟩ := congrArg InferiorId.mk (of_decide_eq_true htext)
  refine .inr ?_
  split at h
  · rename_i b
    split at h
    · rename_i hthread
      obtain ⟨thread, hholds⟩ := hasThread_holds hs hi hthread
      exact ⟨handle, k, i, b, thread, hhandle, hholds, hid, (Except.ok.inj h).symm, .inl rfl⟩
    · cases h
  · split at h
    · rename_i hdefault
      cases default with
      | none => cases hdefault
      | some b =>
        obtain ⟨thread, hholds⟩ := hasThread_holds hs hi hdefault
        exact ⟨handle, k, i, b, thread, hhandle, hholds, hid, (Except.ok.inj h).symm,
          .inr ⟨rfl, .inl rfl⟩⟩
    · split at h
      · rename_i t thread hlist
        have hholds := (holds_iff_of_toList hi hlist).mpr ⟨rfl, rfl⟩
        rw [hs.backendId_eq hholds] at h
        exact ⟨handle, k, i, t, thread, hhandle, hholds, hid, (Except.ok.inj h).symm,
          .inr ⟨rfl, .inr hlist⟩⟩
      · cases h

/-- The thread that a command takes by default has this backend id: it is the thread of the stop,
or the only thread of the stopped inferior if the stop has none. -/
def Focus (s : SessionState) (b : String) : Prop :=
  match s.stoppedThreadId with
  | some id => ∃ k i thread, s.Holds k i b thread ∧ thread.id = id
  | none => ∃ (k : String) (i : InferiorState) (thread : ThreadState), s.inferiors[k]? = some i ∧
      s.stoppedInferiorId = some i.id ∧ i.threads.toList = [(b, thread)]

/-- The resolution takes the thread in focus by default. -/
lemma resolveDefaultThread_some (hs : s.Identified) {b : String} :
    s.resolveDefaultThread = .ok (some b) ↔ s.Focus b := by
  unfold resolveDefaultThread Focus
  cases s.stoppedThreadId with
  | some id =>
    dsimp only
    have hcurrent : s.currentBackendThread id.text = .ok b ↔ _ := currentBackendThread_ok hs
    rw [← hcurrent]
    cases s.currentBackendThread id.text <;> simp [Except.map]
  | none =>
    constructor
    · intro h
      obtain ⟨stopped, hstopped, hfirst⟩ := Option.bind_eq_some_iff.mp (Except.ok.inj h)
      obtain ⟨⟨k, i⟩, hi, hthread⟩ := Option.bind_eq_some_iff.mp hfirst
      obtain ⟨hi, hid⟩ := Registry.first_eq_some hi
      dsimp only at hthread
      split at hthread
      · rename_i t thread hlist
        have hkey := hs.backendId_eq ((holds_iff_of_toList hi hlist).mpr ⟨rfl, rfl⟩)
        obtain rfl := hkey.symm.trans (Option.some.inj hthread)
        exact ⟨k, i, thread, hi, by rw [hstopped, of_decide_eq_true hid], hlist⟩
      · cases hthread
    · rintro ⟨k, i, thread, hi, hstopped, hlist⟩
      have hkey := hs.backendId_eq ((holds_iff_of_toList hi hlist).mpr ⟨rfl, rfl⟩)
      simp [hstopped, hs.first_eq hi, hlist, hkey]

/-- The thread in focus is registered. -/
lemma Focus.holds {b : String} (h : s.Focus b) : ∃ k i thread, s.Holds k i b thread := by
  unfold Focus at h
  split at h
  · obtain ⟨k, i, thread, hholds, -⟩ := h
    exact ⟨k, i, thread, hholds⟩
  · obtain ⟨k, i, thread, hi, -, hlist⟩ := h
    exact ⟨k, i, thread, (holds_iff_of_toList hi hlist).mpr ⟨rfl, rfl⟩⟩

/-- No inferior in front of this one registers the backend id. -/
def Foremost (s : SessionState) (k b : String) : Prop :=
  ∀ k' i' thread', s.Holds k' i' b thread' → (compare k k').isLE

/-- The search for a backend id ends in the foremost inferior. -/
lemma findThread_foremost (hs : s.Identified) {b : String} {thread : ThreadState}
    (h : s.findThread b = some (i, thread)) : ∃ k, s.Holds k i b thread ∧ s.Foremost k b := by
  have hvalues : (s.inferiors.toList.map Prod.snd).findSome? (fun i =>
      (i.threads.first fun _ thread => thread.backendId = b).map fun thread => (i, thread.2)) =
        some (i, thread) := by
    rw [List.findSome?_map]
    exact h
  obtain ⟨k, _, hi, hfound, hleast⟩ := Registry.findSome?_values hvalues
  obtain ⟨⟨t, _⟩, hfirst, hpair⟩ := Option.map_eq_some_iff.mp hfound
  obtain ⟨rfl, rfl⟩ := Prod.mk.inj hpair
  obtain ⟨ht, hb⟩ := Registry.first_eq_some hfirst
  obtain rfl := (hs.backendId_eq ⟨hi, ht⟩).symm.trans (of_decide_eq_true hb)
  refine ⟨k, ⟨hi, ht⟩, fun k' i' thread' hholds => hleast k' i' hholds.1 ?_⟩
  rw [Option.isSome_map, Option.isSome_iff_ne_none]
  intro hnone
  have hnot := Registry.first_eq_none hnone hholds.2
  simp [hs.backendId_eq hholds] at hnot

/-- A registered backend id is found. -/
lemma findThread_holds (hs : s.Identified) {k b : String} {thread : ThreadState}
    (h : s.Holds k i b thread) : ∃ i' thread', s.findThread b = some (i', thread') := by
  cases hfind : s.findThread b with
  | none =>
    have hnone := List.findSome?_eq_none_iff.mp hfind (k, i)
      (Std.ExtTreeMap.mem_toList_iff_getElem?_eq_some.mpr h.1)
    have hnot := Registry.first_eq_none (Option.map_eq_none_iff.mp hnone) h.2
    simp [hs.backendId_eq h] at hnot
  | some found => exact ⟨found.1, found.2, rfl⟩

/-- The thread of the foremost inferior is the one that is found. -/
lemma Foremost.findThread (hs : s.Identified) {k b : String} {thread : ThreadState}
    (h : s.Foremost k b) (hholds : s.Holds k i b thread) :
    s.findThread b = some (i, thread) := by
  obtain ⟨i', thread', hfind⟩ := findThread_holds hs hholds
  obtain ⟨k', hholds', h'⟩ := findThread_foremost hs hfind
  -- each of the two inferiors stands before the other
  obtain rfl : k = k' := Std.LawfulEqCmp.eq_of_compare (Std.OrientedCmp.isLE_antisymm
    (h k' i' thread' hholds') (h' k i thread hholds))
  obtain rfl := Option.some.inj (hholds.1.symm.trans hholds'.1)
  obtain rfl := Option.some.inj (hholds.2.symm.trans hholds'.2)
  exact hfind

/-! ### What a resolution has checked -/

/-- The steps of a resolution that succeeds. -/
lemma resolveCommandContext_ok {context : CommandContext}
    (h : s.resolveCommandContext parameters = .ok context) :
    ∃ requested frameThread, s.requestedThread parameters = .ok requested ∧
      s.resolveFrame parameters = .ok (frameThread, context.frameLevel) ∧
      requireOneThread requested frameThread = .ok () ∧
      s.resolveDefaultThread = .ok context.defaultThread ∧
      s.selectThread parameters (requested <|> frameThread) context.defaultThread =
        .ok context.backendThread ∧
      context.observation = s.observationOf (context.backendThread <|> context.defaultThread)
        (context.frameLevel.getD 0) := by
  obtain ⟨requested, hrequested, h⟩ := except_bind_ok h
  obtain ⟨⟨frameThread, frameLevel⟩, hframe, h⟩ := except_bind_ok h
  obtain ⟨⟨⟩, hone, h⟩ := except_bind_ok h
  obtain ⟨default, hdefault, h⟩ := except_bind_ok h
  obtain ⟨backendThread, hselect, h⟩ := except_bind_ok h
  obtain ⟨level, hlevel, h⟩ := except_bind_ok h
  obtain rfl := Except.ok.inj h
  have hvalue : level = frameLevel.getD 0 := by
    unfold requireLevel at hlevel
    split at hlevel
    · exact (Except.ok.inj hlevel).symm
    · cases hlevel
  exact ⟨requested, frameThread, hrequested, hframe, hone, hdefault, hselect, by rw [hvalue]⟩

end SessionState

/-- A handle of an inferior, a thread or a frame is among the selectors. -/
def ContextParameters.NamesThread (parameters : ContextParameters) : Prop :=
  parameters.inferiorId.isSome ∨ parameters.threadId.isSome ∨ parameters.frameId.isSome

/-- The frame of the context has this level. -/
def ObservationContext.AtLevel (context : ObservationContext) (level : ℕ) : Prop :=
  ∃ thread, context.threadId = some thread ∧
    context.frameId = some (.new thread context.stopId level)

/-- The handle is that of the frame of the context. -/
def ObservationContext.OfFrame (context : ObservationContext) (handle : String) : Prop :=
  ∃ thread level, context.threadId = some thread ∧
    context.frameId = some (.new thread context.stopId level) ∧
    FrameOf thread context.stopId level handle

/-- The context agrees with every selector that was supplied. -/
structure ObservationContext.Agrees (context : ObservationContext)
    (parameters : ContextParameters) : Prop where
  inferior : ∀ handle, parameters.inferiorId = some handle → context.inferiorId = some ⟨handle⟩
  thread : ∀ handle, parameters.threadId = some handle → context.threadId = some ⟨handle⟩
  frame : ∀ handle, parameters.frameId = some handle → context.OfFrame handle
  level : ∀ level, parameters.frameLevel = some level → context.AtLevel level

namespace SessionState

variable {s : SessionState} {parameters : ContextParameters}

/-- Every handle among the selectors names the thread, or its inferior.  An inferior handle alone
stands for the thread in focus or for the only one. -/
structure Names (s : SessionState) (parameters : ContextParameters) (i : InferiorState) (t : String)
    (named : ThreadState) : Prop where
  inferior : ∀ handle, parameters.inferiorId = some handle → i.id = ⟨handle⟩
  thread : ∀ handle, parameters.threadId = some handle → named.id = ⟨handle⟩
  frame : ∀ handle, parameters.frameId = some handle →
    ∃ stop level, s.stopId = some stop ∧ FrameOf named.id stop level handle
  alone : parameters.threadId = none → parameters.frameId = none →
    s.Focus t ∨ i.threads.toList = [(t, named)]

/-- The observation is that of a thread and a level. -/
structure Observes (s : SessionState) (observation : ObservationContext) (i : InferiorState)
    (observed : ThreadState) (level : ℕ) : Prop where
  inferior : observation.inferiorId = some i.id
  thread : observation.threadId = some observed.id
  frame : observation.frameId = some (.new observed.id observation.stopId level)
  stop : s.stopId = some observation.stopId

/-- Something is observed at a stop without a thread. -/
lemma observationOf_none {stop : StopId} (hstop : s.stopId = some stop) (level : ℕ) :
    ∃ observation, s.observationOf none level = some observation := by
  simp only [observationOf, observationContext, hstop, Option.bind_none]
  exact ⟨_, rfl⟩

/-- The thread that is found is the one that is observed. -/
lemma observationOf_some {stop : StopId} (hstop : s.stopId = some stop) {b : String}
    {i : InferiorState} {thread : ThreadState} (h : s.findThread b = some (i, thread)) (level : ℕ) :
    ∃ observation, s.observationOf (some b) level = some observation ∧
      s.Observes observation i thread level := by
  simp only [observationOf, observationContext, hstop, Option.bind_some, h]
  exact ⟨_, rfl, rfl, rfl, rfl, hstop⟩

section Resolution

variable (hs : s.Identified) {context : CommandContext}
  (h : s.resolveCommandContext parameters = .ok context)
include hs h

/-- A backend thread is selected exactly when a handle is among the selectors, and it is a
registered one. -/
lemma backendThread_cases :
    (¬ parameters.NamesThread ∧ context.backendThread = none) ∨
      (parameters.NamesThread ∧
        ∃ k i t thread, s.Holds k i t thread ∧ context.backendThread = some t) := by
  obtain ⟨requested, frameThread, hrequested, hframe, -, -, hselect, -⟩ :=
    resolveCommandContext_ok h
  rcases selectThread_ok hs hselect with ⟨hinferior, hafter⟩ | ⟨handle, k, i, t, thread, hinferior,
    hholds, -, hafter, -⟩
  · rcases requestedThread_ok hs hrequested with ⟨hthread, rfl⟩ | ⟨_, k, i, t, thread, hthread,
      hholds, -, rfl⟩
    · rcases resolveFrame_ok hs hframe with ⟨hid, rfl, -⟩ | ⟨_, _, k, i, t, thread, _, hid, -,
        hholds, -, rfl, -⟩
      · refine .inl ⟨?_, hafter⟩
        simp [ContextParameters.NamesThread, hinferior, hthread, hid]
      · exact .inr ⟨.inr (.inr (by rw [hid]; rfl)), k, i, t, thread, hholds, hafter⟩
    · exact .inr ⟨.inr (.inl (by rw [hthread]; rfl)), k, i, t, thread, hholds, hafter⟩
  · exact .inr ⟨.inl (by rw [hinferior]; rfl), k, i, t, thread, hholds, hafter⟩

omit h in
/-- The thread that the resolution has selected before the inferior handle stays selected. -/
lemma selectThread_some {b : String} {default after : Option String}
    (h : s.selectThread parameters (some b) default = .ok after) : after = some b := by
  rcases selectThread_ok hs h with ⟨-, hafter⟩ | ⟨_, _, _, _, _, -, -, -, hafter, hbefore | hbefore⟩
  · exact hafter
  · rw [hafter, hbefore]
  · cases hbefore.1

/-- An inferior handle alone selects the thread in focus or the only one. -/
lemma selectThread_alone (hthread : parameters.threadId = none) (hframe : parameters.frameId = none)
    (hnames : parameters.NamesThread) :
    ∃ handle k i t thread, parameters.inferiorId = some handle ∧ s.Holds k i t thread ∧
      i.id = ⟨handle⟩ ∧ context.backendThread = some t ∧
      (s.Focus t ∨ i.threads.toList = [(t, thread)]) := by
  obtain ⟨requested, frameThread, hrequested, hresolve, -, hdefault, hselect, -⟩ :=
    resolveCommandContext_ok h
  have hrequested : requested = none := by
    simpa [requestedThread, hthread] using hrequested.symm
  have hresolve : frameThread = none := by
    simp only [resolveFrame, hframe] at hresolve
    exact (Prod.mk.inj (Except.ok.inj hresolve)).1.symm
  rw [hrequested, hresolve] at hselect
  rcases selectThread_ok hs hselect with ⟨hinferior, -⟩ | ⟨handle, k, i, t, thread, hinferior, hholds,
    hid, hafter, hbefore | ⟨-, hbefore⟩⟩
  · simp [ContextParameters.NamesThread, hinferior, hthread, hframe] at hnames
  · cases hbefore
  · refine ⟨handle, k, i, t, thread, hinferior, hholds, hid, hafter, hbefore.imp_left ?_⟩
    exact fun hfocus => (resolveDefaultThread_some hs).mp (by rw [hdefault, hfocus])

/-- The thread that every handle names is the one that is selected. -/
lemma Names.backendThread (hc : s.Coherent) {k t : String} {i : InferiorState} {thread : ThreadState}
    (hnamed : s.Names parameters i t thread) (hholds : s.Holds k i t thread)
    (hnames : parameters.NamesThread) : context.backendThread = some t := by
  obtain ⟨requested, frameThread, hrequested, hframe, -, -, hselect, -⟩ :=
    resolveCommandContext_ok h
  rcases requestedThread_ok hs hrequested with ⟨hthread, rfl⟩ | ⟨handle, k', i', t', thread', hthread,
    hholds', hid, rfl⟩
  · rcases resolveFrame_ok hs hframe with ⟨hnone, rfl, -⟩ | ⟨handle, stop, k', i', t', thread', n, hid,
      hstop, hholds', hhandle, rfl, -⟩
    · obtain ⟨handle, k', i', t', thread', hinferior, hholds', hid, hafter, halone⟩ :=
        selectThread_alone hs h hthread hnone hnames
      obtain ⟨rfl, rfl⟩ := hs.inferior_inj hholds.1 hholds'.1
        ((hnamed.inferior handle hinferior).trans hid.symm)
      have hsame : t' = t := by
        rcases halone with hfocus' | hlist
        · rcases hnamed.alone hthread hnone with hfocus | hlist
          · have hdefault := (resolveDefaultThread_some hs).mpr hfocus'
            rw [(resolveDefaultThread_some hs).mpr hfocus] at hdefault
            exact (Option.some.inj (Except.ok.inj hdefault)).symm
          · exact ((holds_iff_of_toList hholds.1 hlist).mp hholds').1
        · exact ((holds_iff_of_toList hholds.1 hlist).mp hholds).1.symm
      rw [hafter, hsame]
    · obtain ⟨stop', n', hstop', hframe'⟩ := hnamed.frame handle hid
      obtain rfl := Option.some.inj (hstop.symm.trans hstop')
      obtain ⟨m, -, rfl⟩ := hc.fresh stop hstop
      obtain ⟨hlead, -⟩ := hframe'.split hhandle
      obtain ⟨hthread, -⟩ := frameLead_inj (hs.ofSession hholds) (hs.ofSession hholds') hlead
      obtain ⟨-, rfl, -⟩ := hs.thread_inj hholds hholds' hthread
      exact selectThread_some hs hselect
  · obtain ⟨-, rfl, -⟩ := hs.thread_inj hholds hholds'
      ((hnamed.thread handle hthread).trans hid.symm)
    exact selectThread_some hs hselect

/-- The observation of a thread agrees with the selectors exactly when every handle names that
thread. -/
lemma agrees_iff {k b : String} {i : InferiorState} {thread : ThreadState}
    (hholds : s.Holds k i b thread)
    (hselected : parameters.NamesThread → context.backendThread = some b)
    {observation : ObservationContext}
    (hobserves : s.Observes observation i thread (context.frameLevel.getD 0)) :
    observation.Agrees parameters ↔ (parameters.NamesThread → s.Names parameters i b thread) := by
  obtain ⟨_, _, -, hframe, -, -, -, -⟩ := resolveCommandContext_ok h
  have hresolve := resolveFrame_ok hs hframe
  constructor
  · intro hagrees hnames
    refine ⟨?_, ?_, ?_, ?_⟩
    · exact fun handle hhandle =>
        Option.some.inj (hobserves.inferior.symm.trans (hagrees.inferior handle hhandle))
    · exact fun handle hhandle =>
        Option.some.inj (hobserves.thread.symm.trans (hagrees.thread handle hhandle))
    · intro handle hhandle
      obtain ⟨id, level, hid, -, hof⟩ := hagrees.frame handle hhandle
      obtain rfl := Option.some.inj (hobserves.thread.symm.trans hid)
      exact ⟨_, level, hobserves.stop, hof⟩
    · intro hthread hnone
      obtain ⟨handle, k', i', t', thread', hinferior, hholds', hid, hafter, halone⟩ :=
        selectThread_alone hs h hthread hnone hnames
      obtain rfl := Option.some.inj ((hselected hnames).symm.trans hafter)
      have hsame := Option.some.inj (hobserves.inferior.symm.trans (hagrees.inferior handle hinferior))
      obtain ⟨rfl, rfl⟩ := hs.inferior_inj hholds.1 hholds'.1 (hsame.trans hid.symm)
      obtain rfl := Option.some.inj (hholds.2.symm.trans hholds'.2)
      exact halone
  · intro hnamed
    refine ⟨?_, ?_, ?_, ?_⟩
    · intro handle hhandle
      rw [hobserves.inferior, (hnamed (.inl (by rw [hhandle]; rfl))).inferior handle hhandle]
    · intro handle hhandle
      rw [hobserves.thread, (hnamed (.inr (.inl (by rw [hhandle]; rfl)))).thread handle hhandle]
    · intro handle hhandle
      obtain ⟨stop, level, hstop, hof⟩ :=
        (hnamed (.inr (.inr (by rw [hhandle]; rfl)))).frame handle hhandle
      obtain rfl := Option.some.inj (hobserves.stop.symm.trans hstop)
      rcases hresolve with ⟨hnone, -⟩ |
        ⟨handle', stop', _, _, _, _, n, hhandle', -, -, hof', -, hlevel, -⟩
      · rw [hnone] at hhandle
        cases hhandle
      · obtain rfl := Option.some.inj (hhandle'.symm.trans hhandle)
        obtain ⟨-, rfl⟩ := hof.split hof'
        have hframeId := hobserves.frame
        rw [hlevel] at hframeId
        exact ⟨thread.id, level, hobserves.thread, hframeId, hof⟩
    · intro n hn
      have hframeId := hobserves.frame
      rw [show context.frameLevel = some n from by
        rcases hresolve with ⟨-, -, hlevel⟩ | ⟨_, _, _, _, _, _, _, -, -, -, -, -, hlevel, hsame⟩
        · rw [hlevel, hn]
        · rw [hlevel, hsame n hn]] at hframeId
      exact ⟨thread.id, hobserves.thread, hframeId⟩

end Resolution

end SessionState

/-! ### The options that a command carries -/

/-- The arguments of an option. -/
def optionArguments (option : String) : Option String → List MiArgument
  | none => []
  | some value => [.bare option, .bare value]

/-- Arguments read as options, each with its value. -/
def optionPairs : List MiArgument → List (MiArgument × MiArgument)
  | option :: value :: rest => (option, value) :: optionPairs rest
  | _ => []

/-- The command carries an option, which was put in front of the arguments of another one. -/
def MiCommand.Carries (built command : MiCommand) (option value : String) : Prop :=
  ∃ options, built.arguments = options ++ command.arguments ∧
    (.bare option, .bare value) ∈ optionPairs options

lemma MiCommand.bare_ok {command built : MiCommand} {value : String}
    (h : command.bare value = .ok built) :
    built = { command with arguments := command.arguments ++ [.bare value] } := by
  unfold MiCommand.bare at h
  split at h
  · cases h
  · exact (Except.ok.inj h).symm

lemma MiCommand.bareOption_ok {command built : MiCommand} {option : String} {value : Option String}
    (h : command.bareOption option value = .ok built) :
    built.arguments = command.arguments ++ optionArguments option value := by
  cases value with
  | none =>
    obtain rfl := Except.ok.inj h
    exact (List.append_nil _).symm
  | some value =>
    obtain ⟨first, hfirst, hbuilt⟩ := except_bind_ok h
    rw [MiCommand.bare_ok hbuilt, MiCommand.bare_ok hfirst]
    simp [optionArguments]

/-- The options in front of the arguments are read back. -/
lemma carries_iff {built command : MiCommand} {thread frame : Option String}
    (h : built.arguments = optionArguments "--thread" thread ++ optionArguments "--frame" frame ++
      command.arguments) (value : String) :
    (built.Carries command "--thread" value ↔ thread = some value) ∧
      (built.Carries command "--frame" value ↔ frame = some value) := by
  have hoptions : ∀ option, built.Carries command option value ↔ (.bare option, .bare value) ∈
      optionPairs (optionArguments "--thread" thread ++ optionArguments "--frame" frame) := by
    intro option
    constructor
    · rintro ⟨options, hbuilt, hmem⟩
      rwa [List.append_cancel_right (h.symm.trans hbuilt)]
    · exact fun hmem => ⟨_, h, hmem⟩
  rw [hoptions, hoptions]
  cases thread <;> cases frame <;> simp [optionArguments, optionPairs, eq_comm]

namespace SessionState

variable {s : SessionState}

lemma contextOptions_ok {command built : MiCommand} {parameters : Json}
    (h : s.contextOptions command parameters = .ok built) :
    ∃ context, s.resolveCommandContext (.ofJson parameters) = .ok context ∧
      built.arguments = optionArguments "--thread" (context.threadFor command.name) ++
        optionArguments "--frame" ((context.levelFor command.name).map toString) ++
          command.arguments := by
  obtain ⟨⟨⟩, -, h⟩ := except_bind_ok h
  obtain ⟨context, hcontext, h⟩ := except_bind_ok h
  obtain ⟨named, hnamed, h⟩ := except_bind_ok h
  obtain ⟨threaded, hthread, h⟩ := except_bind_ok h
  obtain ⟨framed, hframe, h⟩ := except_bind_ok h
  obtain rfl := Except.ok.inj h
  have hempty : named.arguments = [] := by
    unfold MiCommand.new at hnamed
    split at hnamed
    · rw [← Except.ok.inj hnamed]
    · cases hnamed
  refine ⟨context, hcontext, ?_⟩
  rw [MiCommand.bareOption_ok hframe, MiCommand.bareOption_ok hthread, hempty, List.nil_append]

variable {context : CommandContext}

/-- A command is run in a thread if a handle selects one, or if it takes the thread in focus and
there is one. -/
lemma threadFor_isSome (hs : s.Identified) {parameters : ContextParameters}
    (h : s.resolveCommandContext parameters = .ok context) (command : String) :
    (context.threadFor command).isSome ↔
      parameters.NamesThread ∨ (commandUsesStopFocus command = true ∧ ∃ b, s.Focus b) := by
  obtain ⟨_, _, -, -, -, hdefault, -, -⟩ := resolveCommandContext_ok h
  have hhas : (∃ b, s.Focus b) ↔ context.defaultThread.isSome := by
    simp only [← resolveDefaultThread_some hs]
    rw [hdefault, Option.isSome_iff_exists]
    exact exists_congr fun b => ⟨Except.ok.inj, congrArg _⟩
  unfold CommandContext.threadFor
  rw [hhas]
  rcases backendThread_cases hs h with ⟨hnames, hbackend⟩ | ⟨hnames, k, i, t, thread, -, hbackend⟩
  · rw [hbackend]
    cases hfocus : commandUsesStopFocus command with
    | false => simp [hnames]
    | true => simp [hnames]
  · simp [hbackend, hnames]

/-- A command is run in a frame if its level is asked for, or if it takes the top frame. -/
lemma levelFor_isSome (hs : s.Identified) {parameters : ContextParameters}
    (h : s.resolveCommandContext parameters = .ok context) (command : String) :
    (context.levelFor command).isSome ↔ parameters.frameLevel.isSome ∨ parameters.frameId.isSome ∨
      commandUsesTopFrame command = true := by
  obtain ⟨_, _, -, hframe, -, -, -, -⟩ := resolveCommandContext_ok h
  unfold CommandContext.levelFor
  rcases resolveFrame_ok hs hframe with ⟨hid, -, hlevel⟩ |
    ⟨_, _, _, _, _, _, n, hid, -, -, -, -, hlevel, -⟩
  · rw [hlevel, hid]
    cases htop : commandUsesTopFrame command <;> cases parameters.frameLevel <;> simp
  · rw [hlevel, hid]
    simp

/-- The level of the frame is that of the resolution. -/
lemma levelFor_eq {command : String} {level : ℕ} (h : context.levelFor command = some level) :
    level = context.frameLevel.getD 0 := by
  unfold CommandContext.levelFor at h
  cases hlevel : context.frameLevel with
  | none =>
    rw [hlevel] at h
    cases htop : commandUsesTopFrame command with
    | false => simp [htop] at h
    | true => simpa [htop] using h.symm
  | some n =>
    rw [hlevel] at h
    exact (Option.some.inj h).symm

/-- The thread of the command is the selected one. -/
lemma threadFor_eq {command b : String} (h : context.threadFor command = some b) :
    (context.backendThread <|> context.defaultThread) = some b := by
  unfold CommandContext.threadFor at h
  cases hbackend : context.backendThread with
  | none =>
    rw [hbackend] at h
    cases hfocus : commandUsesStopFocus command with
    | false => simp [hfocus] at h
    | true => simpa [hfocus] using h
  | some b' =>
    rw [hbackend] at h
    exact h

/-- What the observation says of a command: it agrees with the selectors, the thread option names
the observed thread within the observed inferior, and the frame option comes with a thread and has
the level of the observed frame. -/
structure Attributed (s : SessionState) (command built : MiCommand) (parameters : Json)
    (observation : ObservationContext) : Prop where
  agrees : observation.Agrees (.ofJson parameters)
  thread : ∀ t, built.Carries command "--thread" t →
    ∃ k i key thread, s.Holds k i key thread ∧ observation.inferiorId = some i.id ∧
      observation.threadId = some thread.id ∧ thread.backendId = t
  frame : ∀ n, built.Carries command "--frame" n → (∃ t, built.Carries command "--thread" t) ∧
    ∃ level, n = toString level ∧ observation.AtLevel level

section Attribution

variable {command built : MiCommand} {parameters : Json} {context : CommandContext}
  (hs : s.Identified) (hcontext : s.resolveCommandContext (.ofJson parameters) = .ok context)
  (harguments : built.arguments = optionArguments "--thread" (context.threadFor command.name) ++
    optionArguments "--frame" ((context.levelFor command.name).map toString) ++ command.arguments)
include hs hcontext harguments

omit hs hcontext in
/-- A frame is selected with a thread, if the observation accounts for the command. -/
lemma Attributed.threaded {observation : ObservationContext}
    (h : s.Attributed command built parameters observation)
    (hlevel : (context.levelFor command.name).isSome) :
    (context.threadFor command.name).isSome := by
  obtain ⟨level, hlevel⟩ := Option.isSome_iff_exists.mp hlevel
  have hframe : built.Carries command "--frame" (toString level) :=
    (carries_iff harguments _).2.mpr (by rw [hlevel]; rfl)
  obtain ⟨⟨t, ht⟩, -⟩ := h.frame _ hframe
  rw [(carries_iff harguments t).1.mp ht]
  rfl

omit hs hcontext in
/-- The observation of a registered thread accounts for a command whose frame comes with a thread,
if it agrees with the selectors. -/
lemma attributed_of_observes {observation : ObservationContext} {k b : String} {i : InferiorState}
    {thread : ThreadState} (hholds : s.Holds k i b thread) (hb : thread.backendId = b)
    (hselected : (context.backendThread <|> context.defaultThread) = some b)
    (hobserves : s.Observes observation i thread (context.frameLevel.getD 0))
    (hagrees : observation.Agrees (.ofJson parameters))
    (hthreaded : (context.levelFor command.name).isSome → (context.threadFor command.name).isSome) :
    s.Attributed command built parameters observation where
  agrees := hagrees
  thread t ht := by
    have hfor := threadFor_eq ((carries_iff harguments t).1.mp ht)
    obtain rfl := Option.some.inj (hfor.symm.trans hselected)
    exact ⟨k, i, t, thread, hholds, hobserves.inferior, hobserves.thread, hb⟩
  frame n hn := by
    obtain ⟨level, hlevel, rfl⟩ := Option.map_eq_some_iff.mp ((carries_iff harguments n).2.mp hn)
    obtain ⟨t, ht⟩ := Option.isSome_iff_exists.mp (hthreaded (by rw [hlevel]; rfl))
    refine ⟨⟨t, (carries_iff harguments t).1.mpr ht⟩, level, rfl, thread.id, hobserves.thread, ?_⟩
    rw [levelFor_eq hlevel]
    exact hobserves.frame

/-- Without a thread and without a frame there is nothing to account for. -/
lemma attributed_of_nothing (hnames : ¬ (ContextParameters.ofJson parameters).NamesThread)
    (hthread : context.threadFor command.name = none)
    (hlevel : context.levelFor command.name = none) (observation : ObservationContext) :
    s.Attributed command built parameters observation := by
  have hnone : ¬ (context.levelFor command.name).isSome := by simp [hlevel]
  rw [levelFor_isSome hs hcontext] at hnone
  simp only [ContextParameters.NamesThread] at hnames
  refine ⟨⟨?_, ?_, ?_, ?_⟩, ?_, ?_⟩
  · exact fun handle hhandle => absurd (.inl (by simp [hhandle])) hnames
  · exact fun handle hhandle => absurd (.inr (.inl (by simp [hhandle]))) hnames
  · exact fun handle hhandle => absurd (.inr (.inr (by simp [hhandle]))) hnames
  · exact fun level hhandle => absurd (.inl (by simp [hhandle])) hnone
  · intro t ht
    rw [(carries_iff harguments t).1, hthread] at ht
    cases ht
  · intro n hn
    rw [(carries_iff harguments n).2, hlevel] at hn
    cases hn

/-- The observation accounts for the command exactly when a frame is only selected with a thread,
and the handles name the foremost thread of a backend id. -/
lemma attributed_iff (hc : s.Coherent) {stop : StopId} (hstop : s.stopId = some stop) :
    (∃ observation, context.observation = some observation ∧
        s.Attributed command built parameters observation) ↔
      ((context.levelFor command.name).isSome → (context.threadFor command.name).isSome) ∧
      ((ContextParameters.ofJson parameters).NamesThread → ∃ k i t thread, s.Holds k i t thread ∧
        s.Names (.ofJson parameters) i t thread ∧ s.Foremost k t) := by
  obtain ⟨_, _, -, -, -, hdefault, -, hobservation⟩ := resolveCommandContext_ok hcontext
  rw [hobservation]
  rcases hselected : (context.backendThread <|> context.defaultThread) with _ | b
  · -- nothing is selected, so no handle is there and no thread is passed on
    obtain ⟨observation, hsome⟩ := observationOf_none hstop (context.frameLevel.getD 0)
    have hthread : context.threadFor command.name = none := by
      by_contra hsome
      obtain ⟨t, ht⟩ := Option.ne_none_iff_exists'.mp hsome
      rw [threadFor_eq ht] at hselected
      cases hselected
    have hnames : ¬ (ContextParameters.ofJson parameters).NamesThread := by
      intro hnames
      have hsome := (threadFor_isSome hs hcontext command.name).mpr (.inl hnames)
      rw [hthread] at hsome
      cases hsome
    constructor
    · rintro ⟨_, -, hattributed⟩
      exact ⟨hattributed.threaded harguments, fun h => absurd h hnames⟩
    · rintro ⟨hthreaded, -⟩
      have hlevel : context.levelFor command.name = none := by
        by_contra hsome
        have hnot := hthreaded (Option.isSome_iff_ne_none.mpr hsome)
        rw [hthread] at hnot
        cases hnot
      exact ⟨observation, hsome, attributed_of_nothing hs hcontext harguments hnames hthread hlevel _⟩
  · have hregistered : (∃ k i thread, s.Holds k i b thread) ∧
        ((ContextParameters.ofJson parameters).NamesThread → context.backendThread = some b) := by
      rcases backendThread_cases hs hcontext with ⟨hnot, hnone⟩ | ⟨-, k, i, t, thread, hholds, hsome⟩
      · rw [hnone] at hselected
        have hfocus := (resolveDefaultThread_some hs).mp (hdefault.trans (congrArg _ hselected))
        exact ⟨hfocus.holds, fun hnames => absurd hnames hnot⟩
      · rw [hsome] at hselected
        obtain rfl := Option.some.inj hselected
        exact ⟨⟨k, i, thread, hholds⟩, fun _ => hsome⟩
    obtain ⟨⟨k, i, thread, hholds⟩, hbackend⟩ := hregistered
    obtain ⟨i, thread, hfind⟩ := findThread_holds hs hholds
    obtain ⟨k, hholds, hforemost⟩ := findThread_foremost hs hfind
    obtain ⟨observation, hsome, hobserves⟩ :=
      observationOf_some hstop hfind (context.frameLevel.getD 0)
    have hagrees := agrees_iff hs hcontext hholds hbackend hobserves
    constructor
    · rintro ⟨_, hsome', hattributed⟩
      obtain rfl := Option.some.inj (hsome.symm.trans hsome')
      exact ⟨hattributed.threaded harguments, fun hnames =>
        ⟨k, i, b, thread, hholds, hagrees.mp hattributed.agrees hnames, hforemost⟩⟩
    · rintro ⟨hthreaded, hnamed⟩
      refine ⟨observation, hsome, attributed_of_observes harguments hholds (hs.backendId_eq hholds)
        hselected hobserves (hagrees.mpr fun hnames => ?_) hthreaded⟩
      -- the thread that the handles name is the observed one: both are the foremost of one id
      obtain ⟨k', i', t', thread', hholds', hnamed', hforemost'⟩ := hnamed hnames
      have hnamedId := hnamed'.backendThread hs hcontext hc hholds' hnames
      obtain rfl := Option.some.inj (hnamedId.symm.trans (hbackend hnames))
      have hfind' := hforemost'.findThread hs hholds'
      obtain ⟨rfl, rfl⟩ := Prod.mk.inj (Option.some.inj (hfind'.symm.trans hfind))
      exact hnamed'

end Attribution

/-- Commands and their observations agree exactly when no frame is selected without a thread and
the handles name a thread that is found again.  Where a level is asked for or the command takes the
top frame, a handle must select the thread, or the command takes the thread in focus and there is
one.  And if there are handles, they must all name one registered thread, whose backend id no
inferior in front of its own registers. -/
theorem context_attributed_iff (s : SessionState) (hreach : s.Reachable) (stop : StopId)
    (hstop : s.stopId = some stop) (command : MiCommand) (parameters : Json) (built : MiCommand)
    (observation : Option ObservationContext)
    (hbuilt : s.contextOptions command parameters = .ok built)
    (hobservation : s.requestObservation parameters = .ok observation) :
    (∃ context, observation = some context ∧ s.Attributed command built parameters context) ↔
      ((ContextParameters.ofJson parameters).frameLevel.isSome ∨
          commandUsesTopFrame command.name = true →
        (ContextParameters.ofJson parameters).NamesThread ∨
          (commandUsesStopFocus command.name = true ∧ ∃ b, s.Focus b)) ∧
      ((ContextParameters.ofJson parameters).NamesThread → ∃ k i t thread, s.Holds k i t thread ∧
        s.Names (.ofJson parameters) i t thread ∧ s.Foremost k t) := by
  have hs := hreach.identified
  obtain ⟨context, hcontext, harguments⟩ := contextOptions_ok hbuilt
  have hsame : context.observation = observation := by
    unfold requestObservation at hobservation
    rw [hcontext] at hobservation
    exact Except.ok.inj hobservation
  rw [← hsame, attributed_iff hs hcontext harguments hreach.coherent hstop, levelFor_isSome hs hcontext,
    threadFor_isSome hs hcontext]
  refine and_congr_left fun _ => ?_
  constructor
  · exact fun h hlevel => h (hlevel.imp_right .inr)
  · rintro h (hlevel | hframe | htop)
    · exact h (.inl hlevel)
    · exact .inl (.inr (.inr hframe))
    · exact h (.inr htop)

/-- The parameters that ask for the caller of the top frame. -/
def callerParameters : Json := .object [("frame_level", .unsigned 1)]

/-- An expression is evaluated in the caller of the stopped frame, in the thread of the stop. -/
theorem caller_evaluation_attributed :
    ∃ built context,
      stoppedSession.contextOptions ⟨"-data-evaluate-expression", [.string (utf8 "x")]⟩
        callerParameters = .ok built ∧
      stoppedSession.requestObservation callerParameters = .ok (some context) ∧
      stoppedSession.Attributed ⟨"-data-evaluate-expression", [.string (utf8 "x")]⟩ built
        callerParameters context := by
  have hreach : stoppedSession.Reachable := ⟨_, _, .cons applies_stoppedSession (.nil _)⟩
  have hfocus : stoppedSession.Focus "1" := (resolveDefaultThread_some hreach.identified).mp rfl
  obtain ⟨context, hsome, hattributed⟩ := (context_attributed_iff stoppedSession hreach
    (.fromEvent ⟨"sess_x"⟩ 1) rfl ⟨"-data-evaluate-expression", [.string (utf8 "x")]⟩
    callerParameters ⟨"-data-evaluate-expression", [.bare "--thread", .bare "1", .bare "--frame",
      .bare "1", .string (utf8 "x")]⟩ _ rfl rfl).mpr
    ⟨fun _ => .inr ⟨by decide, "1", hfocus⟩, by rintro (h | h | h) <;> cases h⟩
  exact ⟨_, context, rfl, congrArg _ hsome, hattributed⟩

/-- The libraries are listed with a frame and no thread.  And where one backend thread id is
registered in two inferiors, the second thread is asked for and the first one is named. -/
theorem frame_without_thread :
    (stoppedSession.Reachable ∧ ∃ stop context, stoppedSession.stopId = some stop ∧
      stoppedSession.contextOptions ⟨"-file-list-shared-libraries", []⟩ callerParameters =
        .ok ⟨"-file-list-shared-libraries", [.bare "--frame", .bare "1"]⟩ ∧
      stoppedSession.requestObservation callerParameters = .ok (some context) ∧
      ¬ stoppedSession.Attributed ⟨"-file-list-shared-libraries", []⟩
        ⟨"-file-list-shared-libraries", [.bare "--frame", .bare "1"]⟩ callerParameters context) ∧
    ∃ (s : SessionState) (i : InferiorState) (thread : ThreadState) (stop : StopId)
      (built : MiCommand) (context : ObservationContext), s.Reachable ∧ s.stopId = some stop ∧
      s.Holds "i2" i "1" thread ∧
      s.contextOptions ⟨"-stack-info-frame", []⟩
        (.object [("thread_id", .string thread.id.text)]) = .ok built ∧
      s.requestObservation (.object [("thread_id", .string thread.id.text)]) = .ok (some context) ∧
      context.threadId ≠ some thread.id := by
  refine ⟨⟨⟨⟨"sess_x"⟩, _, .cons applies_stoppedSession (.nil _)⟩, .fromEvent ⟨"sess_x"⟩ 1, _, rfl, rfl,
    rfl, ?_⟩, ?_⟩
  · intro hattributed
    obtain ⟨⟨t, options, hbuilt, hmem⟩, -⟩ := hattributed.frame "1"
      ⟨[.bare "--frame", .bare "1"], rfl, List.mem_singleton_self _⟩
    obtain rfl : [.bare "--frame", .bare "1"] = options := by simpa using hbuilt
    simp [optionPairs] at hmem
  · refine ⟨_, _, _, _, _, _, ⟨⟨"sess_x"⟩, [(1, .threadCreated "i1" "1"), (2, .threadCreated "i2" "1"),
      (3, .targetStopped (some "i1") (some "1") "breakpoint-hit" none none)],
      .cons ⟨true, rfl⟩ (.cons ⟨true, rfl⟩ (.cons ⟨true, rfl⟩ (.nil _)))⟩, rfl, ⟨rfl, rfl⟩, rfl, rfl, ?_⟩
    decide +kernel

end SessionState

end GdbAi
