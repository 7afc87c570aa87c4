import GdbAi.Gateway.Mediation
import GdbAi.Gateway.ModuleOffsets
import GdbAi.Gateway.Selection
import GdbAi.Reducer.Registries

/-!
# The process that is observed

A request selects an inferior; what `/proc` says of its process decides which memory may be read
and where a module lies.  The memory policy (`dispatch_checked`, `authorize_observation_memory`) and
`live_module_offset` look at the first process of the registry, `mappings` at the selected one.
`selected_process_observed_iff` says exactly when the two are the same.
-/

namespace GdbAi

open Procedure

namespace SessionState

/-- The process of the memory policy and of module offsets: the first one that is known. -/
def targetPid (s : SessionState) : Option ℕ :=
  (s.inferiors.toList.map Prod.snd).findSome? InferiorState.pid

/-- The process of `mappings`: the first one that is known among the selected inferiors. -/
def mappingsPid (s : SessionState) (inferior : Option InferiorId) : Option ℕ :=
  ((s.inferiors.toList.map Prod.snd).filter fun i => inferior.all fun id => i.id = id).findSome?
    InferiorState.pid

/-- The process of an inferior, if it is registered and its process is known. -/
def pidOf (s : SessionState) (inferior : InferiorId) : Option ℕ :=
  (s.inferiors.first fun _ i => i.id = inferior).bind fun entry => entry.2.pid

/-- The first inferior with a process, in the order of the backend ids, has that of the given
one. -/
def Leads (s : SessionState) (inferior : InferiorId) : Prop :=
  ∀ (k : String) (i : InferiorState), s.inferiors[k]? = some i → i.pid.isSome →
    (∀ (k' : String) (i' : InferiorState), s.inferiors[k']? = some i' → i'.pid.isSome →
      (compare k k').isLE) → s.pidOf inferior = i.pid

variable {s : SessionState}

instance (inferior : InferiorId) : Decidable (s.Leads inferior) :=
  decidable_of_iff (∀ entry ∈ s.inferiors.toList, entry.2.pid.isSome →
    (∀ entry' ∈ s.inferiors.toList, entry'.2.pid.isSome → (compare entry.1 entry'.1).isLE) →
      s.pidOf inferior = entry.2.pid) <| by
    simp only [Leads, Prod.forall, Std.ExtTreeMap.mem_toList_iff_getElem?_eq_some]

/-- The process of a registered inferior is its own. -/
lemma pidOf_eq (hs : s.Identified) {k : String} {i : InferiorState} (hi : s.inferiors[k]? = some i) :
    s.pidOf i.id = i.pid := by
  unfold pidOf
  rw [hs.first_eq hi]
  rfl

lemma pidOf_none {inferior : InferiorId} (h : ∀ (k : String) (i : InferiorState),
    s.inferiors[k]? = some i → i.pid = none) : s.pidOf inferior = none := by
  unfold pidOf
  cases hfirst : s.inferiors.first fun _ i => i.id = inferior with
  | none => rfl
  | some found => exact h _ _ (Registry.first_eq_some hfirst).1

/-- The first process is that of the inferior exactly when it leads. -/
lemma leads_iff {inferior : InferiorId} : s.Leads inferior ↔ s.targetPid = s.pidOf inferior := by
  cases htarget : s.targetPid with
  | none =>
    have hnone : ∀ (k : String) (i : InferiorState), s.inferiors[k]? = some i → i.pid = none :=
      fun k i hi => Registry.findSome?_values_none htarget hi
    rw [pidOf_none hnone, eq_self, iff_true]
    intro k i hi hpid
    rw [hnone k i hi] at hpid
    cases hpid
  | some pid =>
    obtain ⟨k, i, hi, hpid, hleast⟩ := Registry.findSome?_values htarget
    constructor
    · intro h
      rw [h k i hi (by rw [hpid]; rfl) hleast, hpid]
    · intro h k' i' hi' hpid' hleast'
      -- each of the two inferiors stands before the other
      obtain rfl : k = k' := Std.LawfulEqCmp.eq_of_compare (Std.OrientedCmp.isLE_antisymm
        (hleast k' i' hi' hpid') (hleast' k i hi (by rw [hpid]; rfl)))
      obtain rfl := Option.some.inj (hi.symm.trans hi')
      rw [← h, hpid]

/-- `mappings` looks at the process of the selected inferior, whatever else is registered. -/
lemma mappingsPid_eq_pidOf (hs : s.Identified) (inferior : InferiorId) :
    s.mappingsPid (some inferior) = s.pidOf inferior := by
  have hmem : ∀ i, i ∈ (s.inferiors.toList.map Prod.snd).filter
      (fun i => (some inferior).all fun id => i.id = id) ↔
        (∃ k : String, s.inferiors[k]? = some i) ∧ i.id = inferior := by
    intro i
    simp [Std.ExtTreeMap.mem_toList_iff_getElem?_eq_some]
  cases hpid : s.mappingsPid (some inferior) with
  | some pid =>
    obtain ⟨i, hi, hfound⟩ := List.exists_of_findSome?_eq_some hpid
    obtain ⟨⟨k, hk⟩, rfl⟩ := (hmem i).mp hi
    rw [pidOf_eq hs hk, hfound]
  | none =>
    unfold pidOf
    cases hfirst : s.inferiors.first fun _ i => i.id = inferior with
    | none => rfl
    | some found =>
      obtain ⟨hfound, hid⟩ := Registry.first_eq_some hfirst
      exact (List.findSome?_eq_none_iff.mp hpid _
        ((hmem _).mpr ⟨⟨_, hfound⟩, of_decide_eq_true hid⟩)).symm

end SessionState

/-! ### Classifications -/

/-- Every range has been classified by the mappings of the first process at that moment. -/
def ByTargetPid (host : MemoryHost) (trace : List MemoryAccess) : Prop :=
  ∀ before step after, trace = before ++ step :: after →
    ∀ start length effect, step = .classified start length effect →
      effect = rangeEffect (host.state before).targetOrigin (host.state before).targetPid
        (host.maps before) start length

/-- A step that classifies nothing may follow. -/
lemma ByTargetPid.append {host : MemoryHost} {trace : List MemoryAccess}
    (h : ByTargetPid host trace) {step : MemoryAccess}
    (hstep : ∀ start length effect, step ≠ .classified start length effect) :
    ByTargetPid host (trace ++ [step]) :=
  forall_split_append h fun start length effect heq => absurd heq (hstep start length effect)

/-- Every step of a request keeps to the first process. -/
lemma closed_byTargetPid (host : MemoryHost) : Access.Closed host (ByTargetPid host) where
  evaluated _ _ h := h.append (by simp)
  image _ _ _ h := h.append (by simp)
  other _ h := h.append (by simp)
  read _ _ _ h := h.append (by simp)
  classified _ _ _ h := by
    refine forall_split_append h ?_
    rintro start length effect ⟨⟩
    rfl

/-- Whatever a request does, it classifies ranges by the mappings of the first process. -/
lemma accesses_byTargetPid (request : ApiRequest) (caller : Caller) (host : MemoryHost) :
    ByTargetPid host (request.accesses caller host) :=
  Meets.state ((closed_byTargetPid host).dispatch request caller [] (by simp [ByTargetPid]))

namespace SessionState

variable {s : SessionState}

/-- An observation always names an inferior: that of the selected thread, or the stopped one. -/
lemma requestObservation_inferior (hs : s.Filed) {parameters : Json} {context : ObservationContext}
    (h : s.requestObservation parameters = .ok (some context)) :
    ∃ inferior, context.inferiorId = some inferior := by
  obtain ⟨resolved, hresolved, h⟩ := except_bind_ok h
  obtain ⟨_, _, -, -, -, -, -, hobservation⟩ := resolveCommandContext_ok hresolved
  have hsome := hobservation.symm.trans (Except.ok.inj h)
  unfold observationOf at hsome
  split at hsome
  · obtain rfl := Option.some.inj hsome
    exact ⟨_, rfl⟩
  · obtain ⟨stop, hstop, hcontext⟩ := Option.bind_eq_some_iff.mp hsome
    obtain rfl := Option.some.inj hcontext
    obtain ⟨inferior, hinferior⟩ :=
      Option.isSome_iff_exists.mp (hs.context (by rw [hstop]; rfl)).2.2
    exact ⟨inferior, hinferior⟩

/-- The mappings are asked for in local sessions only. -/
lemma rangeEffect_of_not_live {origin : TargetOrigin} (h : ¬ (origin = .local ∨ origin = .attach))
    (pid pid' : Option ℕ) (maps : ℕ → Option String) (start length : ℕ) :
    rangeEffect origin pid maps start length = rangeEffect origin pid' maps start length := by
  cases origin <;> first | rfl | simp at h

/-- Mappings that only one process has, those of a library. -/
def onlyMapped (pid process : ℕ) : Option String :=
  if process = pid then some (printMaps [libraryLine]) else none

/-- The library is found in that process alone. -/
lemma moduleOffsetOf_onlyMapped (pid process : ℕ) :
    moduleOffsetOf process (onlyMapped pid) (fun _ => none) libraryPath 0 =
      if process = pid then some 0x4000 else none := by
  have haddress : moduleOffsetFromMaps (printMaps [libraryLine]) libraryPath none 0 =
      some 0x4000 := by decide +kernel
  unfold moduleOffsetOf onlyMapped
  split
  · rw [Option.bind_some, if_pos (show libraryPath.head? = some '/' from rfl), haddress]
  · rfl

/-- Process facts come from the process of the inferior that the request selects exactly when the
session is not local, or the first inferior with a process has the process of that inferior: the
mappings of that process decide every classification, at dispatch and in the observations of any
request, and resolve module offsets.  `mappings` always looks at that process. -/
theorem selected_process_observed_iff (s : SessionState) (hs : s.Reachable) (parameters : Json)
    (context : ObservationContext)
    (hcontext : s.requestObservation parameters = .ok (some context)) :
    ∃ inferior, context.inferiorId = some inferior ∧
      s.mappingsPid context.inferiorId = s.pidOf inferior ∧
      ((∀ (request : ApiRequest) (caller : Caller) (host : MemoryHost) before after start length
          effect, request.accesses caller host =
            before ++ .classified start length effect :: after → host.state before = s →
        effect = rangeEffect s.targetOrigin (s.pidOf inferior) (host.maps before) start length) ∧
      (∀ maps canonicalize module offset,
        s.liveModuleOffset maps canonicalize module offset =
          if s.targetOrigin = .local ∨ s.targetOrigin = .attach then
            (s.pidOf inferior).bind fun pid => moduleOffsetOf pid maps canonicalize module offset
          else none) ↔
        (s.targetOrigin = .local ∨ s.targetOrigin = .attach → s.Leads inferior)) := by
  obtain ⟨session, es, hrun⟩ := hs
  obtain ⟨inferior, hinferior⟩ :=
    requestObservation_inferior ((filed_creating session).run hrun) hcontext
  refine ⟨inferior, hinferior, ?_, ?_, ?_⟩
  · rw [hinferior]
    exact mappingsPid_eq_pidOf ((identified_creating session).run hrun) inferior
  · rintro ⟨-, hmodules⟩ hlive
    rw [leads_iff]
    cases htarget : s.targetPid with
    | none =>
      exact (pidOf_none fun k i hi => Registry.findSome?_values_none htarget hi).symm
    | some pid =>
      -- the first process alone has a library, and it is found there
      have hfound := hmodules (onlyMapped pid) (fun _ => none) libraryPath 0
      simp only [moduleOffsetOf_onlyMapped, liveModuleOffset, if_pos hlive] at hfound
      change s.targetPid.bind _ = _ at hfound
      rw [htarget, Option.bind_some, if_pos rfl] at hfound
      obtain ⟨process, hprocess, hsame⟩ := Option.bind_eq_some_iff.mp hfound.symm
      rw [hprocess, (Option.ite_none_right_eq_some.mp hsame).1]
  · intro hleads
    refine ⟨fun request caller host before after start length effect haccesses hstate => ?_,
      fun maps canonicalize module offset => ?_⟩
    · have heffect := accesses_byTargetPid request caller host before _ after haccesses start
        length effect rfl
      rw [hstate] at heffect
      by_cases hlive : s.targetOrigin = .local ∨ s.targetOrigin = .attach
      · rwa [leads_iff.mp (hleads hlive)] at heffect
      · rw [heffect, rangeEffect_of_not_live hlive]
    · unfold liveModuleOffset
      split
      · rename_i hlive
        rw [← leads_iff.mp (hleads hlive)]
        rfl
      · rfl

/-! ### One process, and two -/

/-- A local session with the processes `7` and `8`, stopped in one of its inferiors. -/
def twoProcesses (stopped : String) : SessionState :=
  [(1, .targetConfigured .local), (2, .inferiorAdded "i1" (some 7)),
    (3, .inferiorAdded "i2" (some 8)),
    (4, .targetStopped (some stopped) (some "1") "breakpoint-hit" none none)].foldl
    (fun s (journaled : ℕ × DomainEvent) =>
      ((s.applyEvent journaled.1 journaled.2).map Prod.fst).toOption.getD s) (creating ⟨"sess_x"⟩)

lemma reachable_twoProcesses (stopped : String) : (twoProcesses stopped).Reachable :=
  ⟨⟨"sess_x"⟩, [(1, .targetConfigured .local), (2, .inferiorAdded "i1" (some 7)),
      (3, .inferiorAdded "i2" (some 8)),
      (4, .targetStopped (some stopped) (some "1") "breakpoint-hit" none none)],
    .cons ⟨true, rfl⟩ (.cons ⟨true, rfl⟩ (.cons ⟨true, rfl⟩ (.cons ⟨true, rfl⟩ (.nil _))))⟩

/-- A host that is stopped in the state: an ordinary file lies at `0x7000` in the process `7`, a
device in the process `8`. -/
def processHost (s : SessionState) : MemoryHost where
  profile := .debugControl
  maximum := 1024 * 1024
  stackFrames := 64
  responseBytes := 1024 * 1024
  state := fun _ => s
  maps := fun _ pid =>
    if pid = 7 then some "7000-8000 r--p 00000000 08:01 9 /lib/a.so\n"
    else if pid = 8 then some "7000-8000 rw-s 00000000 00:05 4 /dev/mem\n" else none
  value := fun _ => .ok none
  contents := fun _ => .ok ()
  tracking := fun _ => []
  inputBytes := fun _ => .ok 0
  banners := fun _ => []
  proceeds := fun _ => .ok ()

/-- A read of eight bytes at `0x7000` at the current stop. -/
def currentRead : ApiRequest where
  requestId := "r1"
  sessionId := some "sess_x"
  method := .memoryRead
  parameters := .object [("accept_current_stop", .bool true), ("address", .string "0x7000"),
    ("length", .unsigned 8)]

/-- In a session that is stopped in the inferior of its first process, the read is classified by
the mappings of that process. -/
theorem first_process_observed :
    ∃ context inferior before after,
      (twoProcesses "i1").requestObservation (.object []) = .ok (some context) ∧
      context.inferiorId = some inferior ∧ (twoProcesses "i1").pidOf inferior = some 7 ∧
      currentRead.accesses ⟨"agent", false⟩ (processHost (twoProcesses "i1")) =
        before ++ .classified 0x7000 8 .ordinary :: after ∧
      .ordinary = rangeEffect .local (some 7) ((processHost (twoProcesses "i1")).maps before)
        0x7000 8 := by
  obtain ⟨inferior, hinferior, -, hiff⟩ := selected_process_observed_iff (twoProcesses "i1")
    (reachable_twoProcesses "i1") (.object []) _ rfl
  obtain rfl := Option.some.inj hinferior
  have hclassified := (hiff.mpr fun _ => by decide +kernel).1
  refine ⟨_, _, [.other], [.other, .other, .other, .read 0x7000 8, .other, .other], rfl, rfl,
    by decide +kernel, by decide +kernel, ?_⟩
  exact hclassified currentRead ⟨"agent", false⟩ (processHost (twoProcesses "i1")) [.other]
    [.other, .other, .other, .read 0x7000 8, .other, .other] 0x7000 8 .ordinary (by decide +kernel)
    rfl

/-- Stopped in the inferior of the second process, the session reads a device of that process: the
range is classified by the mappings of the first one, and so is the module looked for there. -/
theorem first_process_taken :
    (twoProcesses "i2").Reachable ∧ (twoProcesses "i2").stopId.isSome ∧
    ∃ context inferior, (twoProcesses "i2").requestObservation (.object []) = .ok (some context) ∧
      context.inferiorId = some inferior ∧ (twoProcesses "i2").pidOf inferior = some 8 ∧
      currentRead.accesses ⟨"agent", false⟩ (processHost (twoProcesses "i2")) =
        [.other, .classified 0x7000 8 .ordinary, .other, .other, .other, .read 0x7000 8, .other,
          .other] ∧
      rangeEffect .local (some 8) ((processHost (twoProcesses "i2")).maps []) 0x7000 8 = .volatile ∧
      (twoProcesses "i2").liveModuleOffset ((processHost (twoProcesses "i2")).maps []) (fun _ => none)
        "/lib/a.so".toList 0x234 = some 0x7234 ∧
      moduleOffsetOf 8 ((processHost (twoProcesses "i2")).maps []) (fun _ => none)
        "/lib/a.so".toList 0x234 = none := by
  refine ⟨reachable_twoProcesses "i2", rfl, _, _, rfl, rfl, ?_, ?_, ?_, ?_, ?_⟩ <;> decide +kernel

end SessionState

end GdbAi
