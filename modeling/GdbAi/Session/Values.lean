import GdbAi.Library.Numerals
import GdbAi.Session.Actor
import GdbAi.Session.Events
import GdbAi.Reducer.StopFence

/-!
# The table of value objects

A client refers to a variable object of GDB by a handle that belongs to one stop.  The worker keeps
the handles in a table.  Events that end a stop empty it, and a handle that is not in the table is
taken for a stale one if it does not name the current stop.

The table and the stop do not go together in every run: a handle may be registered behind the end
of its stop, and two kinds of events end a stop without emptying the table.  In the runs without
these three cases every handle in the table belongs to the current stop.
-/

namespace GdbAi

open Procedure Runs

/-! ### Handles -/

/-- The characters of a ULID. -/
def isUlidCharacter (character : Char) : Bool :=
  "0123456789ABCDEFGHJKMNPQRSTVWXYZ".toList.contains character

/-- The texts of `short_ulid`. -/
def IsShortUlid (text : String) : Prop :=
  text.toList.length = 16 ∧ text.toList.all isUlidCharacter = true

instance (text : String) : Decidable (IsShortUlid text) := inferInstanceAs (Decidable (_ ∧ _))

/-- `ValueId::for_stop`, with the text of the ULID. -/
def valueIdForStop (stop : StopId) (ulid : String) : String := "v" ++ stop.text ++ "_" ++ ulid

/-- The binding has a handle that was minted for its stop. -/
def ValueBinding.Minted (binding : ValueBinding) : Prop :=
  ∃ ulid, IsShortUlid ulid ∧ binding.valueId = valueIdForStop binding.stopId ulid

/-- What the handles of the stops of a session start with. -/
def stopLead (session : SessionId) : String :=
  if session.usesCompactHandles then "s" else "stop_" ++ session.text ++ "_"

lemma StopId.text_fromEvent (session : SessionId) (seq : ℕ) :
    (StopId.fromEvent session seq).text = stopLead session ++ toString seq := by
  unfold StopId.fromEvent stopLead
  split <;> rfl

lemma head?_stopLead (session : SessionId) : (stopLead session).toList.head? = some 's' := by
  unfold stopLead
  split
  · rfl
  · simp only [String.toList_append]
    rfl

/-- The digits of a stop and the ULID of a handle have no lower case letter. -/
lemma count_tail {n : ℕ} {ulid : String} (hulid : IsShortUlid ulid) :
    ((toString n).toList ++ '_' :: ulid.toList).count 's' = 0 := by
  rw [List.count_eq_zero]
  intro hmem
  rcases List.mem_append.mp hmem with hdigit | hmem
  · exact absurd (Numerals.isDigit_of_mem hdigit) (by decide)
  rcases List.mem_cons.mp hmem with heq | hmem
  · exact absurd heq (by decide)
  · exact absurd (List.all_eq_true.mp hulid.2 _ hmem) (by decide)

/-- The handle for a stop does not name a later stop of its session. -/
lemma later_stop_not_in_handle {session : SessionId} {n m : ℕ} {ulid : String} (hlt : n < m)
    (hulid : IsShortUlid ulid) :
    ¬ (StopId.fromEvent session m).text.toList <:+:
      (valueIdForStop (StopId.fromEvent session n) ulid).toList := by
  rintro ⟨before, after, h⟩
  simp only [valueIdForStop, StopId.text_fromEvent, String.toList_append, List.append_assoc] at h
  obtain ⟨lead, hlead⟩ : ∃ lead, (stopLead session).toList = 's' :: lead :=
    ⟨_, List.eq_cons_of_mem_head? (head?_stopLead session)⟩
  cases before with
  | nil =>
    rw [hlead] at h
    exact absurd (List.cons.inj h).1 (by decide)
  | cons c before =>
    have htail : before ++ ((stopLead session).toList ++ ((toString m).toList ++ after)) =
        (stopLead session).toList ++ ((toString n).toList ++ '_' :: ulid.toList) :=
      (List.cons.inj h).2
    -- All letters `s` are in the lead, so that nothing stands before it.
    have hcount : before.count 's' + ((stopLead session).toList.count 's' +
        ((toString m).toList ++ after).count 's') = (stopLead session).toList.count 's' + 0 := by
      rw [← List.count_append, ← List.count_append, htail, List.count_append, count_tail hulid]
    cases before with
    | nil =>
      rw [List.nil_append, List.append_cancel_left_eq] at htail
      exact absurd (Numerals.le_of_starts htail) (not_le.mpr hlt)
    | cons c' before =>
      rw [hlead] at htail
      obtain rfl : c' = 's' := (List.cons.inj htail).1
      rw [List.count_cons_self] at hcount
      omega

/-- A minted handle names its stop. -/
lemma stop_in_handle (stop : StopId) (ulid : String) :
    stop.text.toList <:+: (valueIdForStop stop ulid).toList := by
  refine ⟨['v'], '_' :: ulid.toList, ?_⟩
  simp only [valueIdForStop, String.toList_append, List.append_assoc]
  rfl

/-! ### What reaches the table -/

/-- A request or an event. -/
inductive ValueInput where
  | register (binding : ValueBinding)
  | get (valueId : String)
  | remove (valueId : String)
  | event (event : DomainEvent)

/-- The worker handles the input and goes on. -/
def World.Handles (env : Environment) (w : World) : ValueInput → World → Prop
  | .register binding, w' => w' = (registerValue binding env w).2
  | .get valueId, w' => w' = (getValue valueId env w).2
  | .remove valueId, w' => w' = (removeValue valueId env w).2
  | .event event, w' => ∃ changed, recordEvent event env w = (.value changed, w')

/-- The event ends the current stop, and the values stay. -/
def SessionState.StrandsValues (s : SessionState) : DomainEvent → Prop
  | .targetStopped .. => s.stopId ≠ none
  | .inferiorRemoved backendId =>
    s.stopId ≠ none ∧ ∃ removed, s.inferiors[backendId]? = some removed ∧
      s.stoppedInferiorId = some removed.id
  | _ => False

/-- A handle is minted for its stop and registered while the stop is current, and an event strands
no values. -/
def World.OnTime (w : World) : ValueInput → Prop
  | .register binding => binding.Minted ∧ w.live.stopId = some binding.stopId
  | .event event => ¬ w.live.StrandsValues event
  | _ => True

/-- A step on time. -/
def World.HandlesOnTime (env : Environment) (w : World) (input : ValueInput) (w' : World) : Prop :=
  w.Handles env input w' ∧ w.OnTime input

/-! ### Steps -/

section Steps

variable {env : Environment} {w w' : World}

/-- The event empties the table. -/
def World.releases (w : World) (event : DomainEvent) : Bool :=
  w.live.attributedExit event || event.invalidatesValues

/-- What an event does to the live state and to the table. -/
structure World.EventEffect (w : World) (event : DomainEvent) (w' : World) : Prop where
  applies : ∃ seq, w.live.Applies (seq, event) w'.live
  released : w.releases event = true → w'.values = ∅ ∧
    w'.staleBackendValues = w.staleBackendValues ++
      w.values.toList.map fun entry => entry.2.backendName
  kept : w.releases event = false →
    w'.values = w.values ∧ w'.staleBackendValues = w.staleBackendValues

lemma recordEvent_effect {event : DomainEvent} {changed : Bool}
    (h : recordEvent event env w = (.value changed, w')) : w.EventEffect event w' := by
  have hjournal : Meets (fun _ => True) env (journalEvent event)
      (fun _ w₁ => (∃ seq, w.live.Applies (seq, event) w₁.live) ∧ w₁.values = w.values ∧
        w₁.staleBackendValues = w.staleBackendValues) (fun _ _ => True) w := by
    refine meets_journalEvent (fun _ _ => trivial) (fun _ _ _ _ => trivial) ?_
    intro seq state changed _ happlied
    refine ⟨⟨seq, changed, ?_⟩, rfl, rfl⟩
    rw [happlied]
    exact congrArg (fun state => Except.ok (state, changed)) (w.state.borrow_put state).symm
  have hrecord : Meets (fun _ => True) env (recordEvent event) (fun _ => w.EventEffect event)
      (fun _ _ => True) w := by
    refine meets_reads_bind (hjournal.bind ?_ fun _ _ _ => trivial)
    rintro changed w₁ ⟨happlies, hvalues, hstale⟩
    refine Meets.bind (V := fun _ => w.EventEffect event) (E := fun _ _ => True)
      (Meets.onlyIf (fun hreleases => ?_) fun hkeeps => ?_) (fun _ w₂ hw₂ => ?_) fun _ _ _ => trivial
    · refine meets_update ⟨happlies, fun _ => ⟨rfl, ?_⟩, fun hkeeps => ?_⟩
      · rw [← hvalues, ← hstale]
        rfl
      · exact absurd (hreleases.symm.trans hkeeps) (by decide)
    · refine ⟨happlies, fun hreleases => ?_, fun _ => ⟨hvalues, hstale⟩⟩
      exact absurd (hreleases.symm.trans hkeeps) (by decide)
    · exact meets_update_bind (meets_pure ⟨hw₂.applies, hw₂.released, hw₂.kept⟩)
  unfold Meets at hrecord
  rw [h] at hrecord
  exact hrecord

/-- An event that neither empties the table nor strands its values keeps the stop. -/
lemma reduce_stopId {s : SessionState} {event : DomainEvent}
    (hvalid : (s.attributedExit event || event.invalidatesValues) = false)
    (hkept : ¬ s.StrandsValues event) (hstop : s.stopId ≠ none) :
    (s.reduce event).1.stopId = s.stopId := by
  cases htarget : event.isTargetEvent with
  | false => exact congrArg SessionState.Target.stopId (s.reduce_target htarget)
  | true =>
    cases event with
    | backendExited _ | targetRunning _ | targetDisconnected | targetDetached =>
      simp [DomainEvent.invalidatesValues] at hvalid
    | targetStopped b t reason detail frame => exact absurd hstop hkept
    | inferiorAdded _ _ | coreOpened _ => rfl
    | inferiorRemoved backendId =>
      simp only [SessionState.reduce, SessionState.removeInferior]
      split
      · rfl
      · rename_i removed hremoved
        rw [if_neg fun hstopped => hkept ⟨hstop, removed, hremoved, hstopped⟩]
    | inferiorExited backendId exitCode fromStopRecord =>
      have hnone : s.attributedInferior backendId = none := by
        simpa [SessionState.attributedExit, DomainEvent.invalidatesValues] using hvalid
      simp only [SessionState.reduce, SessionState.exitInferior, hnone]
    | threadCreated backendInferior backendThread =>
      simp only [SessionState.reduce, SessionState.createThread]
      split <;> rfl
    | threadExited backendInferior backendThread =>
      simp only [SessionState.reduce, SessionState.exitThread]
      split <;> rfl
    | _ => simp [DomainEvent.isTargetEvent] at htarget

/-- A new handle is added to the table, or nothing changes. -/
lemma registerValue_world (binding : ValueBinding) :
    (registerValue binding env w).2 = w ∨ (w.values[binding.valueId]? = none ∧
      (registerValue binding env w).2 =
        { w with values := w.values.insert binding.valueId binding }) := by
  refine Meets.state (Q := fun w' => w' = w ∨ (w.values[binding.valueId]? = none ∧
    w' = { w with values := w.values.insert binding.valueId binding })) (meets_reads_bind ?_)
  split
  · exact meets_fail (.inl rfl)
  split
  · exact meets_fail (.inl rfl)
  · rename_i hnew
    exact meets_update (.inr ⟨Registry.contains_eq_false.mp (Bool.eq_false_iff.mpr hnew), rfl⟩)

/-- A lookup changes nothing. -/
lemma getValue_world (valueId : String) : (getValue valueId env w).2 = w := by
  refine Meets.state (Q := fun w' => w' = w) (meets_reads_bind ?_)
  split
  · exact meets_pure rfl
  · refine meets_reads_bind ?_
    split
    · exact meets_fail rfl
    · exact meets_fail rfl

/-- The handle is removed from the table, or nothing changes. -/
lemma removeValue_world (valueId : String) :
    (removeValue valueId env w).2 = w ∨
      (removeValue valueId env w).2 = { w with values := w.values.erase valueId } := by
  refine Meets.state (Q := fun w' => w' = w ∨
    w' = { w with values := w.values.erase valueId }) (meets_reads_bind ?_)
  split
  · exact meets_update_bind (meets_pure (.inr rfl))
  · exact meets_fail (.inl rfl)

/-- An input applies at most one event to the live state. -/
lemma World.Handles.live {input : ValueInput} (h : w.Handles env input w') :
    w'.live = w.live ∨ ∃ journaled, w.live.Applies journaled w'.live := by
  cases input with
  | register binding =>
    obtain rfl := h
    rcases registerValue_world (w := w) binding with heq | ⟨-, heq⟩ <;> rw [heq] <;>
      exact .inl rfl
  | get valueId =>
    obtain rfl := h
    exact .inl (congrArg World.live (getValue_world valueId))
  | remove valueId =>
    obtain rfl := h
    rcases removeValue_world (w := w) valueId with heq | heq <;> rw [heq] <;>
      exact .inl rfl
  | event event =>
    obtain ⟨changed, hrecord⟩ := h
    obtain ⟨seq, happlies⟩ := (recordEvent_effect hrecord).applies
    exact .inr ⟨_, happlies⟩

end Steps

/-! ### Runs -/

section Runs

variable {env : Environment} {w w₀ w₁ w' : World} {input : ValueInput} {inputs : List ValueInput}

/-- The live state runs through events. -/
lemma run_live (h : Run (World.HandlesOnTime env) w inputs w') :
    ∃ es, Run SessionState.Applies w.live es w'.live := by
  induction h with
  | nil w => exact ⟨[], .nil _⟩
  | cons head _ ih =>
    obtain ⟨es, hrun⟩ := ih
    rcases head.1.live with heq | ⟨journaled, happlies⟩
    · exact ⟨es, heq ▸ hrun⟩
    · exact ⟨journaled :: es, .cons happlies hrun⟩

/-- Behind a state without a stop, a stop has the number of one of the events. -/
lemma stop_fresh {s s' : SessionState} {es : List (ℕ × DomainEvent)}
    (h : Run SessionState.Applies s es s') (hnone : s.stopId = none) {stop : StopId}
    (hstop : s'.stopId = some stop) :
    ∃ n ≤ s'.eventSeq, stop = StopId.fromEvent s'.sessionId n := by
  have hfresh : ∀ id, s'.stopId = some id →
      ∃ n ≤ s'.eventSeq, id = StopId.fromEvent s'.sessionId n := by
    refine h.invariant (P := fun s => ∀ id, s.stopId = some id →
      ∃ n ≤ s.eventSeq, id = StopId.fromEvent s.sessionId n) ?_ ?_
    · intro id hid
      exact absurd (hnone.symm.trans hid) nofun
    · intro s₁ journaled s₂ ih happlies id hid
      obtain ⟨hsession, hlt, hseq⟩ := happlies.identity
      rw [hsession]
      rcases happlies.stop_kept_or_fresh hid with ⟨hkept, -⟩ | ⟨-, hown⟩
      · obtain ⟨n, hn, rfl⟩ := ih id hkept
        exact ⟨n, hn.trans hlt.le, rfl⟩
      · exact ⟨journaled.1, hseq.ge, hown⟩
  exact hfresh stop hstop

/-- Every handle in the table was minted for the current stop. -/
def World.Bound (w : World) : Prop :=
  Registry.All (fun valueId binding => w.live.stopId = some binding.stopId ∧
    valueId = binding.valueId ∧ binding.Minted) w.values

/-- One input on time keeps the table bound to the stop. -/
lemma World.Bound.step (h : w.Bound) (hstep : w.HandlesOnTime env input w') : w'.Bound := by
  obtain ⟨hhandles, htime⟩ := hstep
  cases input with
  | register binding =>
    obtain rfl := hhandles
    rcases registerValue_world (w := w) binding with heq | ⟨-, heq⟩ <;> rw [heq]
    · exact h
    · exact Registry.All.insert h ⟨htime.2, rfl, htime.1⟩
  | get valueId =>
    obtain rfl := hhandles
    rw [getValue_world]
    exact h
  | remove valueId =>
    obtain rfl := hhandles
    rcases removeValue_world (w := w) valueId with heq | heq <;> rw [heq]
    · exact h
    · exact Registry.All.erase h valueId
  | event event =>
    obtain ⟨changed, hrecord⟩ := hhandles
    have heffect := recordEvent_effect hrecord
    cases hreleases : w.releases event with
    | true =>
      rw [World.Bound, (heffect.released hreleases).1]
      exact Registry.All.empty
    | false =>
      rw [World.Bound, (heffect.kept hreleases).1]
      intro valueId binding hvalue
      obtain ⟨hstop, hkey⟩ := h valueId binding hvalue
      obtain ⟨seq, happlies⟩ := heffect.applies
      obtain ⟨-, revision, hlive⟩ := happlies.reduce
      -- The stop is current, so that this event does not end it.
      have hkept := reduce_stopId (s := { w.live with eventSeq := seq }) hreleases htime
        (by rw [hstop]; exact Option.some_ne_none _)
      refine ⟨?_, hkey⟩
      rw [hlive]
      exact hkept.trans hstop

lemma run_bound (h : Run (World.HandlesOnTime env) w inputs w') (hw : w.Bound) : w'.Bound :=
  h.invariant hw fun _ _ _ hbound hstep => hbound.step hstep

/-- The handle is in the table, or its variable object is noted as stale. -/
def World.Accounts (w : World) (valueId : String) (binding : ValueBinding) : Prop :=
  w.values[valueId]? = some binding ∨ binding.backendName ∈ w.staleBackendValues

/-- Only its removal takes a handle out of the account. -/
lemma World.Accounts.step {valueId : String} {binding : ValueBinding}
    (h : w.Accounts valueId binding) (hstep : w.Handles env input w') :
    w'.Accounts valueId binding ∨ input = .remove valueId := by
  cases input with
  | register binding' =>
    obtain rfl := hstep
    rcases registerValue_world (w := w) binding' with heq | ⟨hnew, heq⟩ <;> rw [heq]
    · exact .inl h
    · refine .inl (h.imp_left fun hvalue => ?_)
      rw [Registry.getElem?_insert, if_neg]
      · exact hvalue
      · rintro rfl
        exact absurd (hnew.symm.trans hvalue) nofun
  | get valueId' =>
    obtain rfl := hstep
    rw [getValue_world]
    exact .inl h
  | remove valueId' =>
    obtain rfl := hstep
    by_cases hkey : valueId' = valueId
    · exact .inr (congrArg ValueInput.remove hkey)
    rcases removeValue_world (w := w) valueId' with heq | heq <;> rw [heq]
    · exact .inl h
    · refine .inl (h.imp_left fun hvalue => ?_)
      rw [Registry.getElem?_erase, if_neg hkey]
      exact hvalue
  | event event =>
    obtain ⟨changed, hrecord⟩ := hstep
    have heffect := recordEvent_effect hrecord
    refine .inl ?_
    cases hreleases : w.releases event with
    | true =>
      refine .inr ?_
      rw [(heffect.released hreleases).2]
      rcases h with hvalue | hstale
      · exact List.mem_append_right _ (List.mem_map.mpr ⟨(valueId, binding),
          Std.ExtTreeMap.mem_toList_iff_getElem?_eq_some.mpr hvalue, rfl⟩)
      · exact List.mem_append_left _ hstale
    | false =>
      rw [World.Accounts, (heffect.kept hreleases).1, (heffect.kept hreleases).2]
      exact h

/-- A handle leaves the table by its removal, or with its variable object noted as stale. -/
lemma run_accounts (h : Run (World.HandlesOnTime env) w inputs w') {valueId : String}
    {binding : ValueBinding} (hvalue : w.Accounts valueId binding) :
    w'.Accounts valueId binding ∨ .remove valueId ∈ inputs := by
  induction h with
  | nil w => exact .inl hvalue
  | cons head _ ih =>
    rcases hvalue.step head.1 with hnext | rfl
    · exact (ih hnext).imp_right (List.mem_cons_of_mem _)
    · exact .inr List.mem_cons_self

/-- A handle that is neither in the table nor of the current stop is reported as stale. -/
lemma getValue_stale {stop : StopId} {ulid : String}
    (habsent : w.values[valueIdForStop stop ulid]? = none)
    (hstale : ∀ current, w.live.stopId = some current →
      ¬ current.text.toList <:+: (valueIdForStop stop ulid).toList) :
    getValue (valueIdForStop stop ulid) env w =
      (.error ⟨.staleContext, "value object belongs to an earlier stop", false⟩, w) := by
  have hlead : (valueIdForStop stop ulid).toList.head? = some 'v' := by
    simp only [valueIdForStop, String.toList_append, List.append_assoc]
    rfl
  have hfails : Meets (fun _ => False) env (getValue (valueIdForStop stop ulid)) (fun _ _ => False)
      (fun error w' =>
        error = ⟨.staleContext, "value object belongs to an earlier stop", false⟩ ∧ w' = w) w := by
    refine meets_reads_bind ?_
    dsimp only
    rw [habsent]
    refine meets_reads_bind ?_
    rw [if_pos ⟨hlead, hstale⟩]
    exact meets_fail ⟨rfl, rfl⟩
  unfold Meets at hfails
  rcases hrun : getValue (valueIdForStop stop ulid) env w with ⟨binding | error | _, w'⟩ <;>
    rw [hrun] at hfails
  · exact hfails.elim
  · obtain ⟨rfl, rfl⟩ := hfails
    rfl
  · exact hfails.elim

/-- In a run in which every handle is registered while its stop is current, and no event strands
values, the table holds handles of the current stop only.  A handle whose stop is over has been
removed or has its variable object noted as stale, and asking for it is answered with
`StaleContext`. -/
theorem values_live_with_stop {inputs₁ inputs₂ : List ValueInput} (hempty : w₀.values = ∅)
    (hrunning : w₀.live.stopId = none) (hrun₁ : Run (World.HandlesOnTime env) w₀ inputs₁ w₁)
    (hrun₂ : Run (World.HandlesOnTime env) w₁ inputs₂ w) :
    (∀ (valueId : String) (binding : ValueBinding), w.values[valueId]? = some binding →
        w.live.stopId = some binding.stopId) ∧
      (∀ (valueId : String) (binding : ValueBinding), w₁.values[valueId]? = some binding →
        w.live.stopId ≠ some binding.stopId →
          binding.backendName ∈ w.staleBackendValues ∨ .remove valueId ∈ inputs₂) ∧
      ∀ stop ulid, w₁.live.stopId = some stop → w.live.stopId ≠ some stop → IsShortUlid ulid →
        getValue (valueIdForStop stop ulid) env w =
          (.error ⟨.staleContext, "value object belongs to an earlier stop", false⟩, w) := by
  have hbound₁ : w₁.Bound := by
    refine run_bound hrun₁ ?_
    rw [World.Bound, hempty]
    exact Registry.All.empty
  have hbound := run_bound hrun₂ hbound₁
  refine ⟨fun valueId binding hvalue => (hbound valueId binding hvalue).1, ?_, ?_⟩
  · intro valueId binding hvalue hstop
    rcases run_accounts hrun₂ (.inl hvalue) with (hkept | hstale) | hremoved
    · exact absurd (hbound valueId binding hkept).1 hstop
    · exact .inl hstale
    · exact .inr hremoved
  · intro stop ulid hstop hended hulid
    obtain ⟨es₁, hes₁⟩ := run_live hrun₁
    obtain ⟨es₂, hes₂⟩ := run_live hrun₂
    -- The stop was set in the first part of the run, and a later one can only be set behind it.
    obtain ⟨n, hn, rfl⟩ := stop_fresh hes₁ hrunning hstop
    have hlater : ∀ current, w.live.stopId = some current →
        ∃ m, n < m ∧ current = StopId.fromEvent w₁.live.sessionId m := by
      intro current hcurrent
      rcases SessionState.run_stop_kept_or_fresh hes₂ hcurrent with ⟨hkept, -⟩ | ⟨m, hm, hfresh⟩
      · exact absurd (hcurrent.trans (hkept.symm.trans hstop)) hended
      · exact ⟨m, by omega, hfresh⟩
    have hnamed : ∀ current, w.live.stopId = some current → ¬ current.text.toList <:+:
        (valueIdForStop (StopId.fromEvent w₁.live.sessionId n) ulid).toList := by
      intro current hcurrent
      obtain ⟨m, hlt, rfl⟩ := hlater current hcurrent
      exact later_stop_not_in_handle hlt hulid
    refine getValue_stale ?_ hnamed
    rw [Option.eq_none_iff_forall_ne_some]
    intro binding hvalue
    obtain ⟨hcurrent, hkey, ulid', -, hminted⟩ := hbound _ binding hvalue
    refine hnamed _ hcurrent ?_
    rw [hkey, hminted]
    exact stop_in_handle _ _

end Runs

/-- The target stops. -/
def firstStop : World :=
  (recordEvent (.targetStopped none none "breakpoint-hit" none none) .smooth
    (.initial (.plain .performance) [])).2

/-- A handle for the stop. -/
def firstValue : ValueBinding where
  valueId := valueIdForStop ⟨"stop_sess_1_1"⟩ "0123456789ABCDEF"
  backendName := "var1"
  stopId := ⟨"stop_sess_1_1"⟩

/-- The handle is registered. -/
def firstRegistered : World := (registerValue firstValue .smooth firstStop).2

/-- The target runs on. -/
def firstResumed : World := (recordEvent (.targetRunning []) .smooth firstRegistered).2

/-- The event is recorded. -/
def World.records (env : Environment) (w : World) (event : DomainEvent) : Bool :=
  match (recordEvent event env w).1 with
  | .value _ => true
  | _ => false

lemma handles_recordEvent {env : Environment} {w : World} {event : DomainEvent}
    (h : w.records env event = true) :
    w.Handles env (.event event) (recordEvent event env w).2 := by
  unfold World.records at h
  rcases hrun : recordEvent event env w with ⟨changed | error | _, w'⟩ <;> rw [hrun] at h
  · exact ⟨changed, hrun⟩
  · exact absurd h nofun
  · exact absurd h nofun

/-- The handle goes with its stop. -/
theorem firstValue_goes_with_stop :
    firstValue.backendName ∈ firstResumed.staleBackendValues ∧
      getValue firstValue.valueId .smooth firstResumed =
        (.error ⟨.staleContext, "value object belongs to an earlier stop", false⟩,
          firstResumed) := by
  have hulid : IsShortUlid "0123456789ABCDEF" := by decide
  have hstop : firstStop.live.stopId = some firstValue.stopId := by decide +kernel
  have hregistered : firstRegistered.live.stopId = some firstValue.stopId ∧
      firstRegistered.values[firstValue.valueId]? = some firstValue := by decide +kernel
  have hresumed : firstResumed.live.stopId = none := by decide +kernel
  have hrun₁ : Run (World.HandlesOnTime .smooth) (.initial (.plain .performance) [])
      [.event (.targetStopped none none "breakpoint-hit" none none), .register firstValue]
      firstRegistered := by
    refine .cons ⟨handles_recordEvent (by decide +kernel), ?_⟩
      (.cons ⟨rfl, ⟨_, hulid, rfl⟩, hstop⟩ (.nil _))
    exact fun hstrands => absurd rfl hstrands
  have hrun₂ : Run (World.HandlesOnTime .smooth) firstRegistered [.event (.targetRunning [])]
      firstResumed :=
    .cons ⟨handles_recordEvent (by decide +kernel), id⟩ (.nil _)
  obtain ⟨-, hstale, hasked⟩ := values_live_with_stop rfl rfl hrun₁ hrun₂
  have hover : firstResumed.live.stopId ≠ some firstValue.stopId := by
    rw [hresumed]
    exact nofun
  refine ⟨?_, hasked _ _ hregistered.1 hover hulid⟩
  rcases hstale _ _ hregistered.2 hover with hstale | hremoved
  · exact hstale
  · exact absurd hremoved (by simp)

/-! ### Runs of the worker that strand a value -/

/-- A stop of the only inferior. -/
def stopArrival : Arrival := .mi (.execAsync none "stopped" [])

/-- A handle for that stop behind the handshake. -/
def stopValue : ValueBinding where
  valueId := valueIdForStop ⟨"stop_sess_1_44"⟩ "0123456789ABCDEF"
  backendName := "var1"
  stopId := ⟨"stop_sess_1_44"⟩

/-- The handle is registered when the target runs again. -/
def registeredLate : List Arrival := startup ++
  [stopArrival, .mi (.execAsync none "running" [("thread-id", .const (utf8 "all"))]),
    .request (some (.registerValue stopValue))]

/-- The target stops again without having run. -/
def replacedStop : List Arrival := startup ++
  [stopArrival, .request (some (.registerValue stopValue)), stopArrival]

/-- The stopped inferior is removed. -/
def removedInferior : List Arrival := startup ++
  [stopArrival, .request (some (.registerValue stopValue)),
    .mi (.notifyAsync none "thread-group-removed" [("id", .const (utf8 "i1"))])]

/-- A handle in the table is answered, whatever the stop is. -/
lemma getValue_found {env : Environment} {w : World} {valueId : String} {binding : ValueBinding}
    (h : w.values[valueId]? = some binding) : getValue valueId env w = (.value binding, w) := by
  have hreads (next : Option ValueBinding → Action ValueBinding) :
      ((observe fun w => w.values[valueId]?) >>= next) env w = next w.values[valueId]? env w := rfl
  rw [getValue, hreads, h]
  rfl

/-- In each of the three runs the handle stays in the table behind its stop, and the worker answers
a request for it with the binding. -/
theorem values_outlive_stop :
    (World.after .smooth (.plain .performance) (startup ++ [stopArrival])).live.stopId =
        some stopValue.stopId ∧
      ∀ arrivals ∈ [registeredLate, replacedStop, removedInferior],
        (World.after .smooth (.plain .performance) arrivals).values[stopValue.valueId]? =
            some stopValue ∧
          (World.after .smooth (.plain .performance) arrivals).live.stopId ≠
            some stopValue.stopId ∧
          (getValue stopValue.valueId .smooth
            (World.after .smooth (.plain .performance) arrivals)).1 = .value stopValue := by
  have hstop : (World.after .smooth (.plain .performance) (startup ++ [stopArrival])).live.stopId =
      some stopValue.stopId := by decide +kernel
  have hstray : ∀ arrivals ∈ [registeredLate, replacedStop, removedInferior],
      (World.after .smooth (.plain .performance) arrivals).values[stopValue.valueId]? =
          some stopValue ∧
        (World.after .smooth (.plain .performance) arrivals).live.stopId ≠
          some stopValue.stopId := by
    simp only [List.forall_mem_cons, List.not_mem_nil, false_imp_iff, implies_true, and_true]
    decide +kernel
  refine ⟨hstop, fun arrivals harrivals => ?_⟩
  obtain ⟨hvalue, hover⟩ := hstray arrivals harrivals
  exact ⟨hvalue, hover, congrArg Prod.fst (getValue_found hvalue)⟩

end GdbAi
