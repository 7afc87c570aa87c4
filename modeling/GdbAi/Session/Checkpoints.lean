import GdbAi.Replay.Agreement
import GdbAi.Reducer.Revision
import GdbAi.Session.Closing

/-!
# Checkpoints and the events before them

The journal holds every event that the worker has reduced, so a checkpoint of the live state is the
state one gets by reducing the events recorded before it.  Two steps break this: `fail_closed`
changes the live state without an event, and an event whose append fails in durable mode may be in
the journal without having been reduced.  Behind such a step the live state has diverged, and the
checkpoints appended then are late.
-/

namespace GdbAi

open Procedure

/-! ### The lines of one call -/

namespace Journal

variable {length : JournalEntry → ℕ} {j j' : Journal} {payload : Payload} {io : JournalIo}

/-- The lines behind an append: the entry is written, the append is refused, or the journal stops
recording with a prefix of what it would have written. -/
inductive Extends (length : JournalEntry → ℕ) (j : Journal) (payload : Payload) (io : JournalIo)
    (j' : Journal) : Prop
  | written (recording : j.recording = true)
      (lines : j'.lines = j.lines ++ [⟨j.nextSeq, .of payload⟩])
  | refused (durable : j.durability = .durable)
      (unwritten : ¬ (j.Fits length payload ∧ io.write.succeeds = true)) (lines : j'.lines = j.lines)
      (recording : j'.recording = j.recording)
  | stopped (entry : JournalEntry) (recording : j'.recording = false)
      (hentry : j.recording = true ∧ entry = ⟨j.nextSeq, .of payload⟩ ∨ entry = j.gapMarker)
      (lines : j'.lines <+: j.lines ++ [entry])

lemma Settles.recording_of_stopped (h : Settles j j') (hrecording : j.recording = false) :
    j'.recording = false := by
  rcases h with hkept | hstopped
  · exact hkept.recording.trans hrecording
  · exact hstopped.recording

lemma extends_of_appends {j₁ : Journal} (happends : Appends length j payload io j₁)
    (hsettles : Settles j₁ j') : Extends length j payload io j' := by
  have hsubset := hsettles.lines_subset
  cases happends with
  | idle hrecording heq =>
    subst heq
    exact .stopped _ (hsettles.recording_of_stopped hrecording) (.inr rfl)
      (hsubset.trans (List.prefix_append _ _))
  | refused hdurable hunwritten hkept =>
    rcases hsettles with hsame | hstopped
    · exact .refused hdurable hunwritten (hsame.lines.trans hkept.lines)
        (hsame.recording.trans hkept.recording)
    · exact absurd (hdurable.symm.trans (hkept.durability.symm.trans hstopped.performance))
        (by decide)
  | stopped hstopped =>
    exact .stopped _ (hsettles.recording_of_stopped hstopped.recording) (.inr rfl)
      ((hsubset.trans hstopped.lines).trans (List.prefix_append _ _))
  | marked hfits hrecording hstopped =>
    exact .stopped _ (hsettles.recording_of_stopped hstopped.recording) (.inr rfl)
      (hsubset.trans hstopped.lines)
  | written hrecording hfits hsucceeds j₂ hwritten hsettled =>
    have hall : j'.lines <+: j.lines ++ [⟨j.nextSeq, .of payload⟩] :=
      (hsubset.trans hsettled.lines_subset).trans (hwritten.lines ▸ List.prefix_refl _)
    rcases hsettled with hkept | hstopped
    · rcases hsettles with hkept' | hstopped'
      · exact .written hrecording (hkept'.lines.trans (hkept.lines.trans hwritten.lines))
      · exact .stopped _ hstopped'.recording (.inl ⟨hrecording, rfl⟩) hall
    · exact .stopped _ (hsettles.recording_of_stopped hstopped.recording) (.inl ⟨hrecording, rfl⟩)
        hall

lemma record_extends (hacc : j.Accounted length) (payload : Payload) (io : JournalIo) :
    Extends length j payload io (j.record length payload io).2 :=
  extends_of_appends (append_appends length payload io hacc.gapless)
    (record_settles length j payload io)

lemma finish_extends (hacc : j.Accounted length) (io : JournalIo) :
    Extends length j .journalClosed io (j.finish length io).2 :=
  extends_of_appends (append_appends length _ io hacc.gapless) (finish_settles length j io)

/-- A refused append returns an error. -/
lemma record_refused (hdurable : j.durability = .durable) (hrecording : j.recording = true)
    (hunwritten : ¬ (j.Fits length payload ∧ io.write.succeeds = true)) (seq : ℕ) :
    (j.record length payload io).1 ≠ .ok seq := by
  have hmode : j.isDurable = true := isDurable_eq_true.mpr hdurable
  have happend : ∃ error j₁, j.append length payload io = (.error error, j₁) := by
    by_cases hfits : j.Fits length payload
    · have hfailed : io.write.succeeds = false := by
        rw [not_and] at hunwritten
        exact Bool.eq_false_iff.mpr (hunwritten hfits)
      have hbranch : ¬ j.numbered.bytesWritten + length ⟨j.nextSeq, .of payload⟩ >
          j.numbered.maxBytes - j.numbered.reserved := Nat.not_lt.mpr hfits
      have hwrite : j.append length payload io =
          j.numbered.write length ⟨j.nextSeq, .of payload⟩ io := by
        unfold append
        simp only
        rw [if_neg (by simp [hrecording])]
        exact if_neg hbranch
      rw [hwrite, write]
      cases hio : io.write with
      | failed spilled error =>
        have hspilled : (if spilled then j.numbered.spill else j.numbered).isDurable = true := by
          cases spilled <;> exact hmode
        simp only [stopRecording, hspilled, if_true]
        exact ⟨_, _, rfl⟩
      | buffered _ => simp [WriteOutcome.succeeds, hio] at hfailed
      | direct => simp [WriteOutcome.succeeds, hio] at hfailed
    · have hover : j.append length payload io = j.numbered.overflow length j.nextSeq io := by
        unfold append
        simp only
        rw [if_neg (by simp [hrecording])]
        exact if_pos (Nat.not_le.mp hfits)
      have hbranch : j.numbered.isDurable = true := hmode
      rw [hover, overflow, if_pos hbranch]
      exact ⟨_, _, rfl⟩
  obtain ⟨error, j₁, happend⟩ := happend
  unfold record
  rw [happend]
  simp

end Journal

/-! ### Checkpoints -/

/-- The checkpoints among the lines, apart from the late ones, have the state of the events before
them. -/
def Checkpointed (session : SessionId) (late : List ℕ) (lines : List JournalEntry) : Prop :=
  ∀ before seq revision state,
    before ++ [⟨seq, .of (.stateRevision revision state)⟩] <+: lines →
      seq ∈ late ∨ state = liveAfter session before

section Checkpointed

variable {session : SessionId} {late late' : List ℕ} {lines lines' : List JournalEntry}

lemma Checkpointed.initial (h : Checkpointed session late lines) (hlines : lines' <+: lines) :
    Checkpointed session late lines' :=
  fun before seq revision state hcut => h before seq revision state (hcut.trans hlines)

lemma Checkpointed.later (h : Checkpointed session late lines) (hlate : ∀ seq ∈ late, seq ∈ late') :
    Checkpointed session late' lines :=
  fun before seq revision state hcut => (h before seq revision state hcut).imp_left (hlate seq)

lemma Checkpointed.snoc (h : Checkpointed session late lines) (entry : JournalEntry)
    (hentry : ∀ revision state, entry.data = .of (.stateRevision revision state) →
      entry.seq ∈ late ∨ state = liveAfter session lines) :
    Checkpointed session late (lines ++ [entry]) := by
  intro before seq revision state hcut
  rcases List.prefix_concat_iff.mp hcut with heq | hcut
  · obtain ⟨rfl, hlast⟩ := List.append_inj' heq rfl
    obtain rfl : (⟨seq, .of (.stateRevision revision state)⟩ : JournalEntry) = entry :=
      (List.cons.inj hlast).1
    exact hentry revision state rfl
  · exact h before seq revision state hcut

/-- What an append does to the checkpoints. -/
lemma Checkpointed.extends {length : JournalEntry → ℕ} {j j' : Journal} {payload : Payload}
    {io : JournalIo} (h : Checkpointed session late j.lines)
    (hextends : Journal.Extends length j payload io j')
    (hentry : j.recording = true → ∀ revision state, payload = .stateRevision revision state →
      j.nextSeq ∈ late ∨ state = liveAfter session j.lines) :
    Checkpointed session late j'.lines := by
  cases hextends with
  | written hrecording hlines =>
    rw [hlines]
    exact h.snoc _ fun revision state hdata =>
      hentry hrecording revision state (EntryData.of.inj hdata)
  | refused _ _ hlines _ =>
    rw [hlines]
    exact h
  | stopped entry _ hcases hlines =>
    refine Checkpointed.initial (h.snoc entry fun revision state hdata => ?_) hlines
    rcases hcases with ⟨hrecording, rfl⟩ | rfl
    · exact hentry hrecording revision state (EntryData.of.inj hdata)
    · exact absurd hdata (by simp [Journal.gapMarker])

end Checkpointed

/-! ### The live state and the journal -/

namespace Checkpoints

variable {env : Environment} {session : SessionId} {w : World}

/-- The checkpoints of the journal, and the live state behind its events. -/
structure Faithful (env : Environment) (session : SessionId) (w : World) : Prop where
  accounted : w.journal.Accounted env.length
  coherent : w.live.Coherent
  checkpoints : Checkpointed session w.late w.journal.lines
  live : w.journal.recording = true → w.diverged = false →
    w.live = liveAfter session w.journal.lines

/-- An append that is no event keeps the live state. -/
lemma Faithful.extends {payload : Payload} {io : JournalIo} {journal : Journal}
    (hw : Faithful env session w) (hextends : Journal.Extends env.length w.journal payload io journal)
    (haccounted : journal.Accounted env.length)
    (hentry : w.journal.recording = true → ∀ revision state,
      payload = .stateRevision revision state →
        w.journal.nextSeq ∈ w.late ∨ state = liveAfter session w.journal.lines)
    (hevent : ∀ seq, normalizedEvents [⟨seq, .of payload⟩] = []) :
    Faithful env session (w.journaled journal) where
  accounted := haccounted
  coherent := hw.coherent
  checkpoints := hw.checkpoints.extends hextends hentry
  live hrecording hdiverged := by
    cases hextends with
    | written hold hlines =>
      have hlive : w.live = liveAfter session w.journal.lines := hw.live hold hdiverged
      have hsame : liveAfter session journal.lines = liveAfter session w.journal.lines := by
        rw [hlines]
        exact liveAfter_other (hevent _)
      exact hlive.trans hsame.symm
    | refused _ _ hlines hsame =>
      have hlive := hw.live (hsame.symm.trans hrecording) hdiverged
      exact hlive.trans (congrArg (liveAfter session) hlines.symm)
    | stopped _ hstopped _ _ => exact absurd (hstopped.symm.trans hrecording) (by simp)

lemma Faithful.settles {journal : Journal} (hw : Faithful env session w)
    (hsettles : Journal.Settles w.journal journal) :
    Faithful env session (w.journaled journal) where
  accounted := hw.accounted.settles hsettles
  coherent := hw.coherent
  checkpoints := hw.checkpoints.initial hsettles.lines_subset
  live hrecording hdiverged := by
    rcases hsettles with hkept | hstopped
    · have hlive := hw.live (hkept.recording.symm.trans hrecording) hdiverged
      exact hlive.trans (congrArg (liveAfter session) hkept.lines.symm)
    · exact absurd (hstopped.recording.symm.trans hrecording) (by simp)

/-- An event is appended and reduced, or skipped by the reducer. -/
lemma Faithful.event {event : DomainEvent} {seq : ℕ} (hw : Faithful env session w)
    (hseq : (w.recordIn env (.normalizedEvent event)).1 = .ok seq) (state : LiveState)
    (hstate : state.borrow = w.live.advance (seq, event)) (hcoherent : state.borrow.Coherent) :
    Faithful env session
      { w.journaled (w.recordIn env (.normalizedEvent event)).2 with state := state } := by
  have hextends := Journal.record_extends hw.accounted (.normalizedEvent event)
    (env.journal w.question)
  refine ⟨hw.accounted.perform (.append _ _), hcoherent, hw.checkpoints.extends hextends ?_, ?_⟩
  · intro _ _ _ hpayload
    exact absurd hpayload (by simp)
  intro hrecording hdiverged
  cases hextends with
  | written hold hlines =>
    have hlive : w.live = liveAfter session w.journal.lines := hw.live hold hdiverged
    have hnumber : seq = w.journal.nextSeq := Journal.record_eq_ok hseq
    have hlines' : liveAfter session (w.recordIn env (.normalizedEvent event)).2.lines =
        w.live.advance (seq, event) := by
      rw [World.recordIn, hlines, liveAfter_event, ← hlive, hnumber]
    exact hstate.trans hlines'.symm
  | refused hdurable hunwritten _ hsame =>
    have hold : w.journal.recording = true := hsame.symm.trans hrecording
    exact absurd hseq (Journal.record_refused hdurable hold hunwritten seq)
  | stopped _ hstopped _ _ => exact absurd (hstopped.symm.trans hrecording) (by simp)

lemma Faithful.of_same {w' : World} (hw : Faithful env session w) (hjournal : w'.journal = w.journal)
    (hlive : w'.live = w.live) (hlate : w'.late = w.late) (hdiverged : w'.diverged = w.diverged) :
    Faithful env session w' where
  accounted := hjournal ▸ hw.accounted
  coherent := hlive ▸ hw.coherent
  checkpoints := by
    rw [hlate, hjournal]
    exact hw.checkpoints
  live := by
    rw [hjournal, hlive, hdiverged]
    exact hw.live

/-- The live state that fails closed either diverges or is unchanged. -/
lemma Faithful.failed (hw : Faithful env session w) : Faithful env session w.failClosed := by
  have hlive := w.live_failClosed
  refine ⟨hw.accounted, ?_, hw.checkpoints, ?_⟩
  · rw [hlive, SessionState.failClosed]
    have hreduced : w.live.failBackend.1.Coherent := hw.coherent.reduce (.backendExited none)
    simp only
    split
    · exact { hreduced with }
    · exact hreduced
  · intro hrecording hdiverged
    have hdiverged : (w.diverged || w.state.failClosed.2) = false := hdiverged
    obtain ⟨hbefore, hchanged⟩ := Bool.or_eq_false_iff.mp hdiverged
    have hchanged : w.live.failBackend.2 = false := hchanged
    have hsame : w.live.failClosed.1 = w.live := by
      rw [SessionState.failClosed]
      simp only [hchanged]
      exact SessionState.failBackend_false hw.coherent hchanged
    exact (hlive.trans hsame).trans (hw.live hrecording hbefore)

/-- The checkpoints of the journal that are not late are reproducible. -/
def Safe (session : SessionId) (w : World) : Prop :=
  Checkpointed session w.late w.journal.lines

lemma Payload.no_event_of_isEvidence {payload : Payload} (h : payload.isEvidence = true)
    (seq : ℕ) : normalizedEvents [⟨seq, .of payload⟩] = [] := by
  cases payload with
  | normalizedEvent event => exact absurd h (by simp [Payload.isEvidence])
  | _ => rfl

lemma appendLive_faithful (hw : Faithful env session w) :
    Meets (Safe session) env appendLive (fun _ => Faithful env session)
      (fun _ => Faithful env session) w := by
  refine meets_reads_bind (meets_update_bind ?_)
  have happend {w' : World} (hw' : Faithful env session w')
      (hentry : w'.journal.recording = true →
        w'.journal.nextSeq ∈ w'.late ∨ w.live = liveAfter session w'.journal.lines) :
      Meets (Safe session) env (appendJournal (.stateRevision w.live.revision w.live))
        (fun _ => Faithful env session) (fun _ => Faithful env session) w' := by
    have hnext : Faithful env session
        (w'.journaled (w'.recordIn env (.stateRevision w.live.revision w.live)).2) := by
      refine hw'.extends (Journal.record_extends hw'.accounted _ _)
        (hw'.accounted.perform (.append _ _)) ?_ fun _ => rfl
      intro hrecording revision state hpayload
      obtain ⟨-, rfl⟩ := Payload.stateRevision.inj hpayload
      exact hentry hrecording
    exact meets_appendJournal (fun _ _ => hnext) fun _ _ => hnext
  split
  · refine happend ⟨hw.accounted, hw.coherent, ?_, hw.live⟩ fun _ => .inl ?_
    · exact hw.checkpoints.later fun _ h => List.mem_append_left _ h
    · exact List.mem_append_right _ (List.mem_singleton_self _)
  · rename_i hdiverged
    exact happend hw fun hrecording => .inr (hw.live hrecording (Bool.eq_false_iff.mpr hdiverged))

lemma journalEvent_faithful (event : DomainEvent) (hw : Faithful env session w) :
    Meets (Safe session) env (journalEvent event) (fun _ => Faithful env session)
      (fun _ => Faithful env session) w := by
  refine meets_journalEvent (fun error _ => ?_) (fun seq error hseq happly => ?_) ?_
  · refine ⟨hw.accounted.perform (.append _ _), hw.coherent, ?_, fun _ h => absurd h (by simp)⟩
    refine hw.checkpoints.extends (Journal.record_extends hw.accounted _ _) fun _ _ _ h => ?_
    exact absurd h (by simp)
  · refine hw.event hseq w.state ?_ hw.coherent
    rw [SessionState.advance, happly]
    rfl
  · intro seq state changed hseq happly
    have hborrow := w.state.borrow_put state
    have hreduced : (w.state.put state).borrow = w.live.advance (seq, event) := by
      rw [hborrow, SessionState.advance, happly]
    have hcoherent : (w.state.put state).borrow.Coherent := by
      rw [hborrow]
      have happlies : w.live.Applies (seq, event) state := ⟨changed, happly⟩
      exact hw.coherent.applies happlies
    exact (hw.event hseq (w.state.put state) hreduced hcoherent).of_same rfl rfl rfl rfl

lemma events (env : Environment) (session : SessionId) :
    EventInvariant env (Safe session) (Faithful env session) where
  safe _ hw := hw.checkpoints
  frame _ _ hframe hw := hw.of_same hframe.journal hframe.live
    (congrArg Trace.late hframe.trace) (congrArg Trace.diverged hframe.trace)
  append payload hpayload w hw := by
    have hnext : Faithful env session (w.journaled (w.recordIn env payload).2) := by
      refine hw.extends (Journal.record_extends hw.accounted _ _)
        (hw.accounted.perform (.append _ _)) ?_ (Payload.no_event_of_isEvidence hpayload)
      rintro _ revision state rfl
      exact absurd hpayload (by simp [Payload.isEvidence])
    exact meets_appendJournal (fun _ _ => hnext) fun _ _ => hnext
  event event w hw := journalEvent_faithful event (w := w.noteEvent event)
    (hw.of_same rfl rfl rfl rfl)
  state _ hw := appendLive_faithful hw
  storeFails _ _ hw := hw.of_same rfl rfl rfl rfl
  publish w hw := hw.of_same rfl w.live_publish rfl rfl
  flush w hw := by
    have hnext := hw.settles (Journal.flush_settles w.journal (env.journal w.question).flush)
    exact meets_flushJournal (fun _ => hnext) fun _ _ => hnext
  failed _ hw := hw.failed

lemma discipline (env : Environment) (session : SessionId) :
    Discipline env (fun _ => True) (fun _ => Faithful env session)
      (Faithful env session) (Safe session) := by
  refine (events env session).discipline ?_ (fun _ hw => hw.of_same rfl rfl rfl rfl)
    (fun hw => hw.of_same rfl rfl rfl rfl) (fun hw _ => hw.of_same rfl rfl rfl rfl) ?_
  · intro w w' hw hjournal hstate hdiverged hlate _
    exact hw.of_same hjournal (congrArg LiveState.borrow hstate) hlate hdiverged
  · intro w hw
    have hnext : Faithful env session
        (w.journaled (w.journal.finish env.length (env.journal w.question)).2) := by
      refine hw.extends (Journal.finish_extends hw.accounted _) (hw.accounted.perform (.finish _))
        ?_ fun _ => rfl
      intro _ _ _ hpayload
      exact absurd hpayload (by simp)
    exact meets_finishJournal (fun _ => hnext) fun _ _ => hnext

lemma startup (env : Environment) (session : SessionId) :
    Startup env (fun _ => Faithful env session) (Safe session) (Faithful env session) := by
  refine (events env session).startup rfl (fun hw hframe => ?_) fun event w hw =>
    journalEvent_faithful event hw
  exact hw.of_same hframe.journal hframe.live (congrArg Trace.late hframe.trace)
    (congrArg Trace.diverged hframe.trace)

end Checkpoints

/-- Every checkpoint appended before the live state has diverged carries the state one gets by
reducing the events recorded before it. -/
theorem checkpoint_reproducible (env : Environment) (config : Configuration)
    (arrivals : List Arrival) (before : List JournalEntry) (seq revision : ℕ)
    (state : SessionState)
    (hcut : before ++ [⟨seq, .of (.stateRevision revision state)⟩] <+:
      (World.after env config arrivals).journal.lines)
    (hlate : seq ∉ (World.after env config arrivals).late) :
    state = liveAfter config.sessionId before := by
  have hinitial : Checkpoints.Faithful env config.sessionId (World.initial config arrivals) := by
    have hlive : (World.initial config arrivals).live = .creating config.sessionId := by
      unfold World.initial World.live LiveState.borrow
      simp only
      split <;> rfl
    refine ⟨Journal.accounted_create _ _, ?_, ?_, fun _ _ => ?_⟩
    · rw [hlive]
      exact SessionState.coherent_creating _
    · intro before seq revision state hcut
      exact absurd (List.prefix_nil.mp hcut) (by simp)
    · rw [hlive]
      rfl
  have hsession := (Checkpoints.discipline env config.sessionId).session
    (Checkpoints.startup env config.sessionId) config hinitial
  exact (hsession before seq revision state hcut).resolve_left hlate

/-- The last line is a checkpoint that is not late. -/
def endsWithCheckpoint (late : List ℕ) (lines : List JournalEntry) : Bool :=
  match lines.getLast? with
  | some ⟨seq, .of (.stateRevision _ _)⟩ => !late.contains seq
  | _ => false

/-- The checkpoint behind the startup of a session. -/
theorem startup_reproducible :
    ∃ before seq revision state,
      before ++ [⟨seq, .of (.stateRevision revision state)⟩] <+:
        (World.after .smooth (.plain .performance) startup).journal.lines ∧
      state = liveAfter (Configuration.plain .performance).sessionId before := by
  have hlast : endsWithCheckpoint (World.after .smooth (.plain .performance) startup).late
      (World.after .smooth (.plain .performance) startup).journal.lines = true := by
    decide +kernel
  unfold endsWithCheckpoint at hlast
  split at hlast
  · rename_i seq revision state heq
    have hcut : _ <+: (World.after .smooth (.plain .performance) startup).journal.lines :=
      ⟨[], (List.append_nil _).trans (List.dropLast_append_getLast? _ heq)⟩
    have hlate : seq ∉ (World.after .smooth (.plain .performance) startup).late := by
      simpa using hlast
    exact ⟨_, seq, revision, state, hcut, checkpoint_reproducible .smooth (.plain .performance)
      startup _ seq revision state hcut hlate⟩
  · exact absurd hlast (by simp)

/-- The last line is a checkpoint, and the state of the events before it has another revision. -/
def lastUnreproducible (session : SessionId) (lines : List JournalEntry) : Bool :=
  match lines.getLast? with
  | some ⟨_, .of (.stateRevision _ state)⟩ =>
    state.revision != (liveAfter session lines.dropLast).revision
  | _ => false

/-- Interrupts reach no process, and each question takes 300 milliseconds. -/
def Environment.deaf : Environment :=
  { Environment.smooth with
    clock := fun question => 300 * question
    signalInterrupt := fun _ => .error ⟨.internal, "no such process", false⟩ }

/-- GDB acknowledges an interrupt of a running target, which does not stop. -/
def ignoredInterrupt : List Arrival := startup ++
  [.mi (.notifyAsync none "thread-group-started"
      [("id", .const (utf8 "i1")), ("pid", .const (utf8 "42"))]),
    .mi (.execAsync none "running" []),
    .control (some (.interrupt ⟨"-exec-interrupt", []⟩ 1000000)), .done 20, .wake, .tick]

/-- The escalation of the interrupt fails, the live state fails closed without an event, and the
worker goes on to a checkpoint. -/
theorem ignoredInterrupt_unreproducible :
    ∃ before seq revision state,
      before ++ [⟨seq, .of (.stateRevision revision state)⟩] <+:
        (World.after .deaf (.plain .performance) ignoredInterrupt).journal.lines ∧
      state ≠ liveAfter (Configuration.plain .performance).sessionId before := by
  have hlast : lastUnreproducible (Configuration.plain .performance).sessionId
      (World.after .deaf (.plain .performance) ignoredInterrupt).journal.lines = true := by
    decide +kernel
  generalize (World.after .deaf (.plain .performance) ignoredInterrupt).journal.lines = lines at hlast
  unfold lastUnreproducible at hlast
  split at hlast
  · rename_i seq revision state heq
    refine ⟨lines.dropLast, seq, revision, state, ?_, fun hstate => ?_⟩
    · rw [List.dropLast_append_getLast? _ heq]
    · rw [← hstate] at hlast
      simp at hlast
  · exact absurd hlast (by simp)

end GdbAi
