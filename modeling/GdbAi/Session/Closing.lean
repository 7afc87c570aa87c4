import GdbAi.Session.Traversal

/-!
# A closed journal stays closed

`close` finishes the journal with its terminal marker.  A close taken between two commands ends the
loop of the worker.  A close taken with a command in flight makes that execution fail, and what the
worker does next depends on where it waited for the command: behind a quiet exit it stops, behind
any other one it still runs restoration commands or records events, in the journal it has closed.
-/

namespace GdbAi

open Procedure

/-! ### Journals that no longer record -/

namespace Journal

variable {length : JournalEntry → ℕ} {j : Journal}

lemma flush_of_not_recording (h : j.recording = false) (outcome : FlushOutcome) :
    j.flush outcome = (.ok (), j) := if_pos (.inr h)

lemma append_of_not_recording (h : j.recording = false) (payload : Payload) (io : JournalIo) :
    j.append length payload io = (.ok j.nextSeq, j.numbered) := if_pos h

/-- A journal that no longer records keeps its lines. -/
def Silent (lines : List JournalEntry) (j : Journal) : Prop :=
  j.recording = false ∧ j.lines = lines

lemma Silent.record {lines : List JournalEntry} (h : j.Silent lines) (payload : Payload)
    (io : JournalIo) : (j.record length payload io).2.Silent lines := by
  unfold Journal.record
  rw [append_of_not_recording h.1]
  simp only
  split
  · rw [flush_of_not_recording (j := j.numbered) h.1]
    exact h
  · exact h

lemma Silent.flush {lines : List JournalEntry} (h : j.Silent lines) (outcome : FlushOutcome) :
    (j.flush outcome).2.Silent lines := by
  rw [flush_of_not_recording h.1]
  exact h

/-- Nothing makes a journal record again. -/
lemma recording_of_finish {io : JournalIo} (h : (j.finish length io).2.recording = true) :
    j.recording = true := by
  by_contra hrecording
  have hstopped : j.recording = false := Bool.eq_false_iff.mpr hrecording
  rw [finish, append_of_not_recording hstopped] at h
  simp only at h
  rw [flush_of_not_recording (j := j.numbered) hstopped] at h
  exact hrecording h

lemma Settles.lines_subset {j' : Journal} (h : Settles j j') : j'.lines <+: j.lines := by
  rcases h with hkept | hstopped
  · exact hkept.lines ▸ List.prefix_refl _
  · exact hstopped.lines

end Journal

/-! ### Invariants of recording -/

namespace EventInvariant

variable (env : Environment)

lemma accounted : EventInvariant env (fun w => w.journal.Accounted env.length)
    fun w => w.journal.Accounted env.length :=
  of_journal (fun _ payload io h => h.perform (.append payload io))
    fun _ outcome h => h.perform (.flush outcome)

lemma silent (lines : List JournalEntry) :
    EventInvariant env (fun w => w.journal.Silent lines) fun w => w.journal.Silent lines :=
  of_journal (fun _ payload io h => h.record payload io) fun _ outcome h => h.flush outcome

lemma noOperations : EventInvariant env (fun _ => True) fun w => w.dirtyOperations = [] :=
  of_keeps (fun _ _ => trivial) fun _ _ h => h.dirtyOperations

lemma failedStore : EventInvariant env (fun _ => True) fun w => w.storeFailed = true :=
  of_keeps (fun _ _ => trivial) fun _ _ h => h.storeFailed

lemma finalized : EventInvariant env (fun _ => True) fun w => w.outputEvidenceFinalized = true :=
  of_keeps (fun _ _ => trivial) fun _ _ h => h.outputEvidenceFinalized

end EventInvariant

/-! ### The checkpoints of `close` -/

/-- Nothing is left to checkpoint in a journal that records. -/
def World.Swept (w : World) : Prop :=
  w.dirtyOperations = [] ∧ (w.journal.recording = true → w.stateDirty = false)

/-- The gap of the journal has been reported. -/
def World.reported (w : World) : World := { w with journalGapReported := true }

section Checkpoints

variable {env : Environment} {w : World}

/-- Only a journal that no longer records reports a gap. -/
lemma meets_reportJournalGap {V : World → Prop} (hacc : w.journal.Accounted env.length)
    (hsame : V w)
    (hnested : ∀ w', w'.journal.Silent w.journal.lines → (w.dirtyOperations = [] →
      w'.dirtyOperations = []) → V w') :
    Meets (fun _ => True) env (reportJournalGap applyEvent) (fun _ => V) (fun _ _ => True) w := by
  refine meets_reads_bind ?_
  by_cases hreported : w.journalGapReported = true
  · simp only [hreported, if_true]
    exact meets_pure hsame
  simp only [hreported]
  cases hgap : w.journal.gap with
  | none => exact meets_pure hsame
  | some gap =>
    have hstopped : w.journal.recording = false := by
      by_contra hrecording
      have hnone := hacc.gapless (Bool.eq_true_of_not_eq_false hrecording)
      simp [hgap] at hnone
    have hsilent : w.reported.journal.Silent w.journal.lines := ⟨hstopped, rfl⟩
    refine meets_update_bind ?_
    by_cases hoperations : w.dirtyOperations = []
    · have hboth := (EventInvariant.silent env w.journal.lines).and (EventInvariant.noOperations env)
      refine ((hboth.applyEvent _ w.reported ⟨hsilent, hoperations⟩).weaken fun _ _ =>
        trivial).mono ?_ fun _ _ _ => trivial
      exact fun _ w' hw' => hnested w' hw'.1 fun _ => hw'.2
    · have hkeeps := EventInvariant.silent env w.journal.lines
      refine ((hkeeps.applyEvent _ w.reported hsilent).weaken fun _ _ => trivial).mono ?_
        fun _ _ _ => trivial
      exact fun _ w' hw' => hnested w' hw' fun h => absurd h hoperations

/-- A checkpoint that is appended leaves the state clean. -/
lemma meets_appendState (hacc : w.journal.Accounted env.length) (hoperations : w.dirtyOperations = []) :
    Meets (fun _ => True) env (appendState applyEvent) (fun _ => World.Swept) (fun _ _ => True)
      w := by
  have hlive : Meets (fun _ => True) env appendLive
      (fun _ w' => w'.journal.Accounted env.length ∧ w'.dirtyOperations = [] ∧
        w'.stateDirty = false) (fun _ _ => True) { w with stateDirty := false } := by
    refine meets_reads_bind (meets_update_bind ?_)
    split
    · exact meets_appendJournal (fun _ _ => ⟨hacc.perform (.append _ _), hoperations, rfl⟩)
        fun _ _ => trivial
    · exact meets_appendJournal (fun _ _ => ⟨hacc.perform (.append _ _), hoperations, rfl⟩)
        fun _ _ => trivial
  refine meets_update_bind (hlive.attempt_bind ?_ ?_)
  · rintro seq w₁ ⟨hacc₁, hoperations₁, hdirty₁⟩
    refine Meets.seq (V := fun _ => World.Swept) (E := fun _ _ => True) ?_
      (fun _ _ h => meets_pure h)
    refine (meets_reportJournalGap hacc₁ ⟨hoperations₁, fun _ => hdirty₁⟩ ?_).seq
      (fun _ _ h => meets_pure h)
    exact fun w' hsilent hw' =>
      ⟨hw' hoperations₁, fun hrecording => absurd (hsilent.1.symm.trans hrecording) (by simp)⟩
  · intro error w₁ _
    exact Meets.seq (V := fun _ _ => False) (E := fun _ _ => True)
      (meets_update_bind (meets_update_bind (meets_fail trivial))) (fun _ _ h => h.elim)

/-- A checkpoint leaves the state clean, unless the store has just failed. -/
lemma meets_checkpoint (closing : Bool) (hacc : w.journal.Accounted env.length) :
    Meets (fun _ => True) env (checkpoint applyEvent closing)
      (fun _ w' => w'.dirtyOperations = [] ∧ (w'.storeFailed = true ∨ w'.Swept))
      (fun _ _ => True) w := by
  refine meets_reads_bind (meets_update_bind (meets_reads_bind ?_))
  set w₀ : World := { w with dirtyOperations := [] }
  have hstore {w' : World} (hw' : w'.Swept) :
      Meets (fun _ => True) env (do
      if (← observe fun w => !w.storeFailed) || closing then
        storeResult applyEvent (← ask Environment.store))
      (fun _ w' => w'.dirtyOperations = [] ∧ (w'.storeFailed = true ∨ w'.Swept))
      (fun _ _ => True) w' := by
    refine meets_reads_bind ?_
    split
    · refine meets_ask_bind ?_
      have hquestion : World.Swept { w' with question := w'.question + 1 } := hw'
      cases env.store w'.question with
      | ok _ => exact meets_pure ⟨hquestion.1, .inr hquestion⟩
      | error error =>
        refine meets_reads_bind ?_
        split
        · exact meets_update_bind (meets_update_bind (meets_fail trivial))
        refine meets_reads_bind ?_
        split
        · exact meets_pure ⟨hquestion.1, .inr hquestion⟩
        refine meets_update_bind ?_
        have hboth := (EventInvariant.noOperations env).and (EventInvariant.failedStore env)
        refine Meets.mono (hboth.applyEvent _ _ ⟨hw'.1, rfl⟩) ?_ fun _ _ _ => trivial
        exact fun _ _ h => ⟨h.1, .inl h.2⟩
    · exact meets_pure ⟨hw'.1, .inr hw'⟩
  split
  · rename_i hnothing
    have hdirty : w.stateDirty = false := by
      simp only [Bool.and_eq_true, Bool.not_eq_true', Bool.or_eq_false_iff] at hnothing
      exact hnothing.1.1
    exact meets_pure ⟨rfl, .inr ⟨rfl, fun _ => hdirty⟩⟩
  · refine Meets.seq (V := fun _ => World.Swept) (E := fun _ _ => True) ?_ (fun _ _ h => hstore h)
    refine Meets.onlyIf (fun _ => meets_appendState (w := w₀) hacc rfl) fun hclean => ?_
    simp only [Bool.or_eq_false_iff] at hclean
    exact ⟨rfl, fun _ => hclean.1⟩

variable (env) in
/-- A checkpoint with nothing left to do changes no line. -/
lemma meets_checkpoint_swept (hw : w.Swept) :
    Meets (fun w' => w'.journal.lines = w.journal.lines) env (checkpoint applyEvent false)
      (fun _ w' => w'.Swept ∧ w'.journal.lines = w.journal.lines)
      (fun _ w' => w'.journal.lines = w.journal.lines) w := by
  by_cases hrecording : w.journal.recording = true
  · refine meets_reads_bind (meets_update_bind (meets_reads_bind ?_))
    have hdirty : w.stateDirty = false := hw.2 hrecording
    have hnone : (if w.storeFailed then [] else w.dirtyOperations) = [] := by simp [hw.1]
    simp only [hdirty, hnone, Bool.false_and, Bool.or_self, Bool.not_false, List.isEmpty_nil,
      Bool.and_self, if_true]
    exact meets_pure ⟨⟨rfl, fun _ => rfl⟩, rfl⟩
  · have hsilent : w.journal.Silent w.journal.lines := ⟨Bool.eq_false_iff.mpr hrecording, rfl⟩
    have hboth := (EventInvariant.silent env w.journal.lines).and (EventInvariant.noOperations env)
    refine ((hboth.checkpoint hboth.applyEvent false w ⟨hsilent, hw.1⟩).weaken fun _ h =>
      h.2).mono ?_ fun _ _ h => h.1.2
    rintro _ w' ⟨hsilent', hoperations⟩
    exact ⟨⟨hoperations, fun h => absurd (hsilent'.1.symm.trans h) (by simp)⟩, hsilent'.2⟩

/-- The second checkpoint of `close` leaves the state clean. -/
lemma meets_checkpoint_again (hacc : w.journal.Accounted env.length)
    (hw : w.dirtyOperations = [] ∧ (w.storeFailed = true ∨ w.Swept)) :
    Meets (fun _ => True) env (checkpoint applyEvent false) (fun _ => World.Swept)
      (fun _ _ => True) w := by
  by_cases hfailed : w.storeFailed = true
  · -- the store has failed, so the event of its failure is appended and nothing is stored
    refine meets_reads_bind (meets_update_bind (meets_reads_bind ?_))
    have hoperations : ({ w with dirtyOperations := [] } : World).dirtyOperations = [] := rfl
    split
    · rename_i hnothing
      simp only [Bool.and_eq_true, Bool.not_eq_true', Bool.or_eq_false_iff] at hnothing
      exact meets_pure ⟨rfl, fun _ => hnothing.1.1⟩
    · refine Meets.seq (V := fun _ w' => w'.Swept ∧ w'.storeFailed = true) (E := fun _ _ => True)
        (Meets.onlyIf (fun _ => ?_) fun hclean => ?_) ?_
      · have hstays := (EventInvariant.failedStore env).appendState
          (EventInvariant.failedStore env).applyEvent { w with dirtyOperations := [] } hfailed
        have hswept := meets_appendState (w := { w with dirtyOperations := [] }) hacc hoperations
        exact ((hswept.and hstays).weaken fun _ _ => trivial).mono (fun _ _ h => h)
          fun _ _ _ => trivial
      · simp only [Bool.or_eq_false_iff] at hclean
        exact ⟨⟨rfl, fun _ => hclean.1⟩, hfailed⟩
      · rintro _ w' ⟨hswept, hstays⟩
        refine meets_reads_bind ?_
        simp only [hstays, Bool.not_true, Bool.or_false, Bool.false_eq_true, if_false]
        exact meets_pure hswept
  · have hswept : w.Swept := hw.2.resolve_left hfailed
    exact ((meets_checkpoint_swept env hswept).weaken fun _ _ => trivial).mono (fun _ _ h => h.1)
      fun _ _ _ => trivial

end Checkpoints

/-! ### The journal of a session -/

/-- The worker stops behind every execution that a close has ended. -/
def World.ClosesQuietly (w : World) : Prop :=
  ∀ exit ∈ w.exits, exit.kind = .closed → exit.quiet = true

namespace Closing

variable (env : Environment)

/-- No close has succeeded. -/
def Open (_ : List ℕ) (w : World) : Prop :=
  w.journal.Accounted env.length ∧ (w.ClosesQuietly → w.closedLines = none)

/-- A close has succeeded, and nothing is left to record. -/
def Closed (w : World) : Prop :=
  w.journal.Accounted env.length ∧ w.outputEvidenceFinalized = true ∧
    (w.ClosesQuietly → ∀ lines, w.closedLines = some lines →
      w.journal.lines <+: lines ∧ (w.fatal = true ∨ w.Swept))

/-- The journal has no line behind those of its close. -/
def Safe (w : World) : Prop :=
  w.ClosesQuietly → ∀ lines, w.closedLines = some lines → w.journal.lines <+: lines

variable {env} {w : World} {waiting : List ℕ}

variable (env waiting) in
lemma events : EventInvariant env Safe (Open env waiting) := by
  have hclosed : EventInvariant env Safe fun w => w.ClosesQuietly → w.closedLines = none := by
    refine .of_keeps (fun w hw hquiet lines hlines => ?_) fun w w' hkeeps hw hquiet => ?_
    · exact absurd ((hw hquiet).symm.trans hlines) (by simp)
    · have hexits : w.ClosesQuietly := fun exit hexit => hquiet exit (hkeeps.exits ▸ hexit)
      exact hkeeps.closedLines.trans (hw hexits)
  have hboth := hclosed.and (EventInvariant.accounted env)
  have hopen : Open env waiting = fun w => (w.ClosesQuietly → w.closedLines = none) ∧
      w.journal.Accounted env.length := funext fun w => propext and_comm
  rw [hopen]
  exact hboth

variable (env waiting) in
/-- An event that is appended and reduced closes nothing. -/
lemma journalEvent_open (event : DomainEvent) :
    Preserves Safe env (Open env waiting) (journalEvent event) := by
  have hclosed : Preserves Safe env (fun w => w.ClosesQuietly → w.closedLines = none)
      (journalEvent event) := by
    refine EventInvariant.preserves_journalEvent_of_keeps (fun w w' hkeeps hw hquiet => ?_) event
    exact hkeeps.closedLines.trans (hw fun exit hexit => hquiet exit (hkeeps.exits ▸ hexit))
  have haccounted : Preserves Safe env (fun w => w.journal.Accounted env.length)
      (journalEvent event) :=
    EventInvariant.preserves_journalEvent_of_journal
      (fun _ payload io h => h.perform (.append payload io)) event
  exact haccounted.and hclosed

lemma Open.of_trace {w' : World} (h : Open env waiting w) (hjournal : w'.journal = w.journal)
    (hexits : ∀ exit ∈ w.exits, exit ∈ w'.exits) (hclosed : w'.closedLines = w.closedLines)
    {waiting' : List ℕ} : Open env waiting' w' :=
  ⟨hjournal ▸ h.1, fun hquiet => hclosed.trans (h.2 fun exit hexit => hquiet exit (hexits exit hexit))⟩

lemma meets_finalizeOutputEvidence (hw : Open env waiting w) :
    Meets Safe env finalizeOutputEvidence
      (fun _ w' => Open env waiting w' ∧ w'.outputEvidenceFinalized = true)
      (fun _ => Open env waiting) w := by
  refine meets_reads_bind ?_
  by_cases hfinalized : w.outputEvidenceFinalized = true
  · simp only [hfinalized, if_true]
    exact meets_pure ⟨hw, hfinalized⟩
  simp only [hfinalized]
  refine ((events env _).requires _ w hw).seq fun evidence w₁ hw₁ => ?_
  refine meets_update_bind ?_
  have hboth := (events env waiting).and (EventInvariant.finalized env)
  have happend := hboth.appends (.inferiorOutputEvidence evidence) rfl
    { w₁ with outputEvidenceFinalized := true } ⟨hw₁, rfl⟩
  exact happend.bind (fun _ _ h => meets_pure h) fun _ _ he => he.1

/-- The end of `close`, behind its two checkpoints. -/
lemma meets_finish (hw : Open env waiting w) (hfinalized : w.outputEvidenceFinalized = true)
    (hswept : w.Swept) :
    Meets Safe env (do
      let finished ← attempt finishJournal
      let lines ← observe fun w => w.journal.lines
      journalResult applyEvent finished
      checkpoint applyEvent false
      update fun w => w.close lines) (fun _ => Closed env) (fun _ => Open env waiting) w := by
  have hevents := (events env waiting).and (EventInvariant.finalized env)
  have hnext : Open env waiting (w.journaled (w.journal.finish env.length
      (env.journal w.question)).2) := ⟨hw.1.perform (.finish _), hw.2⟩
  have hfinish : Meets Safe env finishJournal
      (fun _ w' => Open env waiting w' ∧ w'.outputEvidenceFinalized = true ∧ w'.Swept)
      (fun _ => Open env waiting) w := by
    refine meets_finishJournal (fun _ => ⟨hnext, hfinalized, hswept.1, fun h => ?_⟩) fun _ _ => hnext
    exact hswept.2 (Journal.recording_of_finish h)
  refine hfinish.attempt_bind ?_ ?_
  · rintro _ w₁ ⟨hopen₁, hfinalized₁, hswept₁⟩
    refine meets_reads_bind ?_
    have hgap := meets_reportJournalGap (V := fun w' => w'.Swept ∧
      w'.journal.lines = w₁.journal.lines) hopen₁.1 ⟨hswept₁, rfl⟩ fun w' hsilent hoperations =>
        ⟨⟨hoperations hswept₁.1, fun h => absurd (hsilent.1.symm.trans h) (by simp)⟩, hsilent.2⟩
    have hreport := ((hevents.reportJournalGap hevents.applyEvent w₁ ⟨hopen₁, hfinalized₁⟩).and
      hgap).weaken fun _ h => h.1
    refine Meets.seq (V := fun _ w' => (Open env waiting w' ∧ w'.outputEvidenceFinalized = true) ∧
      w'.Swept ∧ w'.journal.lines = w₁.journal.lines) (E := fun _ => Open env waiting)
      (hreport.bind (fun _ _ h => meets_pure h) fun _ _ he => he.1.1) ?_
    rintro _ w₂ ⟨hboth₂, hswept₂, hlines₂⟩
    have hlast := ((hevents.checkpoint hevents.applyEvent false w₂ hboth₂).and
      (meets_checkpoint_swept env hswept₂)).weaken fun _ h => h.1
    refine hlast.bind ?_ fun _ _ he => he.1.1
    rintro _ w₃ ⟨⟨hopen₃, hfinalized₃⟩, hswept₃, hlines₃⟩
    refine meets_update ⟨hopen₃.1, hfinalized₃, fun _ lines hlines => ⟨?_, .inr hswept₃⟩⟩
    have hclosed : lines = w₁.journal.lines := by
      unfold World.close at hlines
      simp only at hlines
      split at hlines
      · exact (Option.some.inj hlines).symm
      · exact absurd hlines (by simp)
    rw [hclosed]
    exact (hlines₃.trans hlines₂) ▸ List.prefix_refl _
  · intro error w₁ hopen₁
    refine meets_reads_bind (Meets.seq (V := fun _ _ => False) (E := fun _ => Open env waiting) ?_
      (fun _ _ h => h.elim))
    refine meets_update_bind (meets_update_bind (meets_fail ?_))
    exact (events env _).failed { w₁ with fatal := true } hopen₁

lemma meets_close (hw : Open env waiting w) :
    Meets Safe env close (fun _ => Closed env) (fun _ => Open env waiting) w := by
  have hevents := (events env waiting).and (EventInvariant.finalized env)
  refine (((events env _).applyEvent _).attempt w hw).seq fun closing w₁ hw₁ => ?_
  refine ((events env _).asks _ w₁ hw₁).seq fun shutdown w₂ hw₂ => ?_
  refine (preserves_ofExcept closing w₂ hw₂).seq fun _ w₃ hw₃ => ?_
  refine (preserves_ofExcept shutdown w₃ hw₃).seq fun _ w₄ hw₄ => ?_
  refine (meets_finalizeOutputEvidence hw₄).seq fun _ w₅ hw₅ => ?_
  refine (hevents.applyEvent _ w₅ hw₅).bind (fun _ w₆ hw₆ => ?_) fun _ _ he => he.1
  have hfirst := ((hevents.checkpoint hevents.applyEvent true w₆ hw₆).and
    (meets_checkpoint true hw₆.1.1)).weaken fun _ h => h.1
  refine hfirst.bind (fun _ w₇ hw₇ => ?_) fun _ _ he => he.1.1
  have hsecond := ((hevents.checkpoint hevents.applyEvent false w₇ hw₇.1).and
    (meets_checkpoint_again hw₇.1.1.1 hw₇.2)).weaken fun _ h => h.1
  refine hsecond.bind (fun _ w₈ hw₈ => ?_) fun _ _ he => he.1.1
  exact meets_finish hw₈.1.1 hw₈.1.2 hw₈.2

/-- A session that no close has ended. -/
lemma meets_shutdownTail_open (hw : Open env [] w) :
    Meets Safe env shutdownTail (fun _ => Safe) (fun _ => Safe) w :=
  (events env []).recorder.tail hw

/-- The last flush behind a close. -/
lemma meets_flush_closed (hw : Safe w) :
    Meets Safe env (do let _ ← attempt flushJournal) (fun _ => Safe) (fun _ => Safe) w := by
  have hnext : Safe (w.journaled (w.journal.flush (env.journal w.question).flush).2) :=
    fun hquiet lines hlines =>
      (Journal.flush_settles w.journal _).lines_subset.trans (hw hquiet lines hlines)
  refine Meets.attempt_bind (V := fun _ => Safe) (E := fun _ => Safe)
    (meets_flushJournal (fun _ => hnext) fun _ _ => hnext) ?_ ?_
  · exact fun _ _ h => meets_pure h
  · exact fun _ _ h => meets_pure h

/-- A session that a close has ended. -/
lemma meets_shutdownTail_closed (hw : Closed env w) (hquiet : w.ClosesQuietly)
    {lines : List JournalEntry} (hlines : w.closedLines = some lines) :
    Meets Safe env shutdownTail (fun _ => Safe) (fun _ => Safe) w := by
  obtain ⟨-, hfinalized, hclosed⟩ := hw
  obtain ⟨hsame, hdone⟩ := hclosed hquiet lines hlines
  refine meets_reads_bind ?_
  simp only [hfinalized, Bool.not_true]
  change Meets Safe env (do
    finalCheckpoint
    let _ ← attempt flushJournal) (fun _ => Safe) (fun _ => Safe) w
  have hafter (w' : World) (hjournal : w'.journal.lines = w.journal.lines)
      (hclosed' : w'.closedLines = w.closedLines) : Safe w' := by
    intro _ lines' hlines'
    have heq : lines' = lines := Option.some.inj (hlines'.symm.trans (hclosed'.trans hlines))
    rw [hjournal, heq]
    exact hsame
  have hcheckpoint : Meets Safe env finalCheckpoint (fun _ => Safe) (fun _ => Safe) w := by
    refine meets_reads_bind ?_
    split
    · exact meets_ask_bind (meets_pure (hafter _ rfl rfl))
    · rename_i hfatal
      have hkept : EventInvariant env (fun w' => w'.closedLines = w.closedLines)
          fun w' => w'.closedLines = w.closedLines :=
        .of_keeps (fun _ h => h) fun _ _ hkeeps h => hkeeps.closedLines.trans h
      have hboth := ((meets_checkpoint_swept env (hdone.resolve_left hfatal)).and
        (hkept.checkpoint hkept.applyEvent false w rfl)).weaken fun w' h => hafter w' h.1 h.2
      refine hboth.attempt_bind ?_ ?_
      · exact fun _ w' h => meets_pure (hafter w' h.1.2 h.2)
      · exact fun _ w' h => meets_pure (hafter w' h.1 h.2)
  exact hcheckpoint.seq fun _ _ h => meets_flush_closed h

/-- A close makes its execution fail, quietly or not. -/
lemma left_of_closed (site : Site) (error : Error) (hw : Closed env w) :
    Left (Open env) (Closed env) site error ({ w with fatal := true }.leave site .closed error) := by
  by_cases hsite : w.quiet site error = true
  · refine .inr ⟨⟨hw.1, hw.2.1, fun hquiet lines hlines => ⟨?_, .inl rfl⟩⟩, .inl rfl, hsite⟩
    exact (hw.2.2 (fun exit hexit => hquiet exit (List.mem_append_left _ hexit)) lines hlines).1
  · refine .inl ⟨hw.1, fun hquiet => absurd ?_ hsite⟩
    exact hquiet _ (List.mem_append_right _ (List.mem_singleton_self _)) rfl

lemma discipline (env : Environment) :
    Discipline env (fun _ => True) (Open env) (Closed env) Safe where
  events waiting := (events env waiting).recorder
  overSafe hw hquiet lines hlines := (hw.2.2 hquiet lines hlines).1
  frame hw hframe := hw.of_trace hframe.journal (fun _ h => hframe.trace.symm ▸ h)
    (congrArg Trace.closedLines hframe.trace)
  still := by
    intro w w' hw hstill
    have hexits : w'.exits = w.exits := congrArg Trace.exits hstill.trace
    have hclosed : w'.closedLines = w.closedLines := congrArg Trace.closedLines hstill.trace
    refine ⟨hstill.journal ▸ hw.1, hstill.outputEvidenceFinalized.trans hw.2.1, ?_⟩
    intro hquiet lines hlines
    obtain ⟨hsame, hdone⟩ := hw.2.2 (fun exit h => hquiet exit (hexits ▸ h)) lines
      (hclosed.symm.trans hlines)
    refine ⟨hstill.journal ▸ hsame, hdone.imp (fun h => hstill.sameFatal.trans h) fun hswept => ?_⟩
    refine ⟨hstill.dirtyOperations.trans hswept.1, fun hrecording => ?_⟩
    exact hstill.stateDirty.trans (hswept.2 (hstill.journal ▸ hrecording))
  admitted _ _ := trivial
  permutes hw _ := hw
  begins _ hw _ _ _ := hw
  answers hw _ := hw
  timesOut hw _ := hw
  delays hw := hw
  leaves := by
    intro waiting w site error hw
    have hjournal : (w.leave site (if w.fatal then .fatal else .lost) error).journal = w.journal :=
      rfl
    exact .inl (hw.of_trace hjournal (fun _ h => List.mem_append_left _ h) rfl)
  drops := by
    intro waiting waiting' token w site error hw _
    have hjournal : (w.leave site .dropped error).journal = w.journal := rfl
    exact hw.of_trace hjournal (fun _ h => List.mem_append_left _ h) rfl
  closes hw := meets_close hw
  leavesClosed site error hw := left_of_closed site error hw
  starts _ hw := hw
  releases hw := hw
  releasesOver hw := hw
  claims hw _ := hw
  tail := by
    intro w hw
    rcases hw with hopen | hclosed
    · exact meets_shutdownTail_open hopen
    by_cases hquiet : w.ClosesQuietly
    · cases hlines : w.closedLines with
      | none => exact meets_shutdownTail_open ⟨hclosed.1, fun _ => hlines⟩
      | some lines => exact meets_shutdownTail_closed hclosed hquiet hlines
    · exact meets_shutdownTail_open ⟨hclosed.1, fun h => absurd h hquiet⟩

lemma startup (env : Environment) : Startup env (Open env) Safe (Open env []) :=
  (events env []).startup rfl (discipline env).frame (journalEvent_open env [])

end Closing

/-- In a session whose closes all end quietly, the journal has no line behind those that the
successful close has left. -/
theorem closed_journal_stays_closed (env : Environment) (config : Configuration)
    (arrivals : List Arrival) (hquiet : (World.after env config arrivals).ClosesQuietly)
    (lines : List JournalEntry)
    (hclosed : (World.after env config arrivals).closedLines = some lines) :
    (World.after env config arrivals).journal.lines <+: lines :=
  (Closing.discipline env).session (Closing.startup env) config
    ⟨Journal.accounted_create _ _, fun _ => rfl⟩ hquiet lines hclosed

/-- A session closed with a plain command in flight. -/
def closedCommand : List Arrival := startup ++
  [.request (some (.command ⟨"-exec-run", []⟩ none 1000000)), .control (some .close)]

theorem closedCommand_stays_closed :
    ∃ lines, (World.after .smooth (.plain .performance) closedCommand).closedLines = some lines ∧
      (World.after .smooth (.plain .performance) closedCommand).journal.lines <+: lines := by
  have hclosed : (World.after .smooth (.plain .performance) closedCommand).closedLines.isSome =
      true := by decide +kernel
  obtain ⟨lines, hlines⟩ := Option.isSome_iff_exists.mp hclosed
  have hquiet : (World.after .smooth (.plain .performance) closedCommand).exits.all Exit.quiet =
      true := by decide +kernel
  have hstays := closed_journal_stays_closed .smooth (.plain .performance) closedCommand
    (fun exit hexit _ => List.all_eq_true.mp hquiet exit hexit) lines hlines
  exact ⟨lines, hlines, hstays⟩

/-- A session closed with the command of a transaction in flight that still owes a command. -/
def closedTransaction : List Arrival := startup ++
  [.request (some (.transaction [] ⟨"-exec-run", []⟩ [⟨"-gdb-set", []⟩] none 1000000)),
    .control (some .close)]

/-- The transaction writes its last command behind the close, and the journal records it. -/
theorem closedTransaction_goes_on :
    ∃ lines,
      (World.after .smooth (.plain .performance) closedTransaction).closedLines = some lines ∧
      ¬ (World.after .smooth (.plain .performance) closedTransaction).journal.lines <+: lines := by
  have hlonger : (World.after .smooth (.plain .performance) closedTransaction).closedLines.any
      (fun lines => lines.length <
        (World.after .smooth (.plain .performance) closedTransaction).journal.lines.length) =
      true := by decide +kernel
  obtain ⟨lines, hlines, hlength⟩ := (Option.any_eq_true _ _).mp hlonger
  refine ⟨lines, hlines, fun h => ?_⟩
  exact absurd h.length_le (Nat.not_le.mpr (of_decide_eq_true hlength))

end GdbAi
