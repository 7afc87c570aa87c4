import GdbAi.Session.Checkpoints

/-!
# Commands do not overlap

A command other than an interrupt is written when no token in flight is without an answer and no
timed-out token is.  So every earlier token has its answer, unless an execution was left before its
command was answered and the worker went on: its token is then neither in flight nor known to have
timed out.
-/

namespace GdbAi

open Procedure

/-- Only an interrupt is written before every earlier line has its answer. -/
def Write.Ordered (write : Write) : Prop :=
  write.name = "-exec-interrupt" ∨ write.unanswered = []

/-- Behind an execution that was left unanswered the worker stops. -/
def Exit.ends (exit : Exit) : Bool :=
  match exit.kind with
  | .closed | .fatal => exit.quiet
  | .lost => exit.site = .handshake
  | .dropped => false

namespace Overlap

/-- The worker stops behind every execution that was left unanswered. -/
def Ends (w : World) : Prop := ∀ exit ∈ w.exits, exit.ends = true

/-- The interrupts that arrive are interrupts. -/
def Interrupts (w : World) : Prop := ∀ command deadline,
  .control (some (.interrupt command deadline)) ∈ w.arrivals → command.name = "-exec-interrupt"

/-- An interrupt that arrives is one. -/
def Admits (arrival : Arrival) : Prop := ∀ command deadline,
  arrival = .control (some (.interrupt command deadline)) → command.name = "-exec-interrupt"

/-- Every token without an answer has timed out or is in flight. -/
def Tracked (waiting : List ℕ) (w : World) : Prop :=
  Interrupts w ∧ (Ends w →
    (∀ token ∈ w.unanswered, token ∈ w.timedOutTokens ∨ token ∈ waiting) ∧
    ∀ write ∈ w.writes, write.Ordered)

/-- The lines written so far are in order. -/
def Written (w : World) : Prop := Interrupts w ∧ (Ends w → ∀ write ∈ w.writes, write.Ordered)

variable {env : Environment} {w w' : World} {waiting waiting' : List ℕ}

lemma Interrupts.suffix (h : Interrupts w) (harrivals : w'.arrivals <:+ w.arrivals) :
    Interrupts w' := fun command deadline hmem => h command deadline (harrivals.subset hmem)

lemma Tracked.written (h : Tracked waiting w) : Written w := ⟨h.1, fun hends => (h.2 hends).2⟩

lemma Tracked.keeps (h : Tracked waiting w) (hkeeps : Keeps w w') : Tracked waiting w' := by
  refine ⟨h.1.suffix hkeeps.arrivals, fun hends => ?_⟩
  rw [hkeeps.unanswered, hkeeps.timedOutTokens, hkeeps.writes]
  exact h.2 fun exit hexit => hends exit (hkeeps.exits ▸ hexit)

lemma Written.keeps (h : Written w) (hkeeps : Keeps w w') : Written w' := by
  refine ⟨h.1.suffix hkeeps.arrivals, fun hends => ?_⟩
  rw [hkeeps.writes]
  exact h.2 fun exit hexit => hends exit (hkeeps.exits ▸ hexit)

lemma Tracked.frame (h : Tracked waiting w) (hframe : Frame w w') : Tracked waiting w' := by
  refine ⟨h.1.suffix hframe.arrivals, fun hends => ?_⟩
  have htrace := hframe.trace
  rw [show w'.unanswered = w.unanswered from congrArg Trace.unanswered htrace,
    show w'.writes = w.writes from congrArg Trace.writes htrace, hframe.timedOutTokens]
  exact h.2 fun exit hexit =>
    hends exit ((show w'.exits = w.exits from congrArg Trace.exits htrace) ▸ hexit)

lemma Written.frame (h : Written w) (hframe : Frame w w') : Written w' := by
  refine ⟨h.1.suffix hframe.arrivals, fun hends => ?_⟩
  have htrace := hframe.trace
  rw [show w'.writes = w.writes from congrArg Trace.writes htrace]
  exact h.2 fun exit hexit =>
    hends exit ((show w'.exits = w.exits from congrArg Trace.exits htrace) ▸ hexit)

lemma events (env : Environment) (waiting : List ℕ) :
    EventInvariant env Written (Tracked waiting) :=
  .of_keeps (fun _ h => h.written) fun _ _ hkeeps h => h.keeps hkeeps

/-- A line is written behind the answers to the earlier ones, or it is an interrupt. -/
lemma Tracked.begins {command : MiCommand} (token : ℕ) (h : Tracked waiting w)
    (hbeside : command.name = "-exec-interrupt" ∨ waiting = [])
    (hknown : w.timedOutTokens = [] ∨ command.name = "-exec-interrupt") :
    Tracked (token :: waiting)
      (w.written token command.name) := by
  refine ⟨h.1, fun hends => ?_⟩
  obtain ⟨htracked, hwrites⟩ := h.2 hends
  constructor
  · intro t ht
    rcases List.mem_append.mp ht with ht | ht
    · exact (htracked t ht).imp_right (List.mem_cons_of_mem token)
    · exact .inr (List.mem_singleton.mp ht ▸ List.mem_cons_self)
  · intro write hwrite
    rcases List.mem_append.mp hwrite with hwrite | hwrite
    · exact hwrites write hwrite
    · obtain rfl := List.mem_singleton.mp hwrite
      by_cases hname : command.name = "-exec-interrupt"
      · exact .inl hname
      · have htokens := hbeside.resolve_left hname
        have htimedOut := hknown.resolve_right hname
        refine .inr (List.eq_nil_iff_forall_not_mem.mpr fun t ht => ?_)
        rcases htracked t ht with hmem | hmem
        · simp [htimedOut] at hmem
        · simp [htokens] at hmem

/-- Tokens leave the flight, answered or given up. -/
lemma Tracked.release (h : Tracked waiting w) (harrivals : w'.arrivals = w.arrivals)
    (hexits : w'.exits = w.exits) (hwrites : w'.writes = w.writes)
    (hrelease : ∀ t ∈ w'.unanswered, t ∈ w.unanswered ∧
      (t ∈ w.timedOutTokens → t ∈ w'.timedOutTokens) ∧
      (t ∈ waiting → t ∈ w'.timedOutTokens ∨ t ∈ waiting')) :
    Tracked waiting' w' := by
  refine ⟨h.1.suffix (harrivals ▸ List.suffix_rfl), fun hends => ?_⟩
  obtain ⟨htracked, hordered⟩ := h.2 fun exit hexit => hends exit (hexits ▸ hexit)
  refine ⟨fun t ht => ?_, hwrites ▸ hordered⟩
  obtain ⟨hold, hstays, hleaves⟩ := hrelease t ht
  rcases htracked t hold with hmem | hmem
  · exact .inl (hstays hmem)
  · exact hleaves hmem

/-- The same tokens are in flight, or more. -/
lemma Tracked.weaken (h : Tracked waiting w) (hwaiting : ∀ t ∈ waiting, t ∈ waiting') :
    Tracked waiting' w :=
  h.release rfl rfl rfl fun t ht => ⟨ht, id, fun hmem => .inr (hwaiting t hmem)⟩

/-- An answer is taken for a token, which may have been in flight. -/
lemma Tracked.answer {token : ℕ} (h : Tracked waiting w)
    (hwaiting : ∀ t ∈ waiting, t = token ∨ t ∈ waiting') :
    Tracked waiting' (w.answer token) := by
  refine h.release rfl rfl rfl fun t ht => ?_
  obtain ⟨hold, hne⟩ := List.mem_filter.mp ht
  refine ⟨hold, id, fun hmem => .inr ((hwaiting t hmem).resolve_left ?_)⟩
  simpa using hne

/-- An exit that does not end the worker ends what is known. -/
lemma Tracked.leave {kind : ExitKind} {site : Site} {error : Error} (h : Interrupts w)
    (hends : Exit.ends ⟨site, kind, error.code, w.staleDue, !w.timedOutTokens.isEmpty⟩ = false) :
    Tracked waiting (w.leave site kind error) := by
  refine ⟨h, fun hall => ?_⟩
  have hlast := hall _ (List.mem_append_right _ (List.mem_singleton_self _))
  exact absurd (hends.symm.trans hlast) (by simp)

lemma Written.leave (h : Written w) (site : Site) (kind : ExitKind) (error : Error) :
    Written (w.leave site kind error) :=
  ⟨h.1, fun hends => h.2 fun exit hexit => hends exit (List.mem_append_left _ hexit)⟩

lemma mem_of_perm {waiting₀ waiting : List ℕ} {token : ℕ} (h : waiting₀.Perm (token :: waiting)) :
    ∀ t ∈ waiting₀, t = token ∨ t ∈ waiting :=
  fun _ ht => List.mem_cons.mp (h.mem_iff.mp ht)

/-- A token is given up. -/
lemma Tracked.timeOut {token : ℕ} (h : Tracked waiting w)
    (hwaiting : ∀ t ∈ waiting, t = token ∨ t ∈ waiting') :
    Tracked waiting' (w.timeOut token) := by
  refine h.release rfl rfl rfl fun t ht => ⟨ht, fun hmem => ?_, fun hmem => ?_⟩
  · by_cases hsame : t = token
    · exact List.mem_append_right _ (List.mem_singleton.mpr hsame)
    · exact List.mem_append_left _ (List.mem_filter.mpr ⟨hmem, by simpa using hsame⟩)
  · exact (hwaiting t hmem).imp_left fun hsame =>
      List.mem_append_right _ (List.mem_singleton.mpr hsame)

/-- A token given up earlier is answered. -/
lemma Tracked.takeDelayed (h : Tracked waiting w) (token : ℕ) :
    Tracked waiting (w.takeDelayed token) := by
  refine h.release rfl rfl rfl fun t ht => ?_
  obtain ⟨hold, hne⟩ := List.mem_filter.mp ht
  exact ⟨hold, fun hmem => List.mem_filter.mpr ⟨hmem, hne⟩, .inr⟩

lemma discipline (env : Environment) : Discipline env Admits Tracked Written Written where
  events waiting := (events env waiting).recorder
  overSafe h := h
  frame h hframe := h.frame hframe
  still h hstill := h.frame hstill.toFrame
  admitted h hmem := fun command deadline heq => h.1 command deadline (heq ▸ hmem)
  permutes h hperm := h.weaken fun _ ht => hperm.mem_iff.mp ht
  begins := by
    intro waiting w₀ w command _ h _ hbeside hknown
    refine h.begins w₀.nextToken (hbeside.imp_left ?_) hknown
    rintro (rfl | ⟨deadline, hadmits⟩)
    · rfl
    · exact hadmits command deadline rfl
  answers h hperm := h.answer (mem_of_perm hperm)
  timesOut h hperm := h.timeOut (mem_of_perm hperm)
  delays h := h.takeDelayed _
  leaves := by
    intro waiting w site error h
    by_cases hfatal : w.fatal = true
    · rw [if_pos hfatal]
      by_cases hquiet : w.quiet site error = true
      · exact .inr ⟨h.written.leave _ _ _, .inl hfatal, hquiet⟩
      · exact .inl (Tracked.leave h.1 (Bool.eq_false_iff.mpr hquiet))
    · rw [if_neg hfatal]
      by_cases hsite : site = .handshake
      · exact .inr ⟨h.written.leave _ _ _, .inr hsite, by rw [hsite]; rfl⟩
      · exact .inl (Tracked.leave h.1 (decide_eq_false hsite))
  drops site error h _ := Tracked.leave h.1 rfl
  closes := by
    intro waiting w h
    refine Meets.mono ((events env waiting).recorder.close ?_ (fun _ _ h => h) w h)
      (fun _ _ h => h.written) fun _ _ h => h
    exact fun w h => meets_finishJournal (fun _ => h) fun _ _ => h
  leavesClosed := by
    intro w site error h
    by_cases hquiet : w.quiet site error = true
    · exact .inr ⟨⟨h.1, (h.leave site .closed error).2⟩, .inl rfl, hquiet⟩
    · exact .inl (Tracked.leave (w := { w with fatal := true }) h.1 (Bool.eq_false_iff.mpr hquiet))
  starts _ h := h
  releases h := h
  releasesOver h := h
  claims h _ := h
  tail := by
    intro w h
    have hwritten : Written w := h.elim Tracked.written id
    have hevents : EventInvariant env Written Written :=
      .of_keeps (fun _ h => h) fun _ _ hkeeps h => h.keeps hkeeps
    exact hevents.recorder.tail hwritten

lemma startup (env : Environment) : Startup env Tracked Written (Tracked []) :=
  (events env []).startup rfl (discipline env).frame
    (EventInvariant.preserves_journalEvent_of_keeps fun _ _ hkeeps h => h.keeps hkeeps)

end Overlap

/-- In a session whose worker stops behind every execution that was left unanswered, a line other
than an interrupt is written only when every earlier token has its answer. -/
theorem commands_do_not_overlap (env : Environment) (config : Configuration)
    (arrivals : List Arrival)
    (hinterrupts : ∀ command deadline, .control (some (.interrupt command deadline)) ∈ arrivals →
      command.name = "-exec-interrupt")
    (hends : ∀ exit ∈ (World.after env config arrivals).exits, exit.ends = true) :
    ∀ write ∈ (World.after env config arrivals).writes,
      write.name = "-exec-interrupt" ∨ write.unanswered = [] := by
  have hinitial : Overlap.Tracked [] (World.initial config arrivals) :=
    ⟨hinterrupts, fun _ => ⟨fun _ h => absurd h List.not_mem_nil, fun _ h => absurd h List.not_mem_nil⟩⟩
  exact ((Overlap.discipline env).session (Overlap.startup env) config hinitial).2 hends

/-- A command beside an interrupt, both answered, and a third command. -/
def interruptedCommand : List Arrival := startup ++
  [.request (some (.command ⟨"-exec-run", []⟩ none 1000000)),
    .control (some (.interrupt ⟨"-exec-interrupt", []⟩ 1000000)), .done 20, .done 21,
    .request (some (.command ⟨"-thread-info", []⟩ none 1000000))]

theorem interruptedCommand_in_order :
    (World.after .smooth (.plain .performance) interruptedCommand).writes.length = 22 ∧
      ∀ write ∈ (World.after .smooth (.plain .performance) interruptedCommand).writes,
        write.name = "-exec-interrupt" ∨ write.unanswered = [] := by
  have hends : (World.after .smooth (.plain .performance) interruptedCommand).exits.all Exit.ends =
      true := by decide +kernel
  refine ⟨by decide +kernel, commands_do_not_overlap .smooth (.plain .performance)
    interruptedCommand ?_ fun exit hexit => List.all_eq_true.mp hends exit hexit⟩
  intro command deadline hmem
  have hlast : command = ⟨"-exec-interrupt", []⟩ ∧ deadline = 1000000 := by
    simpa [interruptedCommand, startup, Arrival.mi, Arrival.done] using hmem
  rw [hlast.1]

/-- A command in flight while the interrupt of a running target cannot be escalated, and another
command. -/
def abandonedCommand : List Arrival := startup ++
  [.mi (.notifyAsync none "thread-group-started"
      [("id", .const (utf8 "i1")), ("pid", .const (utf8 "42"))]),
    .mi (.execAsync none "running" []),
    .control (some (.interrupt ⟨"-exec-interrupt", []⟩ 1000000)), .done 20,
    .request (some (.command ⟨"-thread-info", []⟩ none 1000000)), .wake,
    .request (some (.command ⟨"-list-features", []⟩ none 1000000))]

/-- The failed escalation ends the execution of the first command without an answer, and the second
one is written. -/
theorem abandonedCommand_overlaps :
    ∃ write ∈ (World.after .deaf (.plain .performance) abandonedCommand).writes,
      write.name = "-list-features" ∧ write.token = 22 ∧ write.unanswered = [21] := by
  have hlast : (⟨22, "-list-features", [21]⟩ : Write) ∈
      (World.after .deaf (.plain .performance) abandonedCommand).writes := by decide +kernel
  exact ⟨_, hlast, rfl, rfl, rfl⟩

end GdbAi
