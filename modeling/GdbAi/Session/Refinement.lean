import GdbAi.Reducer.Registries
import GdbAi.Reducer.Revision
import GdbAi.Session.Traversal

/-!
# Sessions refine the reducer and the journal

The worker of a session changes the state it owns in two ways only: an event is applied at a number
above the last one, or the state fails closed.  Readers see an earlier state of the same run.  The
journal changes by its own calls only.  So what every event and every failure keeps holds of all
states of all sessions, and what every call keeps holds of their journals.
-/

namespace GdbAi

open Procedure Runs

namespace SessionState

variable {s s' : SessionState} {move : Option (ℕ × DomainEvent)}

/-- One move of the state that a worker owns: an event is applied, or the state fails closed. -/
def Moves (s : SessionState) (move : Option (ℕ × DomainEvent)) (s' : SessionState) : Prop :=
  match move with
  | some journaled => s.Applies journaled s'
  | none => s' = s.failClosed.1

/-- A failure reduces like the exit of GDB, up to the revision. -/
lemma Moves.failed (h : s.Moves none s') : ∃ revision ≥ s.revision,
    s' = { (s.reduce (.backendExited none)).1 with revision := revision } := by
  rw [Moves, failClosed] at h
  subst h
  dsimp only
  split
  · exact ⟨_, Nat.le_succ _, rfl⟩
  · exact ⟨_, Nat.le_refl _, rfl⟩

lemma Moves.revision_le (h : s.Moves move s') : s.revision ≤ s'.revision := by
  match move with
  | some _ =>
    obtain ⟨changed, happly⟩ := h
    rw [applyEvent_revision happly]
    exact Nat.le_add_right _ _
  | none =>
    obtain ⟨revision, hle, rfl⟩ := h.failed
    exact hle

/-- The invariants of the reducer survive a failure too. -/
lemma Moves.sound (hs : s.Coherent ∧ s.Filed) (h : s.Moves move s') : s'.Coherent ∧ s'.Filed := by
  match move with
  | some journaled => exact ⟨hs.1.applies h, hs.2.applies h⟩
  | none =>
    obtain ⟨revision, -, rfl⟩ := h.failed
    exact ⟨{ hs.1.reduce (.backendExited none) with }, { hs.2.reduce (.backendExited none) with }⟩

end SessionState

open SessionState (Moves)

/-- The state that readers see and the state that the worker owns lie on one run of moves, in this
order, and the journal is reached by calls. -/
structure Refines (env : Environment) (config : Configuration) (w : World) : Prop where
  journal : ∃ calls, Run (Journal.Performs env.length)
    (.create config.durability config.journalBytes) calls w.journal
  published : ∃ moves, Run Moves (.creating config.sessionId) moves w.state.published
  live : ∃ moves, Run Moves w.state.published moves w.live

namespace Refines

variable {env : Environment} {config : Configuration} {w w' : World}

/-- Only the journal and the state count. -/
lemma of_same (h : Refines env config w) (hjournal : w'.journal = w.journal)
    (hstate : w'.state = w.state) : Refines env config w' := by
  obtain ⟨hcalls, hpublished, hlive⟩ := h
  rw [World.live] at hlive
  rw [← hstate] at hpublished hlive
  exact ⟨hjournal ▸ hcalls, hpublished, hlive⟩

/-- The worker calls the journal. -/
lemma calls (h : Refines env config w) (call : JournalCall) :
    Refines env config (w.journaled (w.journal.perform env.length call)) := by
  obtain ⟨calls, hcalls⟩ := h.journal
  exact ⟨⟨_, hcalls.snoc (e := call) rfl⟩, h.published, h.live⟩

/-- Readers catch up with the worker. -/
lemma publish (h : Refines env config w) : Refines env config w.publish := by
  obtain ⟨seen, hseen⟩ := h.published
  obtain ⟨moves, hmoves⟩ := h.live
  refine ⟨h.journal, ⟨_, hseen.append hmoves⟩, [], ?_⟩
  rw [w.live_publish]
  exact .nil w.live

/-- A move is published at once unless a state is staged. -/
lemma put {state : SessionState} {move : Option (ℕ × DomainEvent)} (h : Refines env config w)
    (hmove : w.live.Moves move state) :
    Refines env config { w with state := w.state.put state } := by
  obtain ⟨seen, hseen⟩ := h.published
  obtain ⟨moves, hmoves⟩ := h.live
  rw [World.live] at hmove hmoves
  rcases hstate : w.state with ⟨published, _ | staged⟩ <;> rw [hstate] at hseen hmove hmoves
  · exact ⟨h.journal, ⟨_, hseen.snoc hmove⟩, [], .nil state⟩
  · exact ⟨h.journal, ⟨_, hseen⟩, _, hmoves.snoc hmove⟩

/-- A failure is a move. -/
lemma failed (h : Refines env config w) : Refines env config w.failClosed := by
  have hmove : w.live.Moves none w.live.failClosed.1 := rfl
  by_cases hchanged : w.state.failClosed.2 = true
  · exact (h.put hmove).publish.of_same rfl (if_pos hchanged)
  · exact (h.put hmove).of_same rfl (if_neg hchanged)

/-- An event is journaled by one call and reduced by one move. -/
lemma journalEvent (event : DomainEvent) :
    Preserves (Refines env config) env (Refines env config) (GdbAi.journalEvent event) := by
  intro w h
  have hcall := h.calls (.append (.normalizedEvent event) (env.journal w.question))
  refine meets_journalEvent (fun _ _ => hcall.of_same rfl rfl) (fun _ _ _ _ => hcall) ?_
  intro seq state changed _ happly
  have hmove : w.live.Moves (some (seq, event)) state := ⟨changed, happly⟩
  exact (hcall.put hmove).of_same rfl rfl

lemma append (payload : Payload) :
    Preserves (Refines env config) env (Refines env config) (appendJournal payload) := fun w h =>
  meets_appendJournal (fun _ _ => h.calls (.append payload (env.journal w.question)))
    fun _ _ => h.calls (.append payload (env.journal w.question))

/-- The recording of events refines. -/
lemma events (env : Environment) (config : Configuration) :
    EventInvariant env (Refines env config) (Refines env config) where
  safe _ h := h
  frame _ _ hframe h := h.of_same hframe.journal hframe.state
  append payload _ := append payload
  event event w h := journalEvent event (w.noteEvent event) (h.of_same rfl rfl)
  state := by
    refine .reading fun state => Preserves.bind (preserves_update fun w h => ?_)
      fun _ => append _
    split
    · exact h.of_same rfl rfl
    · exact h
  storeFails _ _ h := h.of_same rfl rfl
  publish _ h := h.publish
  flush w h := meets_flushJournal (fun _ => h.calls (.flush _)) fun _ _ => h.calls (.flush _)
  failed _ h := h.failed

/-- The worker refines. -/
lemma discipline (env : Environment) (config : Configuration) :
    Discipline env (fun _ => True) (fun _ => Refines env config) (Refines env config)
      (Refines env config) := by
  refine (events env config).discipline ?_ (fun _ h => h.of_same rfl rfl)
    (fun h => h.of_same rfl rfl) (fun h _ => h.of_same rfl rfl) ?_
  · exact fun h hjournal hstate _ _ _ => h.of_same hjournal hstate
  · exact fun w h => meets_finishJournal (fun _ => h.calls (.finish _)) fun _ _ =>
      h.calls (.finish _)

lemma startup (env : Environment) (config : Configuration) :
    Startup env (fun _ => Refines env config) (Refines env config) (Refines env config) :=
  (events env config).startup rfl (fun h hframe => h.of_same hframe.journal hframe.state)
    journalEvent

/-- Every session refines the reducer and the journal. -/
lemma after (env : Environment) (config : Configuration) (arrivals : List Arrival) :
    Refines env config (World.after env config arrivals) := by
  refine (discipline env config).session (startup env config) config
    ⟨⟨[], .nil _⟩, ⟨[], .nil _⟩, [], ?_⟩
  unfold World.initial World.live LiveState.borrow
  dsimp only
  split <;> exact .nil _

end Refines

/-- In every session, whatever arrives and whatever I/O fails: the journal is reached by calls of
the journal; and events at increasing numbers, and failures, lead from the new session to the state
that readers see and from there to the state that the worker owns. -/
theorem session_refines_reducer (env : Environment) (config : Configuration)
    (arrivals : List Arrival) :
    (∃ calls, Run (Journal.Performs env.length) (.create config.durability config.journalBytes)
        calls (World.after env config arrivals).journal) ∧
      ∃ seen unseen,
        Run Moves (.creating config.sessionId) seen
          (World.after env config arrivals).state.published ∧
        Run Moves (World.after env config arrivals).state.published unseen
          (World.after env config arrivals).live := by
  obtain ⟨hjournal, ⟨seen, hseen⟩, unseen, hunseen⟩ := Refines.after env config arrivals
  exact ⟨hjournal, seen, unseen, hseen, hunseen⟩

/-- In every session the state that readers see and the state that the worker owns are coherent and
filed, and readers see no revision that the worker has not reached. -/
theorem session_states_sound (env : Environment) (config : Configuration)
    (arrivals : List Arrival) :
    (∀ state ∈ [(World.after env config arrivals).state.published,
        (World.after env config arrivals).live], state.Coherent ∧ state.Filed) ∧
      (World.after env config arrivals).state.published.revision ≤
        (World.after env config arrivals).live.revision := by
  obtain ⟨-, ⟨_, hseen⟩, _, hunseen⟩ := Refines.after env config arrivals
  have hpublished := hseen.invariant (P := fun s => s.Coherent ∧ s.Filed)
    ⟨SessionState.coherent_creating _, SessionState.filed_creating _⟩ fun _ _ _ => Moves.sound
  have hlive := hunseen.invariant hpublished fun _ _ _ => Moves.sound
  refine ⟨List.forall_mem_cons.mpr ⟨hpublished, List.forall_mem_singleton.mpr hlive⟩, ?_⟩
  generalize (World.after env config arrivals).state.published = published at hunseen
  exact hunseen.invariant (P := fun s => published.revision ≤ s.revision) le_rfl
    fun _ _ _ hs hmove => hs.trans hmove.revision_le

end GdbAi
