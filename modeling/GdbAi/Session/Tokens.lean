import GdbAi.Session.Traversal

/-!
# Tokens are never reused

An answer of GDB is matched to its command by the token alone.  The worker draws the token from a
counter before it writes, and nothing turns the counter back.
-/

namespace GdbAi

open Procedure

/-- The tokens written so far increase, and the next one is above all of them. -/
def Fresh (w : World) : Prop :=
  (w.writes.map Write.token).Pairwise (· < ·) ∧ ∀ write ∈ w.writes, write.token < w.nextToken

namespace Fresh

variable {w w' : World}

lemma of_le (h : Fresh w) (hwrites : w'.writes = w.writes) (hnext : w.nextToken ≤ w'.nextToken) :
    Fresh w' := by
  rw [Fresh, hwrites]
  exact ⟨h.1, fun write hmem => (h.2 write hmem).trans_le hnext⟩

/-- The line takes the next token, and the counter is past it. -/
lemma written (h : Fresh w) (name : String)
    (hkeeps : Keeps { w with nextToken := w.nextToken + 1 } w') :
    Fresh (w'.written w.nextToken name) := by
  have hlt : w.nextToken < w'.nextToken := hkeeps.nextToken
  have hwrites : w'.writes = w.writes := hkeeps.writes
  simp only [Fresh, World.written, hwrites, List.map_append, List.pairwise_append,
    List.forall_mem_append, List.map_singleton, List.forall_mem_singleton, List.forall_mem_map]
  exact ⟨⟨h.1, List.pairwise_singleton _ _, h.2⟩, fun write hmem => (h.2 write hmem).trans hlt, hlt⟩

/-- Recording writes no line and draws no token. -/
lemma keeps (w w' : World) (hkeeps : Keeps w w') (h : Fresh w) : Fresh w' :=
  h.of_le hkeeps.writes hkeeps.nextToken

lemma events (env : Environment) : EventInvariant env Fresh Fresh := .of_keeps (fun _ h => h) keeps

lemma frame (h : Fresh w) (hframe : Frame w w') : Fresh w' :=
  h.of_le (congrArg Trace.writes hframe.trace) hframe.nextToken

lemma discipline (env : Environment) :
    Discipline env (fun _ => True) (fun _ => Fresh) Fresh Fresh where
  events _ := (events env).recorder
  overSafe h := h
  frame := frame
  still h hstill := h.frame hstill.toFrame
  admitted _ _ := trivial
  permutes h _ := h
  begins h _ hkeeps _ _ := h.written _ hkeeps
  answers h _ := h
  timesOut h _ := h
  delays h := h
  leaves _ _ h := .inl h
  drops _ _ h _ := h
  closes h := (events env).recorder.close
    (fun _ h => meets_finishJournal (fun _ => h) fun _ _ => h) (fun _ _ h => h) _ h
  leavesClosed _ _ h := .inl h
  starts _ h := h
  releases h := h
  releasesOver h := h
  claims h _ := h
  tail h := (events env).recorder.tail (h.elim id id)

end Fresh

/-- In every session the tokens of the lines written to GDB increase from line to line, so no two
lines carry the same token. -/
theorem tokens_never_reused (env : Environment) (config : Configuration)
    (arrivals : List Arrival) :
    ((World.after env config arrivals).writes.map Write.token).Pairwise (· < ·) := by
  have hinitial : Fresh (World.initial config arrivals) := ⟨.nil, List.forall_mem_nil _⟩
  exact ((Fresh.discipline env).session ((Fresh.events env).startup rfl Fresh.frame
    (EventInvariant.preserves_journalEvent_of_keeps Fresh.keeps)) config hinitial).1

end GdbAi
