import Mathlib.Logic.Relation
import Mathlib.Tactic.Common

/-!
# Runs of a transition relation

A run performs labels one after another.  The invariant rule and its two refinements, for
runs whose steps all satisfy a condition and for what a run can only increase, carry every
statement about whole runs back to a statement about one step.
-/

namespace Runs

variable {σ ε : Type}

/-- `Run step s es s'`: performing the labels `es` in order leads from `s` to `s'`. -/
inductive Run (step : σ → ε → σ → Prop) : σ → List ε → σ → Prop
  | nil (s : σ) : Run step s [] s
  | cons {s₁ s₂ s₃ : σ} {e : ε} {es : List ε} (head : step s₁ e s₂) (tail : Run step s₂ es s₃) :
      Run step s₁ (e :: es) s₃

variable {step step' : σ → ε → σ → Prop}

variable {es : List ε}

/-- One more step at the end. -/
lemma Run.snoc {s₁ s₂ s₃ : σ} {e : ε} (h : Run step s₁ es s₂) (hlast : step s₂ e s₃) :
    Run step s₁ (es ++ [e]) s₃ := by
  induction h with
  | nil s => exact .cons hlast (.nil _)
  | cons head _ ih => exact .cons head (ih hlast)

/-- Two runs, one behind the other. -/
lemma Run.append {s₁ s₂ s₃ : σ} {later : List ε} (h : Run step s₁ es s₂)
    (hlater : Run step s₂ later s₃) : Run step s₁ (es ++ later) s₃ := by
  induction h with
  | nil s => exact hlater
  | cons head _ ih => exact .cons head (ih hlater)

variable {s s' : σ}

/-- What holds at the start and is kept by every step of the run holds at the end. -/
lemma Run.invariant_of_mem {P : σ → Prop} (h : Run step s es s') (hs : P s)
    (hstep : ∀ s, ∀ e ∈ es, ∀ s', P s → step s e s' → P s') : P s' := by
  induction h with
  | nil s => exact hs
  | cons head _ ih =>
    exact ih (hstep _ _ List.mem_cons_self _ hs head) fun s e he =>
      hstep s e (List.mem_cons_of_mem _ he)

/-- What holds at the start and is kept by every step holds at the end. -/
lemma Run.invariant {P : σ → Prop} (h : Run step s es s') (hs : P s)
    (hstep : ∀ s e s', P s → step s e s' → P s') : P s' :=
  h.invariant_of_mem hs fun s e _ s' => hstep s e s'

/-- What does not hold at the start of a run and holds at its end becomes true in one step. -/
lemma Run.exists_change {P : σ → Prop} (h : Run step s es s') (hs : ¬ P s) (hs' : P s') :
    ∃ es₁ e es₂ s₁ s₂, es = es₁ ++ e :: es₂ ∧ Run step s es₁ s₁ ∧ step s₁ e s₂ ∧
      Run step s₂ es₂ s' ∧ ¬ P s₁ ∧ P s₂ := by
  induction h with
  | nil s => exact absurd hs' hs
  | @cons s₁ s₂ s₃ e es head tail ih =>
    by_cases hnext : P s₂
    · exact ⟨[], e, es, s₁, s₂, rfl, .nil s₁, head, tail, hs, hnext⟩
    · obtain ⟨es₁, e', es₂, t₁, t₂, rfl, hrun, hstep, hrest, ht₁, ht₂⟩ := ih hnext hs'
      exact ⟨e :: es₁, e', es₂, t₁, t₂, rfl, .cons head hrun, hstep, hrest, ht₁, ht₂⟩

/-- A run is one of any weaker step relation. -/
lemma Run.mono (h : Run step s es s') (hstep : ∀ s e s', step s e s' → step' s e s') :
    Run step' s es s' := by
  induction h with
  | nil s => exact .nil s
  | cons head _ ih => exact .cons (hstep _ _ _ head) ih

/-- A fold over a partial function is a run. -/
lemma Run.of_foldlM {f : σ → ε → Option σ} (h : es.foldlM f s = some s') :
    Run (fun s e s' => f s e = some s') s es s' := by
  induction es generalizing s with
  | nil =>
    obtain rfl := Option.some.inj h
    exact .nil s
  | cons e es ih =>
    rw [List.foldlM_cons] at h
    obtain ⟨next, hnext, hrest⟩ := Option.bind_eq_some_iff.mp h
    exact .cons hnext (ih hrest)

end Runs

/-- A computation that succeeds does so step by step. -/
lemma GdbAi.except_bind_ok {ε α β : Type} {x : Except ε α} {f : α → Except ε β} {b : β}
    (h : (x >>= f) = .ok b) : ∃ a, x = .ok a ∧ f a = .ok b := by
  cases x with
  | error error => cases h
  | ok a => exact ⟨a, rfl, h⟩
