import Mathlib.Tactic.Common

/-!
# Procedures over a state

A procedure reads an environment, changes a state and returns a value, fails with an error, or is
still pending: it waits for an input that has not come, or its loop has not ended within the given
fuel.  An error keeps the changes made so far.  `Meets` says what a procedure guarantees in each of
the three cases; its rules follow the constructors of procedures.
-/

/-- How a procedure ends. -/
inductive Outcome (ε α : Type) where
  | value (a : α)
  | error (e : ε)
  | pending

/-- A procedure with environment `ρ`, state `σ` and errors `ε`. -/
def Procedure (ρ σ ε α : Type) : Type := ρ → σ → Outcome ε α × σ

namespace Procedure

variable {ρ σ ε α β : Type}

/-- The value alone. -/
def ret (a : α) : Procedure ρ σ ε α := fun _ s => (.value a, s)

/-- One procedure behind another. -/
def andThen (m : Procedure ρ σ ε α) (f : α → Procedure ρ σ ε β) : Procedure ρ σ ε β :=
  fun env s =>
    match m env s with
    | (.value a, s') => f a env s'
    | (.error e, s') => (.error e, s')
    | (.pending, s') => (.pending, s')

instance : Monad (Procedure ρ σ ε) where
  pure := ret
  bind := andThen

/-- A value read off the environment and the state. -/
def reads (f : ρ → σ → α) : Procedure ρ σ ε α := fun env s => (.value (f env s), s)

/-- A change of the state. -/
def update (f : σ → σ) : Procedure ρ σ ε Unit := fun _ s => (.value (), f s)

/-- Failure. -/
def fail (e : ε) : Procedure ρ σ ε α := fun _ s => (.error e, s)

/-- Waiting for what never comes. -/
def wait : Procedure ρ σ ε α := fun _ s => (.pending, s)

/-- The error of a procedure as a value. -/
def attempt (m : Procedure ρ σ ε α) : Procedure ρ σ ε (Except ε α) := fun env s =>
  match m env s with
  | (.value a, s') => (.value (.ok a), s')
  | (.error e, s') => (.value (.error e), s')
  | (.pending, s') => (.pending, s')

/-- A result as a procedure. -/
def ofExcept : Except ε α → Procedure ρ σ ε α
  | .ok a => ret a
  | .error e => fail e

/-- A procedure run on a condition only. -/
def onlyIf (condition : Bool) (m : Procedure ρ σ ε Unit) : Procedure ρ σ ε Unit :=
  if condition then m else ret ()

/-- A procedure for each element in turn. -/
def forEach : List α → (α → Procedure ρ σ ε Unit) → Procedure ρ σ ε Unit
  | [], _ => ret ()
  | a :: as, f => andThen (f a) fun _ => forEach as f

/-- A loop with `fuel` turns; a turn yields the next loop state or the result. -/
def loop : ℕ → (β → Procedure ρ σ ε (β ⊕ α)) → β → Procedure ρ σ ε α
  | 0, _, _ => wait
  | fuel + 1, body, b => andThen (body b) fun
    | .inl b' => loop fuel body b'
    | .inr a => ret a

/-! ### Running a procedure -/

section Run

variable {env : ρ} {s s' : σ} {m : Procedure ρ σ ε α} {f : α → Procedure ρ σ ε β}

/-- What follows a value runs on it. -/
lemma run_bind_value {a : α} (h : m env s = (.value a, s')) : (m >>= f) env s = f a env s' := by
  change andThen m f env s = f a env s'
  rw [andThen, h]

/-- Nothing follows an error. -/
lemma run_bind_error {e : ε} (h : m env s = (.error e, s')) :
    (m >>= f) env s = (.error e, s') := by
  change andThen m f env s = (.error e, s')
  rw [andThen, h]

end Run

/-! ### What a procedure guarantees -/

section Meets

variable (P : σ → Prop) (env : ρ)

/-- Run from `s`, the procedure returns a value with `V`, fails with `E`, or is pending in a
state with `P`. -/
def Meets (m : Procedure ρ σ ε α) (V : α → σ → Prop) (E : ε → σ → Prop) (s : σ) : Prop :=
  match m env s with
  | (.value a, s') => V a s'
  | (.error e, s') => E e s'
  | (.pending, s') => P s'

variable {P env} {m : Procedure ρ σ ε α} {f : α → Procedure ρ σ ε β} {V V' : α → σ → Prop}
  {W : β → σ → Prop} {E E' : ε → σ → Prop} {s : σ}

/-- Less is asked of the outcomes. -/
lemma Meets.mono (h : Meets P env m V E s) (hv : ∀ a s', V a s' → V' a s')
    (he : ∀ e s', E e s' → E' e s') : Meets P env m V' E' s := by
  unfold Meets at h ⊢
  split
  · rename_i hrun
    rw [hrun] at h
    exact hv _ _ h
  · rename_i hrun
    rw [hrun] at h
    exact he _ _ h
  · rename_i hrun
    rw [hrun] at h
    exact h

/-- Less is asked of the pending states. -/
lemma Meets.weaken {P' : σ → Prop} (h : Meets P env m V E s) (hp : ∀ s', P s' → P' s') :
    Meets P' env m V E s := by
  unfold Meets at h ⊢
  rcases hrun : m env s with ⟨a | e | _, s'⟩ <;> rw [hrun] at h
  · exact h
  · exact h
  · exact hp s' h

/-- What follows starts with the value of the first procedure. -/
lemma Meets.bind (h : Meets P env m V E s) (hv : ∀ a s', V a s' → Meets P env (f a) W E' s')
    (he : ∀ e s', E e s' → E' e s') : Meets P env (m >>= f) W E' s := by
  change Meets P env (andThen m f) W E' s
  unfold Meets at h
  rcases hrun : m env s with ⟨a | e | _, s'⟩
  · rw [hrun] at h
    have hnext := hv a s' h
    unfold Meets at hnext ⊢
    rw [andThen, hrun]
    exact hnext
  · rw [hrun] at h
    unfold Meets
    rw [andThen, hrun]
    exact he e s' h
  · rw [hrun] at h
    unfold Meets
    rw [andThen, hrun]
    exact h

/-- An error of the first procedure is passed on. -/
lemma Meets.seq (h : Meets P env m V E s) (hv : ∀ a s', V a s' → Meets P env (f a) W E s') :
    Meets P env (m >>= f) W E s :=
  h.bind hv fun _ _ he => he

/-- An attempt ends with either outcome as its value. -/
lemma Meets.attempt {T : Except ε α → σ → Prop} (h : Meets P env m V E s)
    (hv : ∀ a s', V a s' → T (.ok a) s') (he : ∀ e s', E e s' → T (.error e) s') :
    Meets P env (attempt m) T E' s := by
  unfold Meets at h ⊢
  rcases hrun : m env s with ⟨a | e | _, s'⟩ <;> rw [hrun] at h <;>
    simp only [Procedure.attempt, hrun]
  · exact hv a s' h
  · exact he e s' h
  · exact h

/-- Two guarantees together. -/
lemma Meets.and {P' : σ → Prop} (h : Meets P env m V E s) (h' : Meets P' env m V' E' s) :
    Meets (fun s => P s ∧ P' s) env m (fun a s => V a s ∧ V' a s) (fun e s => E e s ∧ E' e s) s := by
  unfold Meets at h h' ⊢
  rcases hrun : m env s with ⟨a | e | _, s'⟩ <;> rw [hrun] at h h' <;> exact ⟨h, h'⟩

/-- What a procedure guarantees it guarantees of its own outcome. -/
lemma Meets.outcome (h : Meets P env m V E s) :
    Meets P env m (fun a s' => V a s' ∧ m env s = (.value a, s'))
      (fun e s' => E e s' ∧ m env s = (.error e, s')) s := by
  unfold Meets at h ⊢
  rcases hrun : m env s with ⟨a | e | _, s'⟩ <;> rw [hrun] at h
  · exact ⟨h, rfl⟩
  · exact ⟨h, rfl⟩
  · exact h

/-- The state a procedure ends in, however it ends. -/
lemma Meets.state {Q : σ → Prop} (h : Meets Q env m (fun _ => Q) (fun _ => Q) s) :
    Q (m env s).2 := by
  unfold Meets at h
  rcases hrun : m env s with ⟨a | e | _, s'⟩ <;> rw [hrun] at h <;> exact h

/-- A value leaves the state. -/
lemma meets_pure {a : α} (h : V a s) : Meets P env (pure a : Procedure ρ σ ε α) V E s := h

/-- So does what is read. -/
lemma meets_reads {f : ρ → σ → α} (h : V (f env s) s) :
    Meets P env (reads f : Procedure ρ σ ε α) V E s := h

/-- An update ends in the changed state. -/
lemma meets_update {f : σ → σ} {V : Unit → σ → Prop} (h : V () (f s)) :
    Meets P env (update f : Procedure ρ σ ε Unit) V E s := h

/-- A value that is read is passed on in the same state. -/
lemma meets_reads_bind {g : ρ → σ → α} (h : Meets P env (f (g env s)) W E s) :
    Meets P env (reads g >>= f) W E s := h

/-- What follows a change of the state starts in the changed state. -/
lemma meets_update_bind {g : σ → σ} {k : Unit → Procedure ρ σ ε β}
    (h : Meets P env (k ()) W E (g s)) : Meets P env (update g >>= k) W E s := h

/-- What follows an attempt starts with either outcome. -/
lemma Meets.attempt_bind {k : Except ε α → Procedure ρ σ ε β} (h : Meets P env m V E s)
    (hv : ∀ a s', V a s' → Meets P env (k (.ok a)) W E' s')
    (he : ∀ e s', E e s' → Meets P env (k (.error e)) W E' s') :
    Meets P env (Procedure.attempt m >>= k) W E' s := by
  refine Meets.seq (V := fun r s' => Meets P env (k r) W E' s') (h.attempt hv he) ?_
  exact fun _ _ hk => hk

/-- Both outcomes of an attempt may be treated alike. -/
lemma Meets.attempt_either {k : Except ε α → Procedure ρ σ ε β} {I : σ → Prop}
    (h : Meets P env m (fun _ => I) (fun _ => I) s)
    (hk : ∀ r s', I s' → Meets P env (k r) W E' s') :
    Meets P env (Procedure.attempt m >>= k) W E' s :=
  h.attempt_bind (fun _ => hk _) fun _ => hk _

/-- A failure leaves the state. -/
lemma meets_fail {e : ε} (h : E e s) : Meets P env (fail e : Procedure ρ σ ε α) V E s := h

/-- So does waiting. -/
lemma meets_wait (h : P s) : Meets P env (wait : Procedure ρ σ ε α) V E s := h

/-- A result is a value or a failure. -/
lemma meets_ofExcept {result : Except ε α} (hv : ∀ a, result = .ok a → V a s)
    (he : ∀ e, result = .error e → E e s) :
    Meets P env (ofExcept result : Procedure ρ σ ε α) V E s := by
  cases result with
  | ok a => exact hv a rfl
  | error e => exact he e rfl

/-- What follows a result starts with its value. -/
lemma meets_ofExcept_bind {result : Except ε α} (hv : ∀ a, result = .ok a → Meets P env (f a) W E s)
    (he : ∀ e, result = .error e → E e s) : Meets P env (ofExcept result >>= f) W E s := by
  cases result with
  | ok a => exact hv a rfl
  | error e => exact he e rfl

/-- A procedure on a condition is run or left out. -/
lemma Meets.onlyIf {condition : Bool} {m : Procedure ρ σ ε Unit} {V : Unit → σ → Prop}
    (hm : condition = true → Meets P env m V E s) (h : condition = false → V () s) :
    Meets P env (onlyIf condition m) V E s := by
  cases condition with
  | true => exact hm rfl
  | false => exact h rfl

/-- An invariant of every turn holds behind the whole list. -/
lemma meets_forEach {f : α → Procedure ρ σ ε Unit} {I : σ → Prop}
    (hstep : ∀ a s, I s → Meets P env (f a) (fun _ => I) E s) (as : List α) (h : I s) :
    Meets P env (forEach as f) (fun _ => I) E s := by
  induction as generalizing s with
  | nil => exact meets_pure h
  | cons a as ih => exact (hstep a s h).seq fun _ s' hs' => ih hs'

/-- An invariant of the loop state, kept by every turn that goes on. -/
lemma meets_loop {body : β → Procedure ρ σ ε (β ⊕ α)} {I : β → σ → Prop}
    (hstep : ∀ b s, I b s →
      Meets P env (body b) (fun | .inl b' => I b' | .inr a => V a) E s)
    (hpending : ∀ b s, I b s → P s) (fuel : ℕ) {b : β} (h : I b s) :
    Meets P env (loop fuel body b) V E s := by
  induction fuel generalizing b s with
  | zero => exact meets_wait (hpending b s h)
  | succ fuel ih =>
    refine (hstep b s h).seq fun next s' hs' => ?_
    cases next with
    | inl b' => exact ih hs'
    | inr a => exact meets_pure hs'

-- From here on a guarantee follows from these rules; only `unfold` still runs the program.
attribute [irreducible] Meets

end Meets

/-! ### Invariants of a procedure -/

/-- Started in a state with `I`, the procedure ends in one, whether it succeeds or fails. -/
def Preserves (P : σ → Prop) (env : ρ) (I : σ → Prop) (m : Procedure ρ σ ε α) : Prop :=
  ∀ s, I s → Meets P env m (fun _ => I) (fun _ => I) s

section Preserves

variable {P I : σ → Prop} {env : ρ} {m : Procedure ρ σ ε α} {f : α → Procedure ρ σ ε β}

/-- Procedures that keep an invariant keep it one behind the other. -/
lemma Preserves.bind (hm : Preserves P env I m) (hf : ∀ a, Preserves P env I (f a)) :
    Preserves P env I (m >>= f) :=
  fun s hs => (hm s hs).seq hf

/-- A value is read first. -/
lemma Preserves.reading {g : ρ → σ → α} (hf : ∀ a, Preserves P env I (f a)) :
    Preserves P env I (reads g >>= f) :=
  fun s hs => meets_reads_bind (hf (g env s) s hs)

/-- An attempt keeps what the procedure keeps. -/
lemma Preserves.attempt (hm : Preserves P env I m) : Preserves P env I (attempt m) :=
  fun s hs => (hm s hs).attempt (fun _ _ h => h) fun _ _ h => h

/-- Two invariants together, the second one whatever the pending states are. -/
lemma Preserves.and {P' J : σ → Prop} (hm : Preserves P env I m) (hm' : Preserves P' env J m) :
    Preserves P env (fun s => I s ∧ J s) m :=
  fun s hs => ((hm s hs.1).and (hm' s hs.2)).weaken fun _ h => h.1

/-- A value keeps every invariant. -/
lemma preserves_pure (a : α) : Preserves P env I (pure a : Procedure ρ σ ε α) :=
  fun _ hs => meets_pure hs

/-- So does what is read. -/
lemma preserves_reads (f : ρ → σ → α) : Preserves P env I (reads f : Procedure ρ σ ε α) :=
  fun _ hs => meets_reads hs

/-- An update keeps what the change of the state keeps. -/
lemma preserves_update {f : σ → σ} (hf : ∀ s, I s → I (f s)) :
    Preserves P env I (update f : Procedure ρ σ ε Unit) := fun s hs => meets_update (hf s hs)

/-- A procedure on a condition keeps what it keeps without it. -/
lemma Preserves.onlyIf {m : Procedure ρ σ ε Unit} (condition : Bool) (hm : Preserves P env I m) :
    Preserves P env I (onlyIf condition m) :=
  fun s hs => Meets.onlyIf (fun _ => hm s hs) fun _ => hs

/-- A failure keeps every invariant. -/
lemma preserves_fail (e : ε) : Preserves P env I (fail e : Procedure ρ σ ε α) :=
  fun _ hs => meets_fail hs

/-- Waiting asks for a pending state. -/
lemma preserves_wait (h : ∀ s, I s → P s) : Preserves P env I (wait : Procedure ρ σ ε α) :=
  fun s hs => meets_wait (h s hs)

/-- A result keeps every invariant. -/
lemma preserves_ofExcept (result : Except ε α) :
    Preserves P env I (ofExcept result : Procedure ρ σ ε α) :=
  fun _ hs => meets_ofExcept (fun _ _ => hs) fun _ _ => hs

/-- A result is taken first. -/
lemma Preserves.taking {result : Except ε α} (hf : ∀ a, Preserves P env I (f a)) :
    Preserves P env I (ofExcept result >>= f) :=
  (preserves_ofExcept result).bind hf

end Preserves

end Procedure
