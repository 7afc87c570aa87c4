import Mathlib.Data.List.Forall2
import Mathlib.Data.List.Basic
import Mathlib.Tactic.Common

/-!
# Deterministic parsers over a cursor

A parser reads a list of tokens through a `Cursor`, the number of tokens consumed so far
together with those that remain, and either fails or returns a value and the cursor behind
it.  The second half relates a parser to a grammar: `Sound p R` says that whatever `p`
consumes derives its value in the relation `R`, and `Consumes p w a` says that `p` reads
exactly `w`, whatever follows, and returns `a`.  Both are closed under the separated lists
that `sepBy` reads.
-/

namespace Parsing

/-- A position in a token list: how many tokens precede it, and those that follow. -/
structure Cursor (τ : Type) where
  offset : ℕ
  rest : List τ
  deriving DecidableEq, Repr

/-- The cursor behind the first `n` remaining tokens. -/
def Cursor.skip {τ : Type} (c : Cursor τ) (n : ℕ) : Cursor τ :=
  ⟨c.offset + n, c.rest.drop n⟩

/-- A parser over tokens `τ` that fails with `ε` or returns an `α` and the next cursor. -/
def Parser (τ ε α : Type) := Cursor τ → Except ε (α × Cursor τ)

namespace Parser

variable {τ ε α β : Type}

instance : Monad (Parser τ ε) where
  pure a := fun c => .ok (a, c)
  bind p f := fun c =>
    match p c with
    | .ok (a, c') => f a c'
    | .error e => .error e

/-- A parser that fails without reading. -/
def fail (e : Cursor τ → ε) : Parser τ ε α := fun c => .error (e c)

/-- The next token, without consuming it. -/
def peek : Parser τ ε (Option τ) := fun c => .ok (c.rest.head?, c)

/-- The remaining tokens, without consuming them. -/
def remaining : Parser τ ε (List τ) := fun c => .ok (c.rest, c)

/-- Step over `n` tokens. -/
def advance (n : ℕ) : Parser τ ε Unit := fun c => .ok ((), c.skip n)

@[simp] lemma pure_apply (a : α) (c : Cursor τ) : (pure a : Parser τ ε α) c = .ok (a, c) := rfl

@[simp] lemma fail_apply (e : Cursor τ → ε) (c : Cursor τ) :
    (fail e : Parser τ ε α) c = .error (e c) := rfl

@[simp] lemma advance_apply (n : ℕ) (c : Cursor τ) :
    (advance n : Parser τ ε Unit) c = .ok ((), c.skip n) := rfl

variable {p : Parser τ ε α} {f : α → Parser τ ε β} {a : α}

/-- A sequence runs its second half behind its first. -/
lemma bind_of_ok {c c' : Cursor τ} (h : p c = .ok (a, c')) : (p >>= f) c = f a c' := by
  change (match p c with | .ok (a, c') => f a c' | .error e => .error e) = f a c'
  rw [h]

/-- A sequence succeeds exactly when both halves do. -/
lemma bind_eq_ok {c : Cursor τ} {x : β × Cursor τ} :
    (p >>= f) c = .ok x ↔ ∃ a c', p c = .ok (a, c') ∧ f a c' = .ok x := by
  change (match p c with | .ok (a, c') => f a c' | .error e => .error e) = .ok x ↔ _
  cases hp : p c with
  | error e => simp
  | ok y =>
    obtain ⟨a, c'⟩ := y
    simp

@[simp] lemma bind_peek (f : Option τ → Parser τ ε β) (c : Cursor τ) :
    (peek >>= f) c = f c.rest.head? c := rfl

@[simp] lemma bind_remaining (f : List τ → Parser τ ε β) (c : Cursor τ) :
    (remaining >>= f) c = f c.rest c := rfl

@[simp] lemma bind_advance (n : ℕ) (f : Unit → Parser τ ε β) (c : Cursor τ) :
    (advance n >>= f) c = f () (c.skip n) := rfl

/-- One or more `p`, each but the last followed by the separator, read with at most `fuel`
elements. -/
def sepByFuel [DecidableEq τ] (sep : τ) (stuck : Cursor τ → ε) (p : Parser τ ε α) :
    ℕ → Parser τ ε (List α)
  | 0 => fail stuck
  | fuel + 1 => do
    let a ← p
    if (← peek) = some sep then
      advance 1
      let as ← sepByFuel sep stuck p fuel
      pure (a :: as)
    else
      pure [a]

/-- One or more `p` with a separator between them.  Each separator consumes a token, so the
remaining tokens bound the number of elements. -/
def sepBy [DecidableEq τ] (sep : τ) (stuck : Cursor τ → ε) (p : Parser τ ε α) :
    Parser τ ε (List α) :=
  fun c => sepByFuel sep stuck p (c.rest.length + 1) c

/-- `p` reads exactly the tokens `w` and returns `a`, at any offset and whatever follows. -/
def Consumes (p : Parser τ ε α) (w : List τ) (a : α) : Prop :=
  ∀ (o : ℕ) (rest : List τ), p ⟨o, w ++ rest⟩ = .ok (a, ⟨o + w.length, rest⟩)

/-- Whatever `p` consumes derives its result in `R`. -/
def Sound (p : Parser τ ε α) (R : List τ → α → Prop) : Prop :=
  ∀ (c c' : Cursor τ) (a : α), p c = .ok (a, c') →
    ∃ w, c.rest = w ++ c'.rest ∧ c'.offset = c.offset + w.length ∧ R w a

variable {R : List τ → α → Prop}

/-- What a sequence consumes is what its halves consume, one behind the other. -/
lemma Sound.bind {S : α → List τ → β → Prop} (hp : Sound p R) (hf : ∀ a, Sound (f a) (S a)) :
    Sound (p >>= f) fun w b => ∃ w₁ w₂ a, w = w₁ ++ w₂ ∧ R w₁ a ∧ S a w₂ b := by
  intro c c' b h
  obtain ⟨a, c₁, ha, hb⟩ := bind_eq_ok.mp h
  obtain ⟨w₁, hw₁, ho₁, hR⟩ := hp c c₁ a ha
  obtain ⟨w₂, hw₂, ho₂, hS⟩ := hf a c₁ c' b hb
  refine ⟨w₁ ++ w₂, ?_, ?_, w₁, w₂, a, rfl, hR, hS⟩
  · rw [hw₁, hw₂, List.append_assoc]
  · rw [ho₂, ho₁, List.length_append, Nat.add_assoc]

/-- A sequence reads the words of its halves, one behind the other. -/
lemma Consumes.bind {w₁ w₂ : List τ} {b : β} (hp : Consumes p w₁ a) (hf : Consumes (f a) w₂ b) :
    Consumes (p >>= f) (w₁ ++ w₂) b := by
  intro o rest
  rw [List.append_assoc, bind_of_ok (hp o _), hf, List.length_append, Nat.add_assoc]

/-- Soundness for a smaller relation. -/
lemma Sound.mono {R S : List τ → α → Prop} (hp : Sound p R) (h : ∀ w a, R w a → S w a) :
    Sound p S := by
  intro c c' a ha
  obtain ⟨w, hw, ho, hR⟩ := hp c c' a ha
  exact ⟨w, hw, ho, h w a hR⟩

/-- Returning a value reads nothing. -/
lemma sound_pure (a : α) : Sound (pure a : Parser τ ε α) fun w b => w = [] ∧ b = a := by
  intro c c' b h
  obtain ⟨rfl, rfl⟩ := Prod.mk.inj (Except.ok.inj h)
  exact ⟨[], rfl, rfl, rfl, rfl⟩

/-- Returning a value reads nothing. -/
lemma consumes_pure (a : α) : Consumes (pure a : Parser τ ε α) [] a :=
  fun _ _ => rfl

/-- A condition on the elements of a list, taken out of its word by word derivation. -/
lemma forall₂_and_right {P : α → Prop} {ws : List (List τ)} {as : List α} :
    List.Forall₂ (fun w a => R w a ∧ P a) ws as ↔ List.Forall₂ R ws as ∧ ∀ a ∈ as, P a := by
  induction as generalizing ws with
  | nil => simp
  | cons a as ih =>
    cases ws with
    | nil => simp
    | cons w ws =>
      rw [List.forall₂_cons, List.forall₂_cons, ih, List.forall_mem_cons]
      exact and_and_and_comm

/-! ### Separated lists -/

/-- The words of a separated list: one word of `R` for each element, the separator between
them. -/
def SepBy (sep : τ) (R : List τ → α → Prop) (w : List τ) (as : List α) : Prop :=
  as ≠ [] ∧ ∃ ws, w = [sep].intercalate ws ∧ List.Forall₂ R ws as

lemma SepBy.singleton {sep : τ} {w : List τ} (h : R w a) : SepBy sep R w [a] :=
  ⟨by simp, [w], by simp, .cons h .nil⟩

lemma SepBy.cons {sep : τ} {R : List τ → α → Prop} {w w' : List τ} {a : α} {as : List α}
    (h : R w a) (hs : SepBy sep R w' as) : SepBy sep R (w ++ sep :: w') (a :: as) := by
  obtain ⟨hne, ws, rfl, hws⟩ := hs
  refine ⟨by simp, w :: ws, ?_, .cons h hws⟩
  cases hws with
  | nil => exact absurd rfl hne
  | cons _ _ => simp [List.intercalate]

section SepBy

variable [DecidableEq τ] {sep : τ} {stuck : Cursor τ → ε} {p : Parser τ ε α}

/-- A separated list read with any fuel derives in the grammar of its elements. -/
lemma Sound.sepByFuel {R : List τ → α → Prop} (h : Sound p R) (fuel : ℕ) :
    Sound (sepByFuel sep stuck p fuel) (SepBy sep R) := by
  induction fuel with
  | zero => intro c c' as hc; simp [Parser.sepByFuel] at hc
  | succ fuel ih =>
    intro c c' as hc
    rw [Parser.sepByFuel, bind_eq_ok] at hc
    obtain ⟨a, c₁, ha, hc⟩ := hc
    obtain ⟨w, hw, ho, hR⟩ := h c c₁ a ha
    rw [bind_peek] at hc
    split at hc
    · rename_i hsep
      rw [bind_advance, bind_eq_ok] at hc
      obtain ⟨as', c₂, has, hc⟩ := hc
      obtain ⟨rfl, rfl⟩ : a :: as' = as ∧ c₂ = c' := by simpa using hc
      obtain ⟨w', hw', ho', hR'⟩ := ih _ _ _ has
      have hrest : c₁.rest = sep :: (w' ++ c₂.rest) := by
        obtain ⟨ys, hys⟩ := List.head?_eq_some_iff.mp hsep
        simp only [Cursor.skip, hys, List.drop_succ_cons, List.drop_zero] at hw'
        rw [hys, hw']
      refine ⟨w ++ sep :: w', ?_, ?_, SepBy.cons hR hR'⟩
      · rw [hw, hrest]; simp
      · simp only [ho', Cursor.skip, ho, List.length_append, List.length_cons]; omega
    · obtain ⟨rfl, rfl⟩ : [a] = as ∧ c₁ = c' := by simpa using hc
      exact ⟨w, hw, ho, SepBy.singleton hR⟩

/-- A separated list derives in the grammar of its elements. -/
lemma Sound.sepBy {R : List τ → α → Prop} (h : Sound p R) :
    Sound (sepBy sep stuck p) (SepBy sep R) :=
  fun c => h.sepByFuel (c.rest.length + 1) c

/-- With fuel for every element, a separated list is read up to the first token behind it
that is no separator. -/
lemma sepByFuel_of_forall₂ {ws : List (List τ)} {as : List α}
    (h : List.Forall₂ (Consumes p) ws as) (hne : as ≠ []) {rest : List τ}
    (hrest : rest.head? ≠ some sep) {fuel : ℕ} (hfuel : as.length ≤ fuel) (o : ℕ) :
    sepByFuel sep stuck p fuel ⟨o, [sep].intercalate ws ++ rest⟩ =
      .ok (as, ⟨o + ([sep].intercalate ws).length, rest⟩) := by
  induction h generalizing fuel o with
  | nil => exact absurd rfl hne
  | @cons w a ws as hw hws ih =>
    obtain ⟨fuel, rfl⟩ : ∃ n, fuel = n + 1 := ⟨fuel - 1, by simp at hfuel; omega⟩
    cases hws with
    | nil =>
      simp only [List.intercalate, List.intersperse_singleton, List.flatten_cons,
        List.flatten_nil, List.append_nil]
      rw [Parser.sepByFuel, bind_of_ok (hw o rest), bind_peek, if_neg hrest, pure_apply]
    | @cons w' a' ws as hw' hws =>
      have hsplit : [sep].intercalate (w :: w' :: ws) =
          w ++ sep :: [sep].intercalate (w' :: ws) := by simp [List.intercalate]
      rw [hsplit, List.append_assoc, List.cons_append, Parser.sepByFuel,
        bind_of_ok (hw o _), bind_peek, if_pos (by simp), bind_advance]
      have hshort : (a' :: as).length ≤ fuel := by simpa using hfuel
      have htail := ih (by simp) hshort (o + w.length + 1)
      simp only [Cursor.skip, List.drop_succ_cons, List.drop_zero]
      rw [bind_of_ok htail, pure_apply]
      simp only [List.length_append, List.length_cons]
      congr 3
      omega

/-- A separated list between two tokens that are no separator is read whole. -/
lemma sepBy_of_forall₂ {ws : List (List τ)} {as : List α}
    (h : List.Forall₂ (Consumes p) ws as) (hne : as ≠ []) {rest : List τ}
    (hrest : rest.head? ≠ some sep) (o : ℕ) :
    sepBy sep stuck p ⟨o, [sep].intercalate ws ++ rest⟩ =
      .ok (as, ⟨o + ([sep].intercalate ws).length, rest⟩) := by
  refine sepByFuel_of_forall₂ h hne hrest ?_ o
  have hlen : ws.length ≤ ([sep].intercalate ws).length + 1 := by
    clear h hrest
    induction ws with
    | nil => simp
    | cons w ws ih =>
      cases ws with
      | nil => simp
      | cons w' ws =>
        simp only [List.intercalate, List.intersperse_cons_cons, List.flatten_cons,
          List.length_append, List.length_cons, List.length_nil] at ih ⊢
        omega
  simp only [List.length_append, ← h.length_eq]
  omega

end SepBy

end Parser

end Parsing
