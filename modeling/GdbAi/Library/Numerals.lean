import Mathlib

/-!
# Decimal numerals in names

Names that are joined from a numeral and other parts by a separator.  A numeral holds no
separator, so a name that starts with one, or ends with one, determines the number and the rest.
-/

namespace Numerals

/-- What stands before the first separator, and what stands behind it. -/
lemma split_first {α : Type} {c : α} {x x' y y' : List α} (hx : c ∉ x) (hx' : c ∉ x')
    (h : x ++ c :: y = x' ++ c :: y') : x = x' ∧ y = y' := by
  induction x generalizing x' with
  | nil =>
    cases x' with
    | nil => exact ⟨rfl, (List.cons.inj h).2⟩
    | cons a x' =>
      have ha : c = a := (List.cons.inj h).1
      exact absurd (ha ▸ List.mem_cons_self) hx'
  | cons a x ih =>
    cases x' with
    | nil =>
      have ha : a = c := (List.cons.inj h).1
      exact absurd (ha ▸ List.mem_cons_self) hx
    | cons a' x' =>
      obtain ⟨rfl, htail⟩ := List.cons.inj h
      obtain ⟨rfl, hy⟩ := ih (fun hmem => hx (List.mem_cons_of_mem _ hmem))
        (fun hmem => hx' (List.mem_cons_of_mem _ hmem)) htail
      exact ⟨rfl, hy⟩

/-- What stands before the last separator, and what stands behind it. -/
lemma split_last {α : Type} {c : α} {x x' y y' : List α} (hy : c ∉ y) (hy' : c ∉ y')
    (h : x ++ c :: y = x' ++ c :: y') : x = x' ∧ y = y' := by
  have hreverse := congrArg List.reverse h
  simp only [List.reverse_append, List.reverse_cons, List.append_assoc, List.singleton_append]
    at hreverse
  obtain ⟨hright, hleft⟩ := split_first (by simpa using hy) (by simpa using hy') hreverse
  exact ⟨List.reverse_injective hleft, List.reverse_injective hright⟩

/-- A numeral holds digits only. -/
lemma isDigit_of_mem {n : ℕ} {c : Char} (h : c ∈ (toString n).toList) : c.isDigit = true := by
  rw [Nat.toString_eq_repr, Nat.toList_repr] at h
  exact Nat.isDigit_of_mem_toDigits (by decide) (by decide) h

lemma toString_ne_nil (n : ℕ) : (toString n).toList ≠ [] := by
  rw [Nat.toString_eq_repr, Nat.toList_repr]
  exact Nat.toDigits_ne_nil

lemma separator_notMem (n : ℕ) : '_' ∉ (toString n).toList := by
  intro h
  have hdigit := isDigit_of_mem h
  exact absurd hdigit (by decide)

lemma toString_injective : Function.Injective fun n : ℕ => toString n := by
  intro n m h
  exact Nat.repr_inj.mp h

/-- Further digits make a number no smaller. -/
lemma le_ofDigitChars (digits : List Char) (n : ℕ) : n ≤ Nat.ofDigitChars 10 digits n := by
  induction digits generalizing n with
  | nil => exact le_rfl
  | cons c digits ih =>
    rw [Nat.ofDigitChars_cons]
    exact le_trans (by omega) (ih _)

/-- A numeral that another one starts with, up to the separator, is no larger. -/
lemma le_of_starts {n m : ℕ} {rest post : List Char}
    (h : (toString m).toList ++ post = (toString n).toList ++ '_' :: rest) : m ≤ n := by
  have hvalue : ∀ k : ℕ, Nat.ofDigitChars 10 (toString k).toList 0 = k := by
    intro k
    rw [Nat.toString_eq_repr, Nat.toList_repr]
    exact Nat.ofDigitChars_toDigits (by decide) (by decide)
  rcases List.append_eq_append_iff.mp h with ⟨digits, hn, -⟩ | ⟨digits, hm, hrest⟩
  · calc m ≤ Nat.ofDigitChars 10 digits m := le_ofDigitChars digits m
      _ = Nat.ofDigitChars 10 (toString n).toList 0 := by
        rw [hn, Nat.ofDigitChars_append, hvalue]
      _ = n := hvalue n
  · cases digits with
    | nil =>
      rw [List.append_nil] at hm
      exact (toString_injective (String.toList_injective hm)).le
    | cons c digits =>
      obtain rfl : '_' = c := (List.cons.inj hrest).1
      exact absurd (hm ▸ List.mem_append_right _ List.mem_cons_self) (separator_notMem m)

/-- A numeral in front determines the number and the rest. -/
lemma leading {lead a b : String} {n m : ℕ}
    (h : lead ++ toString n ++ "_" ++ a = lead ++ toString m ++ "_" ++ b) : n = m ∧ a = b := by
  have hlist := congrArg String.toList h
  simp only [String.toList_append, List.append_assoc, List.append_cancel_left_eq] at hlist
  obtain ⟨hnumeral, hrest⟩ := split_first (separator_notMem n) (separator_notMem m) hlist
  exact ⟨toString_injective (String.toList_injective hnumeral), String.toList_injective hrest⟩

/-- A numeral at the end determines the number and the rest. -/
lemma trailing {a b : String} {n m : ℕ}
    (h : a ++ "_" ++ toString n = b ++ "_" ++ toString m) : a = b ∧ n = m := by
  have hlist := congrArg String.toList h
  simp only [String.toList_append, List.append_assoc] at hlist
  obtain ⟨hrest, hnumeral⟩ := split_last (separator_notMem n) (separator_notMem m) hlist
  exact ⟨String.toList_injective hrest, toString_injective (String.toList_injective hnumeral)⟩

end Numerals
