import GdbAi.Library.Json

/-!
# The text of a JSON value determines it

A compact text can be read in one way only.  Strings end at the first quote that is not escaped,
arrays and objects at their own bracket, and a number at the first character that no number has;
so the statement is proved for texts with something behind them, along the value.
-/

namespace Json

/-! ### Numbers -/

/-- A number that is followed by `rest` ends there. -/
def Terminated (rest : List Char) : Prop := ∀ c ∈ rest.head?, c.isNumeric = false

variable {c : Char}

lemma terminated_cons (h : c.isNumeric = false) (rest : List Char) : Terminated (c :: rest) := by
  intro d hd
  obtain rfl : c = d := by simpa using hd
  exact h

/-- Numeric texts that end are equal when they are equal with what follows. -/
lemma numeric_append_inj {u v x y : List Char} (hu : ∀ c ∈ u, c.isNumeric = true)
    (hv : ∀ c ∈ v, c.isNumeric = true) (hx : Terminated x) (hy : Terminated y)
    (h : u ++ x = v ++ y) : u = v ∧ x = y := by
  induction u generalizing v with
  | nil =>
    cases v with
    | nil => exact ⟨rfl, h⟩
    | cons d v =>
      have hterm := hx d (by rw [List.nil_append] at h; simp [h])
      rw [hv d List.mem_cons_self] at hterm
      cases hterm
  | cons c u ih =>
    cases v with
    | nil =>
      have hterm := hy c (by rw [List.nil_append] at h; simp [← h])
      rw [hu c List.mem_cons_self] at hterm
      cases hterm
    | cons d v =>
      obtain ⟨rfl, htail⟩ := List.cons.inj h
      obtain ⟨rfl, hrest⟩ := ih (fun c hc => hu c (List.mem_cons_of_mem _ hc))
        (fun c hc => hv c (List.mem_cons_of_mem _ hc)) htail
      exact ⟨rfl, hrest⟩

/-- Whether a value is a number. -/
def isNumber : Json → Bool
  | .unsigned _ | .negative _ | .decimal _ => true
  | _ => false

lemma isNumeric_of_isDigit (h : c.isDigit = true) : c.isNumeric = true := by
  simp [Char.isNumeric, h]

variable {a : Json}

/-- The text of a number is numeric and not empty. -/
lemma render_number (h : a.isNumber = true) :
    (∀ c ∈ a.render, c.isNumeric = true) ∧ a.render ≠ [] := by
  cases a with
  | unsigned value =>
    simp only [render]
    exact ⟨fun c hc => isNumeric_of_isDigit (Numerals.isDigit_of_mem hc),
      Numerals.toString_ne_nil value⟩
  | negative magnitude =>
    simp only [render]
    refine ⟨fun c hc => ?_, List.cons_ne_nil _ _⟩
    rcases List.mem_cons.mp hc with rfl | hc
    · decide
    · exact isNumeric_of_isDigit (Numerals.isDigit_of_mem hc)
  | decimal value =>
    simp only [render]
    obtain ⟨c, hc, _⟩ := value.marked
    exact ⟨value.numeric, List.ne_nil_of_mem hc⟩
  | null | bool _ | string _ | array _ | object _ => cases h

/-- The mark of a decimal is no digit, and no sign. -/
lemma not_marked_of_integer (h : c = '-' ∨ c.isDigit = true) : ¬ (c = '.' ∨ c = 'e' ∨ c = 'E') := by
  rintro (rfl | rfl | rfl) <;> simp at h

/-- The text of a decimal is not that of an integer. -/
lemma decimal_ne_integer {value : Decimal} {text : List Char}
    (htext : ∀ c ∈ text, c = '-' ∨ c.isDigit = true) : value.text.toList ≠ text := by
  rintro rfl
  obtain ⟨c, hc, hmark⟩ := value.marked
  exact not_marked_of_integer (htext c hc) hmark

lemma integer_unsigned {n : ℕ} : ∀ c ∈ (toString n).toList, c = '-' ∨ c.isDigit = true :=
  fun _ hc => .inr (Numerals.isDigit_of_mem hc)

lemma integer_negative {n : ℕ} : ∀ c ∈ '-' :: (toString n).toList, c = '-' ∨ c.isDigit = true := by
  intro c hc
  rcases List.mem_cons.mp hc with rfl | hc
  · exact .inl rfl
  · exact integer_unsigned c hc

/-- A numeral has no sign. -/
lemma unsigned_ne_negative (n m : ℕ) : (toString n).toList ≠ '-' :: (toString m).toList := by
  intro h
  have hsign : '-' ∈ (toString n).toList := h ▸ List.mem_cons_self
  exact absurd (Numerals.isDigit_of_mem hsign) (by decide)

/-- Numbers of the same text are equal. -/
lemma number_inj {a b : Json} (ha : a.isNumber = true) (hb : b.isNumber = true)
    (h : a.render = b.render) : a = b := by
  cases a with
  | unsigned n =>
    cases b with
    | unsigned m =>
      simp only [render] at h
      rw [Numerals.toString_injective (String.toList_injective h)]
    | negative m =>
      simp only [render] at h
      exact absurd h (unsigned_ne_negative _ _)
    | decimal value =>
      simp only [render] at h
      exact absurd h.symm (decimal_ne_integer integer_unsigned)
    | null | bool _ | string _ | array _ | object _ => cases hb
  | negative n =>
    cases b with
    | unsigned m =>
      simp only [render] at h
      exact absurd h.symm (unsigned_ne_negative _ _)
    | negative m =>
      simp only [render, List.cons.injEq, true_and] at h
      have hsame : n + 1 = m + 1 := Numerals.toString_injective (String.toList_injective h)
      rw [Nat.succ.inj hsame]
    | decimal value =>
      simp only [render] at h
      exact absurd h.symm (decimal_ne_integer integer_negative)
    | null | bool _ | string _ | array _ | object _ => cases hb
  | decimal value =>
    cases b with
    | unsigned m =>
      simp only [render] at h
      exact absurd h (decimal_ne_integer integer_unsigned)
    | negative m =>
      simp only [render] at h
      exact absurd h (decimal_ne_integer integer_negative)
    | decimal value' =>
      simp only [render] at h
      congr
      cases value
      cases value'
      simpa using String.toList_injective h
    | null | bool _ | string _ | array _ | object _ => cases hb
  | null | bool _ | string _ | array _ | object _ => cases ha

/-- The first character of a value that is no number. -/
def lead : Json → Char
  | .null => 'n'
  | .bool true => 't'
  | .bool false => 'f'
  | .string _ => '"'
  | .array _ => '['
  | .object _ => '{'
  | .unsigned _ | .negative _ | .decimal _ => '0'

lemma head?_render (h : a.isNumber = false) : a.render.head? = some a.lead := by
  cases a with
  | unsigned _ | negative _ | decimal _ => cases h
  | bool value => cases value <;> simp [render, lead]
  | null | string _ | array _ | object _ => simp [render, quote, lead]

lemma lead_not_numeric (h : a.isNumber = false) : a.lead.isNumeric = false := by
  cases a with
  | unsigned _ | negative _ | decimal _ => cases h
  | bool value => cases value <;> rfl
  | null | string _ | array _ | object _ => rfl

variable {x y : List Char}

/-- A number does not begin as another value does. -/
lemma number_ne_other {a b : Json} (ha : a.isNumber = true) (hb : b.isNumber = false) :
    a.render ++ x ≠ b.render ++ y := by
  intro h
  obtain ⟨hnumeric, hne⟩ := render_number ha
  obtain ⟨c, tail, hrender⟩ := List.exists_cons_of_ne_nil hne
  have hhead := congrArg List.head? h
  rw [hrender, List.cons_append, List.head?_cons, List.head?_append, head?_render hb,
    Option.some_or] at hhead
  have hc := hnumeric c (hrender ▸ List.mem_cons_self)
  rw [Option.some.inj hhead, lead_not_numeric hb] at hc
  cases hc

/-! ### Strings -/

/-- The character that a short escape stands for. -/
def shortEscape (c : Char) : Option Char :=
  if c = '"' then some '"'
  else if c = '\\' then some '\\'
  else if c = 'n' then some '\n'
  else if c = 'r' then some '\r'
  else if c = 't' then some '\t'
  else if c = 'b' then some (Char.ofNat 8)
  else if c = 'f' then some (Char.ofNat 12)
  else none

/-- A character stands for itself, has a short escape or is written by its number. -/
lemma escape_cases (c : Char) :
    (escape c = [c] ∧ c ≠ '"' ∧ c ≠ '\\') ∨
    (∃ k, escape c = ['\\', k] ∧ shortEscape k = some c) ∨
    (c.toNat < 32 ∧
      escape c = ['\\', 'u', '0', '0', hexDigit (c.toNat / 16), hexDigit (c.toNat % 16)]) := by
  have hofNat : Char.ofNat c.toNat = c := Char.ofNat_toNat c
  unfold escape
  split_ifs with h₁ h₂ h₃ h₄ h₅ h₆ h₇ h₈
  · exact .inr (.inl ⟨_, rfl, by rw [h₁]; decide⟩)
  · exact .inr (.inl ⟨_, rfl, by rw [h₂]; decide⟩)
  · exact .inr (.inl ⟨_, rfl, by rw [h₃]; decide⟩)
  · exact .inr (.inl ⟨_, rfl, by rw [h₄]; decide⟩)
  · exact .inr (.inl ⟨_, rfl, by rw [h₅]; decide⟩)
  · exact .inr (.inl ⟨_, rfl, by rw [← hofNat, h₆]; decide⟩)
  · exact .inr (.inl ⟨_, rfl, by rw [← hofNat, h₇]; decide⟩)
  · exact .inr (.inr ⟨h₈, rfl⟩)
  · exact .inl ⟨rfl, h₁, h₂⟩

lemma hexDigit_inj {n m : ℕ} (hn : n < 16) (hm : m < 16) (h : hexDigit n = hexDigit m) :
    n = m := by
  have hall : ∀ n < 16, ∀ m < 16, hexDigit n = hexDigit m → n = m := by decide
  exact hall n hn m hm h

/-- An escaped character can be read in one way. -/
lemma escape_append_inj {c d : Char} (h : escape c ++ x = escape d ++ y) : c = d ∧ x = y := by
  rcases escape_cases c with ⟨hc, hc₁, hc₂⟩ | ⟨k, hc, hk⟩ | ⟨hc₁, hc⟩ <;>
    rcases escape_cases d with ⟨hd, hd₁, hd₂⟩ | ⟨l, hd, hl⟩ | ⟨hd₁, hd⟩ <;>
    rw [hc, hd] at h <;> simp only [List.cons_append, List.nil_append, List.cons.injEq] at h
  · exact h
  · exact absurd h.1 hc₂
  · exact absurd h.1 hc₂
  · exact absurd h.1.symm hd₂
  · obtain ⟨-, rfl, hrest⟩ := h
    exact ⟨Option.some.inj (hk.symm.trans hl), hrest⟩
  · obtain ⟨-, rfl, -⟩ := h
    exact absurd hk (by simp [shortEscape])
  · exact absurd h.1.symm hd₂
  · obtain ⟨-, rfl, -⟩ := h
    exact absurd hl (by simp [shortEscape])
  · obtain ⟨-, -, -, -, hhigh, hlow, hrest⟩ := h
    have hdiv := hexDigit_inj (by omega) (by omega) hhigh
    have hmod := hexDigit_inj (by omega) (by omega) hlow
    have hnat : c.toNat = d.toNat := by omega
    refine ⟨?_, hrest⟩
    rw [← Char.ofNat_toNat c, ← Char.ofNat_toNat d, hnat]

/-- No escaped character begins with a quote. -/
lemma quote_ne_escape : '"' :: x ≠ escape c ++ y := by
  intro h
  rcases escape_cases c with ⟨hc, hc₁, -⟩ | ⟨k, hc, -⟩ | ⟨-, hc⟩ <;> rw [hc] at h
  · exact hc₁ (List.cons.inj h).1.symm
  · exact absurd (List.cons.inj h).1 (by decide)
  · exact absurd (List.cons.inj h).1 (by decide)

/-- The escaped characters of a string, up to its closing quote. -/
lemma escaped_append_inj {s t x y : List Char}
    (h : s.flatMap escape ++ '"' :: x = t.flatMap escape ++ '"' :: y) : s = t ∧ x = y := by
  induction s generalizing t with
  | nil =>
    cases t with
    | nil => exact ⟨rfl, (List.cons.inj h).2⟩
    | cons d t =>
      rw [List.flatMap_cons, List.append_assoc] at h
      exact absurd h quote_ne_escape
  | cons c s ih =>
    cases t with
    | nil =>
      rw [List.flatMap_cons, List.append_assoc] at h
      exact absurd h.symm quote_ne_escape
    | cons d t =>
      rw [List.flatMap_cons, List.flatMap_cons, List.append_assoc, List.append_assoc] at h
      obtain ⟨rfl, hrest⟩ := escape_append_inj h
      obtain ⟨rfl, hx⟩ := ih hrest
      exact ⟨rfl, hx⟩

/-- A string between its quotes can be read in one way. -/
lemma quote_append_inj {s t : String} (h : quote s ++ x = quote t ++ y) : s = t ∧ x = y := by
  simp only [quote, List.cons_append, List.append_assoc, List.nil_append, List.cons.injEq,
    true_and] at h
  obtain ⟨htext, hx⟩ := escaped_append_inj h
  exact ⟨String.toList_injective htext, hx⟩

/-! ### All values -/

lemma lead_ne_close (hc : c = ']' ∨ c = ',') :
    a.render ++ x ≠ c :: y := by
  intro h
  cases hnumber : a.isNumber with
  | true =>
    obtain ⟨hnumeric, hne⟩ := render_number hnumber
    obtain ⟨d, tail, hrender⟩ := List.exists_cons_of_ne_nil hne
    have hd := hnumeric d (hrender ▸ List.mem_cons_self)
    rw [hrender, List.cons_append] at h
    rw [(List.cons.inj h).1] at hd
    rcases hc with rfl | rfl <;> simp [Char.isNumeric] at hd
  | false =>
    have hhead := congrArg List.head? h
    rw [List.head?_append, head?_render hnumber, Option.some_or, List.head?_cons] at hhead
    have hlead := Option.some.inj hhead
    cases a with
    | unsigned _ | negative _ | decimal _ => cases hnumber
    | bool value => cases value <;> rcases hc with rfl | rfl <;> simp [lead] at hlead
    | null | string _ | array _ | object _ => rcases hc with rfl | rfl <;> simp [lead] at hlead

mutual

/-- A value followed by something can be read in one way. -/
theorem render_append_inj (a b : Json) {x y : List Char} (hx : Terminated x) (hy : Terminated y)
    (h : a.render ++ x = b.render ++ y) : a = b ∧ x = y := by
  cases hna : a.isNumber with
  | true =>
    cases hnb : b.isNumber with
    | true =>
      obtain ⟨htext, hrest⟩ :=
        numeric_append_inj (render_number hna).1 (render_number hnb).1 hx hy h
      exact ⟨number_inj hna hnb htext, hrest⟩
    | false => exact absurd h (number_ne_other hna hnb)
  | false =>
    cases hnb : b.isNumber with
    | true => exact absurd h.symm (number_ne_other hnb hna)
    | false =>
      have hhead := congrArg List.head? h
      rw [List.head?_append, List.head?_append, head?_render hna, head?_render hnb,
        Option.some_or, Option.some_or] at hhead
      have hlead := Option.some.inj hhead
      match a, b with
      | .null, .null => exact ⟨rfl, by simpa [render] using h⟩
      | .bool true, .bool true => exact ⟨rfl, by simpa [render] using h⟩
      | .bool false, .bool false => exact ⟨rfl, by simpa [render] using h⟩
      | .string s, .string t =>
        obtain ⟨rfl, hrest⟩ := quote_append_inj (by simpa only [render] using h)
        exact ⟨rfl, hrest⟩
      | .array items, .array items' =>
        simp only [render, List.cons_append, List.append_assoc, List.nil_append,
          List.cons.injEq, true_and] at h
        obtain ⟨rfl, hrest⟩ := renderItems_append_inj items items' h
        exact ⟨rfl, hrest⟩
      | .object fields, .object fields' =>
        simp only [render, List.cons_append, List.append_assoc, List.nil_append,
          List.cons.injEq, true_and] at h
        obtain ⟨rfl, hrest⟩ := renderFields_append_inj fields fields' h
        exact ⟨rfl, hrest⟩

/-- The items of an array, up to its bracket. -/
theorem renderItems_append_inj (as bs : List Json) {x y : List Char}
    (h : renderItems as ++ ']' :: x = renderItems bs ++ ']' :: y) : as = bs ∧ x = y := by
  have hclose : ∀ rest, Terminated (']' :: rest) := terminated_cons (by decide)
  have hcomma : ∀ rest, Terminated (',' :: rest) := terminated_cons (by decide)
  match as, bs with
  | [], [] => exact ⟨rfl, by simpa [renderItems] using h⟩
  | [], [b] =>
    simp only [renderItems, List.nil_append] at h
    exact absurd h.symm (lead_ne_close (.inl rfl))
  | [], b :: b' :: bs =>
    simp only [renderItems, List.nil_append, List.append_assoc] at h
    exact absurd h.symm (lead_ne_close (.inl rfl))
  | [a], [] =>
    simp only [renderItems, List.nil_append] at h
    exact absurd h (lead_ne_close (.inl rfl))
  | a :: a' :: as, [] =>
    simp only [renderItems, List.nil_append, List.append_assoc] at h
    exact absurd h (lead_ne_close (.inl rfl))
  | [a], [b] =>
    simp only [renderItems] at h
    obtain ⟨rfl, hrest⟩ := render_append_inj a b (hclose x) (hclose y) h
    exact ⟨rfl, (List.cons.inj hrest).2⟩
  | [a], b :: b' :: bs =>
    simp only [renderItems, List.append_assoc, List.cons_append] at h
    obtain ⟨-, hrest⟩ := render_append_inj a b (hclose _) (hcomma _) h
    exact absurd (List.cons.inj hrest).1 (by decide)
  | a :: a' :: as, [b] =>
    simp only [renderItems, List.append_assoc, List.cons_append] at h
    obtain ⟨-, hrest⟩ := render_append_inj a b (hcomma _) (hclose _) h
    exact absurd (List.cons.inj hrest).1 (by decide)
  | a :: a' :: as, b :: b' :: bs =>
    simp only [renderItems, List.append_assoc, List.cons_append] at h
    obtain ⟨rfl, hrest⟩ := render_append_inj a b (hcomma _) (hcomma _) h
    obtain ⟨hitems, hx⟩ := renderItems_append_inj (a' :: as) (b' :: bs) (List.cons.inj hrest).2
    exact ⟨congrArg _ hitems, hx⟩

/-- The fields of an object, up to its brace. -/
theorem renderFields_append_inj (as bs : List (String × Json)) {x y : List Char}
    (h : renderFields as ++ '}' :: x = renderFields bs ++ '}' :: y) : as = bs ∧ x = y := by
  have hclose : ∀ rest, Terminated ('}' :: rest) := terminated_cons (by decide)
  have hcomma : ∀ rest, Terminated (',' :: rest) := terminated_cons (by decide)
  have hquote : ∀ (name : String) (rest rest' : List Char), quote name ++ rest ≠ '}' :: rest' := by
    intro name rest rest' hname
    rw [quote, List.cons_append] at hname
    exact absurd (List.cons.inj hname).1 (by decide)
  match as, bs with
  | [], [] => exact ⟨rfl, by simpa [renderFields] using h⟩
  | [], [b] =>
    simp only [renderFields, List.nil_append, List.append_assoc] at h
    exact absurd h.symm (hquote _ _ _)
  | [], b :: b' :: bs =>
    simp only [renderFields, List.nil_append, List.append_assoc] at h
    exact absurd h.symm (hquote _ _ _)
  | [a], [] =>
    simp only [renderFields, List.nil_append, List.append_assoc] at h
    exact absurd h (hquote _ _ _)
  | a :: a' :: as, [] =>
    simp only [renderFields, List.nil_append, List.append_assoc] at h
    exact absurd h (hquote _ _ _)
  | [(name, a)], [(name', b)] =>
    simp only [renderFields, List.append_assoc, List.cons_append] at h
    obtain ⟨rfl, hvalue⟩ := quote_append_inj h
    obtain ⟨rfl, hrest⟩ := render_append_inj a b (hclose x) (hclose y) (List.cons.inj hvalue).2
    exact ⟨rfl, (List.cons.inj hrest).2⟩
  | [(name, a)], (name', b) :: b' :: bs =>
    simp only [renderFields, List.append_assoc, List.cons_append] at h
    obtain ⟨-, hvalue⟩ := quote_append_inj h
    obtain ⟨-, hrest⟩ := render_append_inj a b (hclose _) (hcomma _) (List.cons.inj hvalue).2
    exact absurd (List.cons.inj hrest).1 (by decide)
  | (name, a) :: a' :: as, [(name', b)] =>
    simp only [renderFields, List.append_assoc, List.cons_append] at h
    obtain ⟨-, hvalue⟩ := quote_append_inj h
    obtain ⟨-, hrest⟩ := render_append_inj a b (hcomma _) (hclose _) (List.cons.inj hvalue).2
    exact absurd (List.cons.inj hrest).1 (by decide)
  | (name, a) :: a' :: as, (name', b) :: b' :: bs =>
    simp only [renderFields, List.append_assoc, List.cons_append] at h
    obtain ⟨rfl, hvalue⟩ := quote_append_inj h
    obtain ⟨rfl, hrest⟩ := render_append_inj a b (hcomma _) (hcomma _) (List.cons.inj hvalue).2
    obtain ⟨hfields, hx⟩ := renderFields_append_inj (a' :: as) (b' :: bs) (List.cons.inj hrest).2
    exact ⟨congrArg _ hfields, hx⟩

end

/-- Values of the same text are equal. -/
theorem render_injective : Function.Injective render := by
  intro a b h
  have hnil : Terminated [] := by
    intro c hc
    cases hc
  exact (render_append_inj a b hnil hnil (by rw [h])).1

end Json
