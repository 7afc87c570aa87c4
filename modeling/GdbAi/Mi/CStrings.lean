import GdbAi.Mi.Grammar
import Mathlib.Data.List.TakeWhile

/-!
# C strings: the scanner and the grammar

`MiParser.cString` copies plain spans under a moving budget and decodes escapes between them.
`sound_cString` and `consumes_cString` show that it reads exactly the quoted C strings of the
grammar that decode to at most `maxDecodedStringBytes` bytes.
-/

namespace GdbAi

open Parsing MiParser Grammar
open Parsing.Parser (bind_advance bind_eq_ok bind_of_ok bind_peek bind_remaining pure_apply)

/-! ### The basic steps -/

variable {byte : UInt8}

/-- A cursor whose head is known. -/
lemma exists_of_head {c : Cursor UInt8} (h : c.rest.head? = some byte) :
    ∃ o rest, c = ⟨o, byte :: rest⟩ := by
  obtain ⟨rest, hrest⟩ := List.head?_eq_some_iff.mp h
  exact ⟨c.offset, rest, by rw [← hrest]⟩

variable {c c' : Cursor UInt8}

/-- `take` succeeds on the byte at the head. -/
lemma take_eq_ok {expected : String} :
    take expected c = .ok (byte, c') ↔ ∃ o rest, c = ⟨o, byte :: rest⟩ ∧ c' = ⟨o + 1, rest⟩ := by
  unfold take
  rw [bind_peek]
  constructor
  · intro h
    cases hhead : c.rest.head? with
    | none => simp [hhead, unexpected] at h
    | some b =>
      obtain ⟨o, rest, rfl⟩ := exists_of_head hhead
      obtain ⟨rfl, rfl⟩ : b = byte ∧ Cursor.mk (o + 1) rest = c' := by
        simpa [hhead, Cursor.skip] using h
      exact ⟨o, rest, rfl, rfl⟩
  · rintro ⟨o, rest, rfl, rfl⟩
    simp [Cursor.skip]

/-- `expect` succeeds on its byte alone. -/
lemma expect_eq_ok {expected : UInt8} {description : String} {u : Unit} :
    expect expected description c = .ok (u, c') ↔
      ∃ o rest, c = ⟨o, expected :: rest⟩ ∧ c' = ⟨o + 1, rest⟩ := by
  unfold expect
  rw [bind_peek]
  constructor
  · intro h
    split at h
    · rename_i hhead
      obtain ⟨o, rest, rfl⟩ := exists_of_head hhead
      exact ⟨o, rest, rfl, by simpa [Cursor.skip, eq_comm] using h⟩
    · simp [unexpected] at h
  · rintro ⟨o, rest, rfl, rfl⟩
    simp [Cursor.skip]

variable {limits : MiLimits}

/-- `checkDepth` succeeds below the limit and reads nothing. -/
lemma checkDepth_eq_ok {depth : ℕ} {u : Unit} :
    checkDepth limits depth c = .ok (u, c') ↔ depth < limits.maxDepth ∧ c' = c := by
  unfold checkDepth
  split
  · rename_i h
    simp only [Parser.fail_apply, reduceCtorEq, false_iff, not_and]
    omega
  · rename_i h
    simp [not_le.mp h, eq_comm]

/-! ### Escapes -/

variable {β : Type}

/-- Wrapping `u8` arithmetic computes a radix value modulo 256. -/
lemma foldl_wrapping (radix : ℕ) (digit : β → UInt8) (digits : List β) (n : ℕ) :
    digits.foldl (fun value d => value * UInt8.ofNat radix + digit d) (UInt8.ofNat n) =
      UInt8.ofNat ((digits.map fun d => (digit d).toNat).foldl (fun value d => value * radix + d) n) := by
  induction digits generalizing n with
  | nil => rfl
  | cons d digits ih =>
    rw [List.foldl_cons, List.map_cons, List.foldl_cons, ← ih]
    congr 1
    simp

/-- The parser's value of a hexadecimal escape is the grammar's. -/
lemma hexEscape_value (digits : Bytes) :
    digits.foldl (fun value digit => value * 16 + (hexDigit digit).getD 0) 0 =
      UInt8.ofNat (radixValue 16 (digits.map hexValue)) :=
  foldl_wrapping 16 (fun digit => (hexDigit digit).getD 0) digits 0

/-- The parser's value of an octal escape is the grammar's. -/
lemma octalEscape_value (first : UInt8) (digits : Bytes) :
    digits.foldl (fun value next => value * 8 + (next - 48)) (first - 48) =
      UInt8.ofNat (radixValue 8 ((first :: digits).map octalValue)) := by
  have h := foldl_wrapping 8 (fun next : UInt8 => next - 48) digits (first - 48).toNat
  rw [UInt8.ofNat_toNat] at h
  rw [radixValue, List.map_cons, List.foldl_cons, Nat.zero_mul, Nat.zero_add]
  exact h

/-- A span that cannot be extended is the maximal one. -/
lemma takeWhile_append_of_maximal {p : β → Bool} {l t : List β} (hl : ∀ b ∈ l, p b = true)
    (ht : ∀ b, t.head? = some b → p b = false) : (l ++ t).takeWhile p = l := by
  rw [List.takeWhile_append_of_pos hl]
  cases t with
  | nil => simp
  | cons b t => rw [List.takeWhile_cons_of_neg (by simp [ht b rfl]), List.append_nil]

/-- The head behind a maximal span does not belong to it. -/
lemma not_of_head_dropWhile {p : β → Bool} {l : List β} {b : β} (h : (l.dropWhile p).head? = some b) :
    p b = false := by
  have hnot := List.head?_dropWhile_not p l
  rwa [h] at hnot

/-- Dropping a maximal span leaves what is behind it. -/
lemma drop_takeWhile (p : UInt8 → Bool) (l : Bytes) :
    l.drop (l.takeWhile p).length = l.dropWhile p := by
  have h := List.takeWhile_append_dropWhile (p := p) (l := l)
  nth_rewrite 2 [← h]
  exact List.drop_left

/-- What `escape` reads is an escape of the grammar before the text that remains. -/
lemma escape_sound {decoded d : Bytes} (h : escape decoded c = .ok (d, c')) :
    ∃ e byte, Escape e byte c'.rest ∧ c.rest = e ++ c'.rest ∧
      c'.offset = c.offset + e.length ∧ d = decoded ++ [byte] := by
  unfold MiParser.escape at h
  rw [bind_eq_ok] at h
  obtain ⟨escaped, c₁, htake, h⟩ := h
  obtain ⟨o, rest, rfl, rfl⟩ := take_eq_ok.mp htake
  split at h
  · -- a hexadecimal escape takes the maximal span of digits
    rename_i hx
    subst hx
    rw [bind_remaining] at h
    split at h
    · simp [unexpected] at h
    · rename_i hne
      rw [bind_advance, pure_apply, hexEscape_value] at h
      obtain ⟨rfl, rfl⟩ := Prod.mk.inj (Except.ok.inj h)
      simp only [Cursor.skip, drop_takeWhile]
      refine ⟨_, _, .hex ?_ ?_ ?_, ?_, ?_, rfl⟩
      · simpa only [List.isEmpty_iff] using hne
      · intro byte hbyte
        exact List.mem_takeWhile_imp (p := fun byte => (hexDigit byte).isSome) hbyte
      · intro byte hbyte
        simpa using not_of_head_dropWhile hbyte
      · rw [List.cons_append, List.takeWhile_append_dropWhile]
      · simp only [List.length_cons]
        omega
  · split at h
    · -- an octal escape takes at most two digits behind its first one
      rename_i hx hoctal
      rw [bind_remaining, bind_advance, pure_apply, octalEscape_value] at h
      obtain ⟨rfl, rfl⟩ := Prod.mk.inj (Except.ok.inj h)
      obtain ⟨t, ht⟩ : (rest.takeWhile isOctalDigit).take 2 <+: rest :=
        (List.take_prefix _ _).trans (List.takeWhile_prefix _)
      have hdrop : rest.drop ((rest.takeWhile isOctalDigit).take 2).length = t := by
        nth_rewrite 2 [← ht]
        exact List.drop_left
      simp only [Cursor.skip, hdrop]
      refine ⟨_, _, .octal (by simp) ?_ ?_ ?_, ?_, ?_, rfl⟩
      · simp only [List.length_cons, List.length_take]
        omega
      · intro byte hbyte
        rcases List.mem_cons.mp hbyte with rfl | hbyte
        · exact hoctal
        · exact List.mem_takeWhile_imp (List.mem_of_mem_take hbyte)
      · rcases le_or_gt 2 (rest.takeWhile isOctalDigit).length with hlong | hshort
        · left
          simp only [List.length_cons, List.length_take]
          omega
        · right
          intro byte hbyte
          have hall : (rest.takeWhile isOctalDigit).take 2 = rest.takeWhile isOctalDigit :=
            List.take_of_length_le (by omega)
          rw [hall, drop_takeWhile] at hdrop
          rw [← hdrop] at hbyte
          exact not_of_head_dropWhile hbyte
      · rw [List.cons_append, ht]
      · simp only [List.length_cons]
        omega
    · rename_i hx hoctal
      rw [pure_apply] at h
      obtain ⟨rfl, rfl⟩ := Prod.mk.inj (Except.ok.inj h)
      exact ⟨[escaped], _, .simple hx (by simpa using hoctal), rfl, rfl, rfl⟩

/-- An octal escape is not read as a hexadecimal one. -/
lemma ne_of_isOctalDigit (h : isOctalDigit byte) : byte ≠ 120 := by
  rintro rfl
  exact absurd h (by decide)

/-- `escape` reads every escape of the grammar, given the text behind it. -/
lemma escape_complete {e t : Bytes} (h : Escape e byte t) (decoded : Bytes) (o : ℕ) :
    escape decoded ⟨o, e ++ t⟩ = .ok (decoded ++ [byte], ⟨o + e.length, t⟩) := by
  unfold MiParser.escape
  cases h with
  | @hex digits t hne hall hmax =>
    have hspan : (digits ++ t).takeWhile (fun byte => (hexDigit byte).isSome) = digits :=
      takeWhile_append_of_maximal hall fun b hb => by simp [hmax b hb]
    rw [List.cons_append, bind_of_ok (take_eq_ok.mpr ⟨o, digits ++ t, rfl, rfl⟩), if_pos rfl,
      bind_remaining, hspan, if_neg (by simpa using hne), bind_advance,
      pure_apply, hexEscape_value]
    simp [Cursor.skip, Nat.add_comm, Nat.add_left_comm]
  | @octal digits t hne hshort hall hmax =>
    obtain ⟨first, digits, rfl⟩ := List.exists_cons_of_ne_nil hne
    have hfirst : isOctalDigit first := hall first (by simp)
    have hspan : ((digits ++ t).takeWhile isOctalDigit).take 2 = digits := by
      have hdigits : ∀ b ∈ digits, isOctalDigit b := fun b hb => hall b (by simp [hb])
      rcases hmax with hfull | hmax
      · have htwo : digits.length = 2 := by simpa using hfull
        rw [List.takeWhile_append_of_pos hdigits, List.take_append_of_le_length (by omega),
          List.take_of_length_le (by omega)]
      · rw [takeWhile_append_of_maximal hdigits hmax]
        rw [List.length_cons] at hshort
        exact List.take_of_length_le (by omega)
    rw [List.cons_append, bind_of_ok (take_eq_ok.mpr ⟨o, digits ++ t, rfl, rfl⟩),
      if_neg (ne_of_isOctalDigit hfirst), if_pos hfirst, bind_remaining, hspan,
      bind_advance, pure_apply, octalEscape_value]
    simp [Cursor.skip, Nat.add_comm, Nat.add_left_comm]
  | @simple byte t hx hoctal =>
    rw [List.singleton_append, bind_of_ok (take_eq_ok.mpr ⟨o, t, rfl, rfl⟩), if_neg hx,
      if_neg (by simp [hoctal]), pure_apply]
    rfl

/-! ### The scanner -/

/-- A plain span in front of a text derives itself. -/
lemma Grammar.Chars.span {p t d : Bytes} (hp : ∀ byte ∈ p, isSpecial byte = false)
    (h : Chars t d) : Chars (p ++ t) (p ++ d) := by
  induction p with
  | nil => exact h
  | cons byte p ih =>
    exact .plain (hp byte (by simp)) (ih fun b hb => hp b (by simp [hb]))

variable {t d : Bytes}

/-- The text of a C string is a plain span up to its closing quote or its first escape. -/
lemma Grammar.Chars.exists_span (h : Chars t d) : ∃ p, (∀ byte ∈ p, isSpecial byte = false) ∧
      ((t = p ++ [Byte.quote] ∧ d = p) ∨
        ∃ e byte t' d', t = p ++ Byte.backslash :: (e ++ t') ∧ d = p ++ byte :: d' ∧
          Escape e byte t' ∧ Chars t' d') := by
  induction h with
  | close => exact ⟨[], by simp, .inl ⟨rfl, rfl⟩⟩
  | @plain byte t d hplain htail ih =>
    obtain ⟨p, hp, hcases⟩ := ih
    refine ⟨byte :: p, by simpa [hplain] using hp, ?_⟩
    rcases hcases with ⟨rfl, rfl⟩ | ⟨e, b, t', d', rfl, rfl, hesc, hchars⟩
    · exact .inl ⟨rfl, rfl⟩
    · exact .inr ⟨e, b, t', d', rfl, rfl, hesc, hchars⟩
  | @escape e t d byte hesc htail _ =>
    exact ⟨[], by simp, .inr ⟨e, byte, t, d, rfl, rfl, hesc, htail⟩⟩

/-- The text of a C string ends in its closing quote, so it is not empty. -/
lemma Grammar.Chars.ne_nil (h : Chars t d) : t ≠ [] := by
  cases h <;> simp

/-- An escape depends on the text behind it through its first byte alone. -/
lemma Grammar.Escape.of_head {e s t : Bytes} (h : Escape e byte s) (hhead : s.head? = t.head?) :
    Escape e byte t := by
  cases h with
  | hex hne hall hmax => exact .hex hne hall (hhead ▸ hmax)
  | octal hne hshort hall hmax => exact .octal hne hshort hall (hhead ▸ hmax)
  | simple hx hoctal => exact .simple hx hoctal

/-- A plain span that fits in the window is the span the scanner copies. -/
lemma takeWhile_window {p : Bytes} (s : Bytes) {n : ℕ} (hp : ∀ b ∈ p, isSpecial b = false)
    (hbyte : isSpecial byte = true) (hn : p.length < n) :
    ((p ++ byte :: s).take n).takeWhile (fun b => !isSpecial b) = p := by
  obtain ⟨k, rfl⟩ : ∃ k, n = p.length + (k + 1) := ⟨n - p.length - 1, by omega⟩
  rw [List.take_length_add_append, List.take_succ_cons]
  refine takeWhile_append_of_maximal (fun b hb => by simp [hp b hb]) fun b hb => ?_
  simp only [List.head?_cons, Option.some.injEq] at hb
  simp [← hb, hbyte]

/-- The scanner returns what its text decodes to, within the limit. -/
lemma cStringLoop_sound {fuel : ℕ} {decoded d : Bytes}
    (hlen : decoded.length ≤ limits.maxDecodedStringBytes)
    (h : cStringLoop limits fuel decoded c = .ok (d, c')) :
    ∃ t d', c.rest = t ++ c'.rest ∧ c'.offset = c.offset + t.length ∧
      d = decoded ++ d' ∧ Chars t d' ∧ d.length ≤ limits.maxDecodedStringBytes := by
  induction fuel generalizing decoded c with
  | zero => simp [cStringLoop, unexpected] at h
  | succ fuel ih =>
    obtain ⟨o, rest⟩ := c
    rw [cStringLoop, bind_remaining] at h
    set budget := limits.maxDecodedStringBytes - decoded.length with hbudget
    set plain := (rest.take (budget + 1)).takeWhile fun byte => !isSpecial byte with hplain
    split at h
    · simp at h
    rename_i hfit
    obtain ⟨tail, htail⟩ : plain <+: rest :=
      (List.takeWhile_prefix _).trans (List.take_prefix _ _)
    have hspecial : ∀ byte ∈ plain, isSpecial byte = false := by
      intro byte hbyte
      simpa using List.mem_takeWhile_imp (p := fun b => !isSpecial b) hbyte
    rw [bind_advance, bind_eq_ok] at h
    obtain ⟨byte, c₁, htake, h⟩ := h
    have hskip : (Cursor.mk o rest).skip plain.length = ⟨o + plain.length, tail⟩ := by
      rw [Cursor.skip, ← htail, List.drop_left]
    rw [hskip] at htake
    obtain ⟨_, rest', heq, rfl⟩ := take_eq_ok.mp htake
    obtain ⟨rfl, rfl⟩ : o + plain.length = _ ∧ tail = _ := by simpa using heq
    split at h
    · -- the closing quote
      rename_i hquote
      subst hquote
      obtain ⟨rfl, rfl⟩ := Prod.mk.inj (Except.ok.inj h)
      refine ⟨plain ++ [Byte.quote], plain, ?_, ?_, rfl, ?_, ?_⟩
      · simp [← htail]
      · simp [Nat.add_assoc]
      · simpa using Chars.close.span hspecial
      · rw [List.length_append]
        omega
    · split at h
      · -- an escape, and the rest of the string
        rename_i hbackslash
        subst hbackslash
        rw [bind_eq_ok] at h
        obtain ⟨d₁, c₂, hescape, h⟩ := h
        obtain ⟨e, byte, hesc, hc₁, ho₂, rfl⟩ := escape_sound hescape
        split at h
        · simp at h
        rename_i hwithin
        obtain ⟨t, d', hc₂, ho', hd, hchars, hmax⟩ := ih (by omega) h
        have hesc' : Escape e byte t := hesc.of_head (by
          rw [hc₂, List.head?_append_of_ne_nil _ hchars.ne_nil])
        refine ⟨plain ++ Byte.backslash :: (e ++ t), plain ++ byte :: d', ?_, ?_, ?_, ?_, hmax⟩
        · have hrest' : rest' = e ++ c₂.rest := hc₁
          simp only [← htail, List.append_assoc, List.cons_append, ← hc₂, hrest']
        · simp only [ho', ho₂, List.length_append, List.length_cons]
          omega
        · simp [hd]
        · exact (Chars.escape hesc' hchars).span hspecial
      · simp [unexpected] at h

/-- With fuel for the text, the scanner reads every text whose value fits. -/
lemma cStringLoop_complete (h : Chars t d) (rest : Bytes) {fuel : ℕ} (hfuel : t.length ≤ fuel)
    (decoded : Bytes) (hlen : (decoded ++ d).length ≤ limits.maxDecodedStringBytes) (o : ℕ) :
    cStringLoop limits fuel decoded ⟨o, t ++ rest⟩ =
      .ok (decoded ++ d, ⟨o + t.length, rest⟩) := by
  -- one round of the loop takes a plain span and the quote or the escape behind it
  induction fuel generalizing t d decoded o with
  | zero => exact absurd (List.length_eq_zero_iff.mp (Nat.le_zero.mp hfuel)) h.ne_nil
  | succ fuel ih =>
    obtain ⟨p, hp, ⟨rfl, rfl⟩ | ⟨e, byte, t', d', rfl, rfl, hesc, hchars⟩⟩ := h.exists_span
    · rw [List.length_append] at hlen
      have hquote : isSpecial Byte.quote = true := by decide
      have hspan := takeWhile_window rest hp hquote
        (n := limits.maxDecodedStringBytes - decoded.length + 1) (by omega)
      simp only [List.append_assoc, List.singleton_append]
      rw [cStringLoop, bind_remaining, hspan, if_neg (by omega), bind_advance,
        Cursor.skip, List.drop_left,
        bind_of_ok (take_eq_ok.mpr ⟨_, rest, rfl, rfl⟩), if_pos rfl, pure_apply]
      simp [Nat.add_assoc]
    · simp only [List.length_append, List.length_cons] at hlen hfuel
      have hbackslash : isSpecial Byte.backslash = true := by decide
      have hspan := takeWhile_window (e ++ (t' ++ rest)) hp hbackslash
        (n := limits.maxDecodedStringBytes - decoded.length + 1) (by omega)
      have hesc' : Escape e byte (t' ++ rest) := hesc.of_head
        (List.head?_append_of_ne_nil _ hchars.ne_nil).symm
      have htail := ih hchars (by omega) (decoded ++ p ++ [byte])
        (by simp only [List.length_append, List.length_singleton]; omega)
        (o + p.length + 1 + e.length)
      simp only [List.append_assoc, List.cons_append]
      rw [cStringLoop, bind_remaining, hspan, if_neg (by omega), bind_advance,
        Cursor.skip, List.drop_left,
        bind_of_ok (take_eq_ok.mpr ⟨_, _, rfl, rfl⟩), if_neg (by decide), if_pos rfl,
        bind_of_ok (escape_complete hesc' (decoded ++ p) _), if_neg, htail]
      · simp only [List.append_assoc, List.cons_append, List.nil_append, List.length_append,
          List.length_cons]
        congr 3
        omega
      · simp only [List.length_append, List.length_singleton]
        omega

/-- What `cString` reads is a C string of the grammar within the limit. -/
lemma sound_cString (limits : MiLimits) :
    Parser.Sound (cString limits)
      fun w d => CString w d ∧ d.length ≤ limits.maxDecodedStringBytes := by
  intro c c' d h
  unfold cString at h
  rw [bind_eq_ok] at h
  obtain ⟨_, c₁, hquote, h⟩ := h
  obtain ⟨o, rest, rfl, rfl⟩ := expect_eq_ok.mp hquote
  obtain ⟨t, d', hrest, ho, rfl, hchars, hlen⟩ := cStringLoop_sound (Nat.zero_le _) h
  refine ⟨Byte.quote :: t, ?_, ?_, ⟨t, rfl, hchars⟩, hlen⟩
  · rw [List.cons_append, ← hrest]
  · simp only [ho, List.length_cons]
    omega

/-- `cString` reads every C string of the grammar within the limit. -/
lemma consumes_cString {w d : Bytes} (h : CString w d)
    (hlen : d.length ≤ limits.maxDecodedStringBytes) : Parser.Consumes (cString limits) w d := by
  intro o rest
  obtain ⟨t, rfl, hchars⟩ := h
  have hfuel : t.length ≤ (t ++ rest).length + 1 := by
    rw [List.length_append]
    omega
  have hloop := cStringLoop_complete hchars rest hfuel [] hlen (o + 1)
  have hquote : expect Byte.quote "opening quote" ⟨o, Byte.quote :: (t ++ rest)⟩ =
      .ok ((), ⟨o + 1, t ++ rest⟩) := expect_eq_ok.mpr ⟨o, t ++ rest, rfl, rfl⟩
  unfold cString
  rw [List.cons_append, bind_of_ok hquote,
    bind_remaining, hloop]
  simp [Nat.add_assoc, Nat.add_comm 1]

end GdbAi
