import Mathlib.Data.Nat.Notation
import Mathlib.Tactic.Common

/-!
# Base64

The standard alphabet with padding.  Three bytes are four digits of six bits; a last group of one
or two bytes is padded with `=`, and a decoder takes it only if the bits that carry nothing are
zero.  What `encode` writes, `decode` reads back (`decode_encode`).
-/

namespace Base64

/-! ### Digits -/

/-- The digit of a number below 64. -/
def digit (n : ℕ) : Char :=
  if n < 26 then Char.ofNat (65 + n)
  else if n < 52 then Char.ofNat (97 + (n - 26))
  else if n < 62 then Char.ofNat (48 + (n - 52))
  else if n = 62 then '+'
  else '/'

/-- The number of a digit. -/
def value (c : Char) : Option ℕ :=
  if 'A' ≤ c ∧ c ≤ 'Z' then some (c.toNat - 65)
  else if 'a' ≤ c ∧ c ≤ 'z' then some (c.toNat - 97 + 26)
  else if '0' ≤ c ∧ c ≤ '9' then some (c.toNat - 48 + 52)
  else if c = '+' then some 62
  else if c = '/' then some 63
  else none

lemma value_digit : ∀ n < 64, value (digit n) = some n := by
  decide +kernel

/-- Padding is no digit. -/
lemma digit_ne_pad : ∀ n < 64, digit n ≠ '=' := by
  decide +kernel

/-! ### Groups -/

/-- The four digits of three bytes. -/
def encodeThree (a b c : UInt8) : List Char :=
  [digit (a.toNat / 4), digit (a.toNat % 4 * 16 + b.toNat / 16),
    digit (b.toNat % 16 * 4 + c.toNat / 64), digit (c.toNat % 64)]

def encodeTwo (a b : UInt8) : List Char :=
  [digit (a.toNat / 4), digit (a.toNat % 4 * 16 + b.toNat / 16), digit (b.toNat % 16 * 4), '=']

def encodeOne (a : UInt8) : List Char :=
  [digit (a.toNat / 4), digit (a.toNat % 4 * 16), '=', '=']

/-- The three bytes of four digits. -/
def decodeThree (w x y z : Char) : Option (List UInt8) := do
  let w ← value w
  let x ← value x
  let y ← value y
  let z ← value z
  some [.ofNat (w * 4 + x / 16), .ofNat (x % 16 * 16 + y / 4), .ofNat (y % 4 * 64 + z)]

def decodeTwo (w x y : Char) : Option (List UInt8) := do
  let w ← value w
  let x ← value x
  let y ← value y
  if y % 4 = 0 then some [.ofNat (w * 4 + x / 16), .ofNat (x % 16 * 16 + y / 4)] else none

def decodeOne (w x : Char) : Option (List UInt8) := do
  let w ← value w
  let x ← value x
  if x % 16 = 0 then some [.ofNat (w * 4 + x / 16)] else none

/-- The last group, which may be padded. -/
def decodeLast (w x y z : Char) : Option (List UInt8) :=
  if z = '=' then if y = '=' then decodeOne w x else decodeTwo w x y else decodeThree w x y z

section

variable (a b c : UInt8)

lemma decodeThree_encodeThree :
    decodeThree (digit (a.toNat / 4)) (digit (a.toNat % 4 * 16 + b.toNat / 16))
      (digit (b.toNat % 16 * 4 + c.toNat / 64)) (digit (c.toNat % 64)) = some [a, b, c] := by
  have ha := a.toNat_lt
  have hb := b.toNat_lt
  have hc := c.toNat_lt
  rw [decodeThree, value_digit _ (by omega), value_digit _ (by omega), value_digit _ (by omega),
    value_digit _ (by omega)]
  have hfirst : a.toNat / 4 * 4 + (a.toNat % 4 * 16 + b.toNat / 16) / 16 = a.toNat := by omega
  have hsecond : (a.toNat % 4 * 16 + b.toNat / 16) % 16 * 16 +
      (b.toNat % 16 * 4 + c.toNat / 64) / 4 = b.toNat := by omega
  have hthird : (b.toNat % 16 * 4 + c.toNat / 64) % 4 * 64 + c.toNat % 64 = c.toNat := by omega
  simp only [Option.bind_eq_bind, Option.bind_some, hfirst, hsecond, hthird, UInt8.ofNat_toNat]

lemma decodeTwo_encodeTwo :
    decodeTwo (digit (a.toNat / 4)) (digit (a.toNat % 4 * 16 + b.toNat / 16))
      (digit (b.toNat % 16 * 4)) = some [a, b] := by
  have ha := a.toNat_lt
  have hb := b.toNat_lt
  rw [decodeTwo, value_digit _ (by omega), value_digit _ (by omega), value_digit _ (by omega)]
  have hfirst : a.toNat / 4 * 4 + (a.toNat % 4 * 16 + b.toNat / 16) / 16 = a.toNat := by omega
  have hsecond : (a.toNat % 4 * 16 + b.toNat / 16) % 16 * 16 + b.toNat % 16 * 4 / 4 = b.toNat := by
    omega
  have hrest : b.toNat % 16 * 4 % 4 = 0 := by omega
  simp only [Option.bind_eq_bind, Option.bind_some, hfirst, hsecond, hrest, if_true,
    UInt8.ofNat_toNat]

lemma decodeOne_encodeOne :
    decodeOne (digit (a.toNat / 4)) (digit (a.toNat % 4 * 16)) = some [a] := by
  have ha := a.toNat_lt
  rw [decodeOne, value_digit _ (by omega), value_digit _ (by omega)]
  have hfirst : a.toNat / 4 * 4 + a.toNat % 4 * 16 / 16 = a.toNat := by omega
  have hrest : a.toNat % 4 * 16 % 16 = 0 := by omega
  simp only [Option.bind_eq_bind, Option.bind_some, hfirst, hrest, if_true, UInt8.ofNat_toNat]

end

/-! ### Texts -/

/-- The base64 text of bytes. -/
def encode : List UInt8 → List Char
  | [] => []
  | [a] => encodeOne a
  | [a, b] => encodeTwo a b
  | a :: b :: c :: rest => encodeThree a b c ++ encode rest

/-- The bytes of a base64 text. -/
def decode : List Char → Option (List UInt8)
  | [] => some []
  | [w, x, y, z] => decodeLast w x y z
  | w :: x :: y :: z :: rest => do
    let bytes ← decodeThree w x y z
    let others ← decode rest
    some (bytes ++ others)
  | _ => none

/-- Three bytes in front are read back in front. -/
lemma decode_encodeThree_append (a b c : UInt8) {text : List Char} {bytes : List UInt8}
    (h : decode text = some bytes) :
    decode (encodeThree a b c ++ text) = some (a :: b :: c :: bytes) := by
  have hgroup := decodeThree_encodeThree a b c
  cases text with
  | nil =>
    cases h
    have hlast := digit_ne_pad _ (Nat.mod_lt c.toNat (by decide))
    rw [List.append_nil, encodeThree, decode, decodeLast, if_neg hlast, hgroup]
  | cons d text =>
    simp only [encodeThree, List.cons_append, List.nil_append]
    rw [decode, hgroup, h]
    · rfl
    · exact List.cons_ne_nil _ _

/-- What was encoded is decoded. -/
theorem decode_encode (bytes : List UInt8) : decode (encode bytes) = some bytes := by
  induction bytes using encode.induct with
  | case1 => rfl
  | case2 a =>
    rw [encode, encodeOne, decode, decodeLast, if_pos rfl, if_pos rfl, decodeOne_encodeOne]
  | case3 a b =>
    have hb := b.toNat_lt
    have hlast := digit_ne_pad (b.toNat % 16 * 4) (by omega)
    rw [encode, encodeTwo, decode, decodeLast, if_pos rfl, if_neg hlast, decodeTwo_encodeTwo]
  | case4 a b c rest ih =>
    rw [encode]
    exact decode_encodeThree_append a b c ih

end Base64
