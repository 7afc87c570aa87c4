import Mathlib.Data.Nat.Bitwise
import Mathlib.Tactic.Lemma

/-!
# Address translation of x86-64

Physical memory is read in entries of 64 bits. The paging levels are numbered from the table of
4 KiB pages upwards, so that an entry of level `n` spans `2 ^ (12 + 9 * n)` bytes; with four
levels a walk starts at level 3, with five at level 4. The permissions of a translation are those
that every entry on its way grants.
-/

namespace GdbAi

/-! ### Bit fields -/

/-- The bits from `low` up to but not including `high` of a number, in their place. -/
def field (word low high : Nat) : Nat :=
  word / 2 ^ low % 2 ^ (high - low) * 2 ^ low

lemma testBit_field (word low high i : Nat) :
    (field word low high).testBit i = (decide (low ≤ i ∧ i < high) && word.testBit i) := by
  rw [field, Nat.testBit_mul_two_pow, Nat.testBit_mod_two_pow, Nat.testBit_div_two_pow]
  by_cases hlow : low ≤ i
  · rw [Nat.sub_add_cancel hlow]
    by_cases hhigh : i < high
    · simp [hlow, hhigh, show i - low < high - low by omega]
    · simp [hlow, hhigh, show ¬ i - low < high - low by omega]
  · simp [hlow]

/-- A mask whose bits are a field cuts that field out of a word. -/
lemma toNat_and_of_bits {word mask : BitVec 64} {low high : Nat}
    (hmask : ∀ i : Fin 64, mask.getLsbD i = decide (low ≤ i ∧ i < high)) :
    (word &&& mask).toNat = field word.toNat low high := by
  apply Nat.eq_of_testBit_eq
  intro i
  rw [testBit_field, BitVec.testBit_toNat, BitVec.testBit_toNat, BitVec.getLsbD_and, Bool.and_comm]
  by_cases hi : i < 64
  · rw [hmask ⟨i, hi⟩]
  · rw [BitVec.getLsbD_of_ge _ _ (by omega), BitVec.getLsbD_of_ge _ _ (by omega), Bool.and_false,
      Bool.and_false]

lemma field_lt {word low high : Nat} (hle : low ≤ high) : field word low high < 2 ^ high := by
  have hmod := Nat.mod_lt (word / 2 ^ low) (Nat.two_pow_pos (high - low))
  calc field word low high < 2 ^ (high - low) * 2 ^ low :=
        Nat.mul_lt_mul_of_pos_right hmod (Nat.two_pow_pos low)
    _ = 2 ^ high := by rw [← Nat.pow_add, Nat.sub_add_cancel hle]

/-- The number that bytes spell with the least significant one first. -/
def littleEndian (bytes : List UInt8) : Nat :=
  bytes.foldr (fun byte rest => byte.toNat + 256 * rest) 0

lemma littleEndian_lt (bytes : List UInt8) : littleEndian bytes < 256 ^ bytes.length := by
  induction bytes with
  | nil => exact Nat.one_pos
  | cons byte bytes ih =>
    have hbyte : byte.toNat < 256 := byte.toNat_lt
    change byte.toNat + 256 * littleEndian bytes < 256 ^ (bytes.length + 1)
    rw [pow_succ]
    omega

/-! ### The walk -/

namespace Paging

/-- The bytes that an entry of a level spans, as a power of two. -/
def shift (level : Nat) : Nat :=
  12 + 9 * level

/-- An entry that maps a page: every one of the lowest level, and above it those of the next two
levels with the page-size bit. -/
def Terminal (level entry : Nat) : Prop :=
  level = 0 ∨ (level ≤ 2 ∧ entry.testBit 7 = true)

instance (level entry : Nat) : Decidable (Terminal level entry) :=
  inferInstanceAs (Decidable (_ ∨ _))

/-- What may be done at an address. -/
structure Permissions where
  writable : Bool
  user : Bool
  executable : Bool
deriving DecidableEq, Repr

/-- What is permitted on two ways taken one after the other. -/
def Permissions.inter (first second : Permissions) : Permissions where
  writable := first.writable && second.writable
  user := first.user && second.user
  executable := first.executable && second.executable

lemma Permissions.inter_assoc (first second third : Permissions) :
    (first.inter second).inter third = first.inter (second.inter third) := by
  simp only [inter, Bool.and_assoc]

/-- What an entry grants. -/
def granted (entry : Nat) : Permissions where
  writable := entry.testBit 1
  user := entry.testBit 2
  executable := !entry.testBit 63

/-- Where an address leads: the frame of its page, the size of the page as a power of two, and
what may be done there. -/
structure Translation where
  frame : Nat
  size : Nat
  permissions : Permissions
deriving DecidableEq, Repr

/-- A translation behind a way that permits less. -/
def Translation.under (found : Translation) (permitted : Permissions) : Translation :=
  { found with permissions := permitted.inter found.permissions }

/-- The translation of an address by the table of a level, when every entry on the way is
present. -/
def translate (entryAt : Nat → Nat) (address : Nat) (level table : Nat) : Option Translation :=
  let entry := entryAt (table + 8 * (address / 2 ^ shift level % 512))
  if entry.testBit 0 = false then none
  else if Terminal level entry then
    some ⟨field entry (shift level) 52, shift level, granted entry⟩
  else
    match level with
    | 0 => none
    | below + 1 =>
      (translate entryAt address below (field entry 12 52)).map fun found =>
        found.under (granted entry)

/-- The bits of an address from `low` upwards agree. -/
def Extended (low address : Nat) : Prop :=
  ∀ i, low ≤ i → i < 64 → address.testBit i = address.testBit 63

/-- A virtual address of `bits` bits is extended from its sign bit. -/
def Canonical (bits address : Nat) : Prop :=
  Extended (bits - 1) address

lemma Canonical.extended {bits address : Nat} (h : Canonical bits address) :
    Extended bits address :=
  fun i hi => h i ((Nat.sub_le bits 1).trans hi)

end Paging

end GdbAi
