import Mathlib.Data.List.Infix
import Mathlib.Tactic.IntervalCases
import GdbAi.Library.Paging

/-!
# The page-table view of a kernel address

The helper that runs inside GDB evaluates an address, reads the paging registers and walks the
page tables through the physical-memory mode of QEMU. A kernel address that the current table
does not map is looked up once more in the paired table of a kernel with isolated page tables.
The walk is compared with the translation of the architecture.
-/

namespace GdbAi.PageTables

open Paging (Canonical Extended Permissions Terminal Translation granted shift translate)

/-! ### What the command asks of GDB -/

/-- A Python exception: its class and its text. -/
structure Failure where
  kind : String
  message : String
deriving DecidableEq, Repr

def Failure.text (failure : Failure) : String :=
  failure.kind ++ ": " ++ failure.message

/-- How memory is read: from an address on, so many bytes. -/
abbrev Inferior : Type :=
  BitVec 64 → Nat → Except Failure (List UInt8)

structure Gdb where
  parseAndEval : String → Except Failure Int
  execute : String → Except Failure String
  readMemory : Inferior

/-- `struct.unpack("<Q", …)`. -/
def unpackQuad (bytes : List UInt8) : Except Failure (BitVec 64) :=
  if bytes.length = 8 then .ok (BitVec.ofNat 64 (littleEndian bytes))
  else .error ⟨"error", "unpack requires a buffer of 8 bytes"⟩

/-- A packet that switches the memory mode of QEMU, and the check of its reply. -/
def Gdb.switch (gdb : Gdb) (packet message : String) : Except Failure Unit := do
  let response ← gdb.execute ("maintenance packet Qqemu.PhyMemMode:" ++ packet)
  if "received: \"OK\"".toList <:+: response.toList then return ()
  else throw ⟨"RuntimeError", message⟩

/-! ### `_walk` -/

inductive Level where
  | pml5 | pml4 | pdpt | pd | pt
deriving DecidableEq, Repr

inductive TargetKind where
  | page | table
deriving DecidableEq, Repr

/-- One entry of the path that the view shows. -/
structure Step where
  level : Level
  index : Nat
  entryAddress : Nat
  entry : Nat
  flags : List String
  target : Option Nat
  targetKind : TargetKind
deriving DecidableEq, Repr

structure Page where
  physicalAddress : Nat
  pageSize : Nat
  pageOffset : Nat
  effective : Permissions
deriving DecidableEq, Repr

/-- The result of a walk: the page it reached, when the address is mapped, and its path. -/
structure Walk where
  page : Option Page
  levels : List Step
deriving DecidableEq, Repr

def physicalAddressMask : BitVec 64 :=
  0x000FFFFFFFFFF000

def flags (entry : BitVec 64) (level : Level) (leaf huge : Bool) : List String :=
  ([(0, "present"), (1, "writable"), (2, "user"), (3, "write-through"), (4, "cache-disable"),
      (5, "accessed")].filter fun named => entry.getLsbD named.1).map Prod.snd ++
    (if leaf && entry.getLsbD 6 then ["dirty"] else []) ++
    (if huge then "huge" :: (if entry.getLsbD 12 then ["pat"] else [])
      else if level == .pt && entry.getLsbD 7 then ["pat"] else []) ++
    (if leaf && entry.getLsbD 8 then ["global"] else []) ++
    (if entry.getLsbD 63 then ["nx"] else [])

/-- The entry maps a page above the lowest level. -/
def isHuge (level : Level) (entry : BitVec 64) : Bool :=
  (level == .pdpt || level == .pd) && entry.getLsbD 7

def isLeaf (level : Level) (entry : BitVec 64) : Bool :=
  level == .pt || isHuge level entry

/-- What a present entry points to: a page, aligned to its size, or the next table. -/
def targetOf (level : Level) (shift : Nat) (entry : BitVec 64) : BitVec 64 :=
  let target := entry &&& physicalAddressMask
  if isLeaf level entry then target &&& -(1#64 <<< shift) else target

def stepOf (level : Level) (shift : Nat) (index entryAddress entry : BitVec 64) : Step where
  level := level
  index := index.toNat
  entryAddress := entryAddress.toNat
  entry := entry.toNat
  flags := flags entry level (isLeaf level entry) (isHuge level entry)
  target := if entry.getLsbD 0 then some (targetOf level shift entry).toNat else none
  targetKind := if isLeaf level entry then .page else .table

/-- The loop of `_walk` from a table on, with the path so far and what it still permits. -/
def walkFrom (inferior : Inferior) (address : BitVec 64) :
    List (Level × Nat) → BitVec 64 → List Step → Permissions → Except Failure Walk
  | [], _, _, _ => throw ⟨"ValueError", "page walk ended without a leaf entry"⟩
  | (level, shift) :: rest, table, path, effective => do
    let index := address >>> shift &&& 0x1FF
    let entryAddress := table + index * 8
    let entry ← unpackQuad (← inferior entryAddress 8)
    let target := targetOf level shift entry
    let path := path ++ [stepOf level shift index entryAddress entry]
    if entry.getLsbD 0 = false then return { page := none, levels := path }
    let effective := {
      writable := effective.writable && entry.getLsbD 1
      user := effective.user && entry.getLsbD 2
      executable := effective.executable && !entry.getLsbD 63 }
    if isLeaf level entry then
      let pageSize := 1#64 <<< shift
      let offset := address &&& (pageSize - 1)
      let page := ⟨(target + offset).toNat, pageSize.toNat, offset.toNat, effective⟩
      return { page := some page, levels := path }
    walkFrom inferior address rest target path effective

def walk (inferior : Inferior) (root address : BitVec 64) (levels : List (Level × Nat)) :
    Except Failure Walk :=
  walkFrom inferior address levels root [] ⟨true, true, true⟩

/-! ### `_gdbai_kernel_page_table` -/

inductive RootSource where
  | current | pairedKernel
deriving DecidableEq, Repr

structure View where
  virtualAddress : Nat
  virtualBits : Nat
  root : Nat
  rootSource : RootSource
  walk : Walk
deriving DecidableEq, Repr

inductive Payload where
  | error (text : String)
  | view (view : View)
deriving DecidableEq, Repr

def Payload.isError : Payload → Bool
  | .error _ => true
  | .view _ => false

def virtualBits (cr4 : BitVec 64) : Nat :=
  if cr4.getLsbD 12 then 57 else 48

def pagingLevels (bits : Nat) : List (Level × Nat) :=
  (if bits = 57 then [(.pml5, 48)] else []) ++
    [(.pml4, 39), (.pdpt, 30), (.pd, 21), (.pt, 12)]

/-- What happens before the memory mode is switched: the address, the current root and the width
of virtual addresses. -/
def Gdb.locate (gdb : Gdb) (expression : String) :
    Except Failure (BitVec 64 × BitVec 64 × Nat) := do
  let address := BitVec.ofInt 64 (← gdb.parseAndEval expression)
  let cr3 := BitVec.ofInt 64 (← gdb.parseAndEval "$cr3")
  let cr4 := BitVec.ofInt 64 (← gdb.parseAndEval "$cr4")
  let bits := virtualBits cr4
  let upper := address >>> bits
  if ¬ (upper = 0#64 ∨ upper = 1#64 <<< (64 - bits) - 1#64) then
    throw ⟨"ValueError", "non-canonical " ++ toString bits ++ "-bit virtual address"⟩
  return (address, cr3 &&& physicalAddressMask, bits)

/-- The walks in physical-memory mode. -/
def Gdb.view (gdb : Gdb) (address currentRoot : BitVec 64) (bits : Nat) : Except Failure View := do
  gdb.switch "1" "QEMU physical-memory RSP mode is unavailable"
  let result ← walk gdb.readMemory currentRoot address (pagingLevels bits)
  let pairedRoot := currentRoot &&& ~~~(1#64 <<< 12)
  if result.page = none ∧ address >>> 63 ≠ 0#64 ∧ pairedRoot ≠ currentRoot then
    let result ← walk gdb.readMemory pairedRoot address (pagingLevels bits)
    return ⟨address.toNat, bits, pairedRoot.toNat, .pairedKernel, result⟩
  return ⟨address.toNat, bits, currentRoot.toNat, .current, result⟩

/-- The `except` arm. -/
def Payload.of : Except Failure View → Payload
  | .ok shown => .view shown
  | .error failure => .error failure.text

/-- The command. The `finally` arm switches the memory mode back whenever it may have been
switched; a failure to do so replaces the answer. -/
def Gdb.kernelPageTable (gdb : Gdb) (expression : String) : Payload :=
  match gdb.locate expression with
  | .error failure => .error failure.text
  | .ok (address, currentRoot, bits) =>
    let payload := Payload.of (gdb.view address currentRoot bits)
    match gdb.switch "0" "QEMU virtual-memory RSP mode was not restored" with
    | .error failure => .error failure.text
    | .ok _ => payload

/-! ### The walk against the architecture -/

/-- The bytes of a stretch of physical memory. -/
def bytesAt (memory : Nat → UInt8) (address size : Nat) : List UInt8 :=
  (List.range size).map fun i => memory (address + i)

/-- The entry stored at a physical address. -/
def entryAt (memory : Nat → UInt8) (address : Nat) : Nat :=
  littleEndian (bytesAt memory address 8)

/-- The page that a translation of an address stands for. -/
def pageOf (address : Nat) (found : Translation) : Page where
  physicalAddress := found.frame + address % 2 ^ found.size
  pageSize := 2 ^ found.size
  pageOffset := address % 2 ^ found.size
  effective := found.permissions

def Level.rank : Level → Nat
  | .pt => 0
  | .pd => 1
  | .pdpt => 2
  | .pml4 => 3
  | .pml5 => 4

/-- The levels of a walk in the order of the architecture. -/
inductive Descending : Nat → List (Level × Nat) → Prop where
  | last : Descending 0 [(.pt, shift 0)]
  | next {rank : Nat} {rest : List (Level × Nat)} (level : Level) :
      Descending rank rest → level.rank = rank + 1 →
        Descending (rank + 1) ((level, shift (rank + 1)) :: rest)

lemma descending_pagingLevels (cr4 : BitVec 64) :
    Descending (if cr4.getLsbD 12 then 4 else 3) (pagingLevels (virtualBits cr4)) := by
  have hfour : Descending 3 [(.pml4, 39), (.pdpt, 30), (.pd, 21), (.pt, 12)] :=
    .next .pml4 (.next .pdpt (.next .pd .last rfl) rfl) rfl
  unfold virtualBits
  split
  · exact .next .pml5 hfour rfl
  · exact hfour

section Walk

variable {inferior : Inferior} {memory : Nat → UInt8}
  {address table entry : BitVec 64} {level : Level} {rank : Nat}

/-- Reads of physical memory succeed with its contents. -/
def Reads (inferior : Inferior) (memory : Nat → UInt8) : Prop :=
  ∀ (start : BitVec 64) (size : Nat), inferior start size = .ok (bytesAt memory start.toNat size)

lemma length_bytesAt (start size : Nat) : (bytesAt memory start size).length = size := by
  rw [bytesAt, List.length_map, List.length_range]

lemma exists_entry (memory : Nat → UInt8) (start : Nat) :
    ∃ entry : BitVec 64, entry.toNat = entryAt memory start := by
  have hlt := littleEndian_lt (bytesAt memory start 8)
  rw [length_bytesAt] at hlt
  exact ⟨BitVec.ofNat 64 (entryAt memory start), Nat.mod_eq_of_lt hlt⟩

lemma unpackQuad_bytesAt (start : Nat) :
    unpackQuad (bytesAt memory start 8) = .ok (BitVec.ofNat 64 (entryAt memory start)) :=
  if_pos (length_bytesAt start 8)

/-- The address of the entry that a level looks up. Tables lie below `2 ^ 52`, so that the sum
does not wrap. -/
lemma toNat_entryAddress (htable : table.toNat < 2 ^ 52) (amount : Nat) :
    (table + (address >>> amount &&& 0x1FF) * 8).toNat =
      table.toNat + 8 * (address.toNat / 2 ^ amount % 512) := by
  have hindex : (address >>> amount &&& 0x1FF).toNat = address.toNat / 2 ^ amount % 512 := by
    rw [BitVec.toNat_and, BitVec.toNat_ushiftRight, Nat.shiftRight_eq_div_pow]
    exact Nat.and_two_pow_sub_one_eq_mod _ 9
  rw [BitVec.toNat_add, BitVec.toNat_mul, hindex]
  have hlt := Nat.mod_lt (address.toNat / 2 ^ amount) (show 0 < 512 by decide)
  simp only [BitVec.reduceToNat]
  omega

lemma isLeaf_iff (hlevel : level.rank = rank) :
    isLeaf level entry = true ↔ Terminal rank entry.toNat := by
  subst hlevel
  rw [Terminal, BitVec.testBit_toNat]
  cases level <;> simp [isLeaf, isHuge, Level.rank]

lemma toNat_frame : (entry &&& physicalAddressMask).toNat = field entry.toNat 12 52 :=
  toNat_and_of_bits (by decide)

lemma toNat_pageFrame (hrank : rank ≤ 2) :
    (entry &&& physicalAddressMask &&& -(1#64 <<< shift rank)).toNat =
      field entry.toNat (shift rank) 52 := by
  rw [BitVec.and_assoc]
  apply toNat_and_of_bits
  interval_cases rank <;> decide

lemma toNat_offset (hrank : rank ≤ 2) :
    (address &&& (1#64 <<< shift rank - 1)).toNat =
      address.toNat % 2 ^ shift rank := by
  have hfield : (address &&& (1#64 <<< shift rank - 1)).toNat =
      field address.toNat 0 (shift rank) := by
    apply toNat_and_of_bits
    interval_cases rank <;> decide
  rw [hfield, field, pow_zero, Nat.div_one, Nat.mul_one, Nat.sub_zero]

/-- An entry that maps a page gives the page of the translation. -/
lemma page_of_terminal (hrank : rank ≤ 2) (effective : Permissions) :
    (⟨((entry &&& physicalAddressMask &&& -(1#64 <<< shift rank)) +
          (address &&& (1#64 <<< shift rank - 1))).toNat,
        (1#64 <<< shift rank).toNat,
        (address &&& (1#64 <<< shift rank - 1)).toNat, effective⟩ : Page) =
      pageOf address.toNat
        ⟨field entry.toNat (shift rank) 52, shift rank, effective⟩ := by
  have hshift : shift rank ≤ 30 := by unfold shift; omega
  have hsize : (1#64 <<< shift rank).toNat = 2 ^ shift rank := by
    interval_cases rank <;> rfl
  have hframe : field entry.toNat (shift rank) 52 < 2 ^ 52 := field_lt (by omega)
  have hoffset : address.toNat % 2 ^ shift rank < 2 ^ 30 :=
    (Nat.mod_lt _ (Nat.two_pow_pos _)).trans_le (Nat.pow_le_pow_right (by decide) hshift)
  rw [BitVec.toNat_add, toNat_pageFrame hrank, toNat_offset hrank, hsize,
    Nat.mod_eq_of_lt (by omega)]
  rfl

/-- One turn of the loop, by the entry that the architecture looks up. -/
lemma walkFrom_cons (hreads : Reads inferior memory) (hlevel : level.rank = rank)
    (htable : table.toNat < 2 ^ 52) (rest : List (Level × Nat)) (path : List Step)
    (effective : Permissions)
    (hentry : entry.toNat = entryAt memory
      (table.toNat + 8 * (address.toNat / 2 ^ shift rank % 512))) :
    ∃ path', walkFrom inferior address ((level, shift rank) :: rest) table path effective =
      if entry.toNat.testBit 0 = false then .ok ⟨none, path'⟩
      else if Terminal rank entry.toNat then
        .ok ⟨some (pageOf address.toNat ⟨field entry.toNat (shift rank) 52,
          shift rank, effective.inter (granted entry.toNat)⟩), path'⟩
      else walkFrom inferior address rest (entry &&& physicalAddressMask) path'
        (effective.inter (granted entry.toNat)) := by
  refine ⟨path ++ [stepOf level (shift rank) (address >>> shift rank &&& 0x1FF)
    (table + (address >>> shift rank &&& 0x1FF) * 8) entry], ?_⟩
  have hread : inferior (table + (address >>> shift rank &&& 0x1FF) * 8) 8 >>= unpackQuad =
      .ok entry := by
    rw [hreads, toNat_entryAddress htable]
    refine (unpackQuad_bytesAt _).trans ?_
    rw [← hentry, BitVec.ofNat_toNat, BitVec.setWidth_eq]
  rw [walkFrom, ← bind_assoc, hread]
  simp only [granted, Permissions.inter, BitVec.testBit_toNat]
  change (if entry.getLsbD 0 = false then _ else _) = _
  split
  · rfl
  by_cases hleaf : Terminal rank entry.toNat
  · have hrank : rank ≤ 2 := by
      obtain rfl | ⟨hrank, -⟩ := hleaf
      · exact Nat.zero_le 2
      · exact hrank
    have hcode := (isLeaf_iff hlevel).mpr hleaf
    rw [if_pos hcode, if_pos hleaf, targetOf, if_pos hcode, ← page_of_terminal hrank]
    rfl
  · have hcode := mt (isLeaf_iff hlevel).mp hleaf
    rw [if_neg hcode, if_neg hleaf, targetOf, if_neg hcode]

/-- The walk from a table reaches the page of the translation, and no page when there is none. -/
lemma walkFrom_page (hreads : Reads inferior memory) {levels : List (Level × Nat)}
    (hlevels : Descending rank levels) (htable : table.toNat < 2 ^ 52) (path : List Step)
    (effective : Permissions) :
    ∃ result, walkFrom inferior address levels table path effective = .ok result ∧
      result.page = (translate (entryAt memory) address.toNat rank table.toNat).map fun found =>
        pageOf address.toNat (found.under effective) := by
  induction hlevels generalizing table path effective with
  | last =>
    obtain ⟨entry, hentry⟩ := exists_entry memory
      (table.toNat + 8 * (address.toNat / 2 ^ shift 0 % 512))
    have hrank : Level.pt.rank = 0 := rfl
    obtain ⟨path', hwalk⟩ :=
      walkFrom_cons hreads hrank htable [] path effective hentry
    rw [hwalk, Paging.translate, ← hentry]
    split
    · exact ⟨_, rfl, rfl⟩
    · rw [if_pos (.inl rfl), if_pos (.inl rfl)]
      exact ⟨_, rfl, rfl⟩
  | @next rank rest level hrest hrank ih =>
    obtain ⟨entry, hentry⟩ := exists_entry memory
      (table.toNat + 8 * (address.toNat / 2 ^ shift (rank + 1) % 512))
    obtain ⟨path', hwalk⟩ :=
      walkFrom_cons hreads hrank htable rest path effective hentry
    rw [hwalk, Paging.translate, ← hentry]
    split
    · exact ⟨_, rfl, rfl⟩
    split
    · exact ⟨_, rfl, rfl⟩
    · have htarget : (entry &&& physicalAddressMask).toNat < 2 ^ 52 := by
        rw [toNat_frame]
        exact field_lt (by decide)
      obtain ⟨result, hresult, hpage⟩ := ih htarget path' (effective.inter (granted entry.toNat))
      refine ⟨result, hresult, ?_⟩
      rw [hpage, toNat_frame, Option.map_map]
      simp only [Function.comp_def, Translation.under, Permissions.inter_assoc]

end Walk

/-! ### The view -/

section View

variable {gdb : Gdb} {expression : String} {address cr3 cr4 : BitVec 64} {memory : Nat → UInt8}

/-- GDB evaluates the address and the paging registers, QEMU honours the switches of the memory
mode, and reads of physical memory succeed. -/
structure Serves (gdb : Gdb) (expression : String) (address cr3 cr4 : BitVec 64)
    (memory : Nat → UInt8) : Prop where
  address : ∃ value, gdb.parseAndEval expression = .ok value ∧ BitVec.ofInt 64 value = address
  cr3 : ∃ value, gdb.parseAndEval "$cr3" = .ok value ∧ BitVec.ofInt 64 value = cr3
  cr4 : ∃ value, gdb.parseAndEval "$cr4" = .ok value ∧ BitVec.ofInt 64 value = cr4
  switches : ∀ packet message, gdb.switch packet message = .ok ()
  reads : Reads gdb.readMemory memory

/-- The level at which a walk starts. -/
def topLevel (cr4 : BitVec 64) : Nat :=
  if cr4.getLsbD 12 then 4 else 3

/-- The table of the view: the one of CR3, and without its bit 12 when that does not map an
address of the upper half. -/
def rootOf (memory : Nat → UInt8) (address cr3 rank : Nat) : Nat :=
  let table := field cr3 12 52
  if translate (entryAt memory) address rank table = none ∧ address.testBit 63 = true ∧
      table.testBit 12 = true then
    field cr3 13 52
  else table

/-- What the view of an address says: the root it was translated from and the page that the
architecture finds there. -/
structure Shows (memory : Nat → UInt8) (address cr3 cr4 : BitVec 64) (view : View) : Prop where
  bits : view.virtualBits = virtualBits cr4
  root : view.root = rootOf memory address.toNat cr3.toNat (topLevel cr4)
  page : view.walk.page =
    (translate (entryAt memory) address.toNat (topLevel cr4) view.root).map (pageOf address.toNat)

/-- Bits of an address that are all `value`, seen in the address moved down to them. -/
lemma ushiftRight_eq_iff {bits : Nat} {word : BitVec 64} (value : Bool)
    (hword : ∀ i : Fin 64, word.getLsbD i = (value && decide (bits + i < 64))) :
    address >>> bits = word ↔ ∀ i, bits ≤ i → i < 64 → address.toNat.testBit i = value := by
  constructor
  · rintro rfl i hi hlt
    have hbit := hword ⟨i - bits, by omega⟩
    rwa [BitVec.getLsbD_ushiftRight, Nat.add_sub_of_le hi, decide_eq_true hlt, Bool.and_true,
      ← BitVec.testBit_toNat] at hbit
  · intro h
    refine BitVec.eq_of_getLsbD_eq fun i hi => ?_
    rw [BitVec.getLsbD_ushiftRight, hword ⟨i, hi⟩, ← BitVec.testBit_toNat]
    by_cases hhigh : bits + i < 64
    · rw [h _ (Nat.le_add_right bits i) hhigh, decide_eq_true hhigh, Bool.and_true]
    · rw [BitVec.testBit_toNat, BitVec.getLsbD_of_ge _ _ (by omega), decide_eq_false hhigh,
        Bool.and_false]

/-- The test of the command: the bits above a virtual address are all clear or all set. -/
lemma upper_iff (cr4 : BitVec 64) :
    (address >>> virtualBits cr4 = 0#64 ∨
        address >>> virtualBits cr4 = 1#64 <<< (64 - virtualBits cr4) - 1#64) ↔
      Extended (virtualBits cr4) address.toNat := by
  have hbits : virtualBits cr4 = 57 ∨ virtualBits cr4 = 48 := ite_eq_or_eq _ _ _
  generalize virtualBits cr4 = bits at hbits ⊢
  have hones : ∀ i : Fin 64, (1#64 <<< (64 - bits) - 1#64).getLsbD i =
      (true && decide (bits + i < 64)) := by
    obtain rfl | rfl := hbits <;> decide
  rw [ushiftRight_eq_iff false (by simp), ushiftRight_eq_iff true hones]
  constructor
  · rintro (h | h) i hi hlt
    · rw [h i hi hlt, h 63 (by omega) (by decide)]
    · rw [h i hi hlt, h 63 (by omega) (by decide)]
  · intro h
    cases hsign : address.toNat.testBit 63 with
    | false => exact .inl fun i hi hlt => (h i hi hlt).trans hsign
    | true => exact .inr fun i hi hlt => (h i hi hlt).trans hsign

/-- The command refuses addresses whose bits above the virtual address differ, and answers the
others by its walks. -/
lemma Serves.kernelPageTable_eq (h : Serves gdb expression address cr3 cr4 memory) :
    gdb.kernelPageTable expression =
      if address >>> virtualBits cr4 = 0#64 ∨
          address >>> virtualBits cr4 = 1#64 <<< (64 - virtualBits cr4) - 1#64 then
        Payload.of (gdb.view address (cr3 &&& physicalAddressMask) (virtualBits cr4))
      else .error (Failure.text ⟨"ValueError",
        "non-canonical " ++ toString (virtualBits cr4) ++ "-bit virtual address"⟩) := by
  obtain ⟨value, haddress, rfl⟩ := h.address
  obtain ⟨table, hcr3, rfl⟩ := h.cr3
  obtain ⟨mode, hcr4, rfl⟩ := h.cr4
  rw [Gdb.kernelPageTable, Gdb.locate, haddress, hcr3, hcr4, h.switches]
  simp only [bind, Except.bind]
  split_ifs with hupper
  · rfl
  · rfl

lemma toNat_paired :
    (cr3 &&& physicalAddressMask &&& ~~~(1#64 <<< 12)).toNat = field cr3.toNat 13 52 := by
  rw [BitVec.and_assoc]
  exact toNat_and_of_bits (by decide)

/-- The paired table is another one exactly when the current one has bit 12. -/
lemma paired_ne_iff :
    cr3 &&& physicalAddressMask &&& ~~~(1#64 <<< 12) ≠ cr3 &&& physicalAddressMask ↔
      (field cr3.toNat 12 52).testBit 12 = true := by
  rw [← BitVec.toNat_inj.ne, toNat_paired, toNat_frame, Ne, not_iff_comm, Bool.not_eq_true]
  constructor
  · intro hclear
    refine Nat.eq_of_testBit_eq fun i => ?_
    by_cases hi : i = 12
    · subst hi
      rw [hclear, testBit_field, decide_eq_false (by decide), Bool.false_and]
    · rw [testBit_field, testBit_field]
      congr 2
      apply propext
      omega
  · intro hsame
    rw [← hsame, testBit_field, decide_eq_false (by decide), Bool.false_and]

/-- The view shows the translation of the architecture from the root it reports. -/
lemma Serves.view (h : Serves gdb expression address cr3 cr4 memory) :
    ∃ view, gdb.view address (cr3 &&& physicalAddressMask) (virtualBits cr4) = .ok view ∧
      Shows memory address cr3 cr4 view := by
  have hwalk (root : BitVec 64) (hroot : root.toNat < 2 ^ 52) :
      ∃ result, walk gdb.readMemory root address (pagingLevels (virtualBits cr4)) = .ok result ∧
        result.page = (translate (entryAt memory) address.toNat (topLevel cr4) root.toNat).map
          (pageOf address.toNat) :=
    walkFrom_page h.reads (descending_pagingLevels cr4) hroot [] ⟨true, true, true⟩
  obtain ⟨result, hresult, hpage⟩ := hwalk (cr3 &&& physicalAddressMask)
    (by rw [toNat_frame]; exact field_lt (by decide))
  obtain ⟨paired, hpaired, hpairedPage⟩ := hwalk (cr3 &&& physicalAddressMask &&& ~~~(1#64 <<< 12))
    (by rw [toNat_paired]; exact field_lt (by decide))
  have hupper : address >>> 63 ≠ 0#64 ↔ address.toNat.testBit 63 = true := by
    rw [Ne, ushiftRight_eq_iff false (by simp), ← Bool.not_eq_false, not_iff_not]
    constructor
    · exact fun h => h 63 le_rfl (by decide)
    · intro h i hi hlt
      rwa [show i = 63 by omega]
  have hunmapped : result.page = none ↔
      translate (entryAt memory) address.toNat (topLevel cr4) (field cr3.toNat 12 52) = none := by
    rw [hpage, Option.map_eq_none_iff, toNat_frame]
  rw [Gdb.view, h.switches, hresult]
  simp only [bind, Except.bind, hpaired, hunmapped, hupper, paired_ne_iff]
  split_ifs with hretry
  · exact ⟨_, rfl, rfl, toNat_paired.trans (if_pos hretry).symm, hpairedPage⟩
  · exact ⟨_, rfl, rfl, toNat_frame.trans (if_neg hretry).symm, hpage⟩

/-- The command refuses an address exactly when it is not canonical, but for the addresses whose
sign bit alone differs from the bits above. A canonical address is shown with the
translation of the architecture. -/
theorem page_table_view_exact (h : Serves gdb expression address cr3 cr4 memory) :
    (((gdb.kernelPageTable expression).isError = true ↔
        ¬ Canonical (virtualBits cr4) address.toNat) ↔
      (Extended (virtualBits cr4) address.toNat → Canonical (virtualBits cr4) address.toNat)) ∧
    (Canonical (virtualBits cr4) address.toNat →
      ∃ view, gdb.kernelPageTable expression = .view view ∧
        Shows memory address cr3 cr4 view) := by
  obtain ⟨view, hview, hshown⟩ := h.view
  rw [h.kernelPageTable_eq, hview]
  by_cases hextended : Extended (virtualBits cr4) address.toNat
  · rw [if_pos ((upper_iff cr4).mpr hextended)]
    refine ⟨?_, fun _ => ⟨view, rfl, hshown⟩⟩
    simp [Payload.of, Payload.isError, hextended]
  · rw [if_neg (mt (upper_iff cr4).mp hextended)]
    have hcanonical := mt Canonical.extended hextended
    refine ⟨?_, fun hc => absurd hc hcanonical⟩
    simp [Payload.isError, hextended, hcanonical]

/-- Memory in which every entry is present and writable and has the page-size bit, so that a walk
over four levels ends in a page of 1 GiB. -/
def gigabytes (position : Nat) : UInt8 :=
  if position % 8 = 0 then 0x83 else 0

/-- A target with this memory that stopped at an address. -/
def stoppedAt (address : Int) : Gdb where
  parseAndEval expression := .ok (if expression = "$rip" then address else 0)
  execute _ := .ok "received: \"OK\""
  readMemory start size := .ok (bytesAt gigabytes start.toNat size)

theorem gigabyte_page_shown :
    ∃ view, (stoppedAt 0x12345).kernelPageTable "$rip" = .view view ∧
      view.walk.page = some ⟨0x12345, 2 ^ 30, 0x12345, ⟨true, false, true⟩⟩ := by
  have hserves : Serves (stoppedAt 0x12345) "$rip" 0x12345 0 0 gigabytes :=
    ⟨⟨_, rfl, rfl⟩, ⟨_, rfl, rfl⟩, ⟨_, rfl, rfl⟩, fun _ _ => rfl, fun _ _ => rfl⟩
  have hcanonical : Canonical (virtualBits 0) (0x12345#64).toNat := by
    intro i hi hlt
    revert i
    decide
  obtain ⟨view, hview, -, hroot, hpage⟩ :=
    (page_table_view_exact hserves).2 hcanonical
  refine ⟨view, hview, hpage.trans ?_⟩
  rw [hroot]
  decide +kernel

/-- An address with the sign bit set and the bits above it clear is answered. -/
theorem noncanonical_address_shown :
    ((stoppedAt 0x800000000000).kernelPageTable "$rip").isError = false ∧
      ¬ Canonical (virtualBits 0) 0x800000000000 := by
  refine ⟨by decide +kernel, fun h => ?_⟩
  exact absurd (h 47 (by decide) (by decide)) (by decide)

end View

end GdbAi.PageTables
