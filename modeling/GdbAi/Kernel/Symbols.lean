import Mathlib.Algebra.Group.Int.Defs
import Mathlib.Algebra.Group.Nat.Defs
import Mathlib.Data.List.Lex
import Mathlib.Order.Nat
import GdbAi.Library.Runs

/-!
# The names of kallsyms

The kernel stores its symbol names as a chain of entries, each a length and that many token
numbers. The start of the chain is found by a search backwards: an array holds for every offset
from the markers downwards how many entries lead from there to an entry without tokens. The names
are then decoded forwards from the start. The two passes read a length in the same way exactly
when the kernel knows lengths of two bytes or no length looks like one.
-/

namespace GdbAi.Kallsyms

/-- The bytes of a kernel image. -/
structure Image where
  size : Nat
  byte : Nat → UInt8

variable {image : Image} {version : List Nat} {tokens : UInt8 → List UInt8}
  {markers : Nat} {valid : List Int}

/-- `image[position]`. -/
def byteAt (image : Image) (position : Nat) : Except String Nat :=
  if position < image.size then .ok (image.byte position).toNat
  else .error "IndexError: index out of range"

/-- `image[start:start + length]`. -/
def slice (image : Image) (start length : Nat) : List UInt8 :=
  (List.range' start (min length (image.size - start))).map image.byte

/-! ### `_names_start` -/

def symbolTypes : List UInt8 :=
  "-?ABCDGINPRSTUVWabcdginprstuvw".toList.map fun kind => .ofNat kind.toNat

/-- A length that starts at an offset, and the bytes that hold it: two when the kernel knows such
lengths and the first byte says so. -/
def readLength (image : Image) (version : List Nat) (offset : Nat) :
    Except String (Nat × Nat) := do
  let length ← byteAt image offset
  if [6, 1, 0] ≤ version ∧ length &&& 0x80 ≠ 0 then
    return ((← byteAt image (offset + 1)) <<< 7 ||| length &&& 0x7f, 2)
  return (length, 1)

/-- `valid.append(…)` into an array of C integers. The array is kept with its last element
first. -/
def append (valid : List Int) (value : Int) : Except String (List Int) :=
  if value < 2 ^ 31 then .ok (value :: valid)
  else .error "OverflowError: signed integer is greater than maximum"

/-- The body of the inner loop: the value for the next offset downwards. -/
def validate (image : Image) (version : List Nat) (markers : Nat) (valid : List Int) :
    Except String (List Int) := do
  let offset := markers - valid.length
  let (length, header) ← readLength image version offset
  if length = 0 then append valid 0
  else if length ≥ markers - offset - (header - 1) then append valid (-1)
  else
    match valid[length + header - 1]? with
    | some following => append valid (if following < 0 then -1 else following + 1)
    | none => append valid (-1)

def validateTimes (image : Image) (version : List Nat) (markers : Nat) :
    Nat → List Int → Except String (List Int)
  | 0, valid => .ok valid
  | times + 1, valid => do
    validateTimes image version markers times (← validate image version markers valid)

/-- `struct.pack("<I", …)`. -/
def packWord (value : Nat) : List UInt8 :=
  [.ofNat value, .ofNat (value / 2 ^ 8), .ofNat (value / 2 ^ 16), .ofNat (value / 2 ^ 24)]

/-- `image.rfind(pattern, lower, upper)`. -/
def rfind (image : Image) (pattern : List UInt8) (lower upper : Nat) : Option Nat :=
  (List.range' lower (upper + 1 - pattern.length - lower)).reverse.find? fun position =>
    slice image position pattern.length == pattern

/-- The token that starts the name at a position, when it lies before the markers. -/
def firstToken (image : Image) (tokens : UInt8 → List UInt8) (markers position : Nat) :
    Except String (List UInt8) := do
  if position + 1 < markers then return tokens (.ofNat (← byteAt image (position + 1)))
  return []

/-- The outer loop over the positions that remain. -/
def search (image : Image) (version : List Nat) (tokens : UInt8 → List UInt8)
    (markers : Nat) : List Nat → List Int → Except String (Nat × Nat × Nat)
  | [], _ => throw "ValueError: kallsyms names were not found"
  | position :: rest, valid => do
    let token ← firstToken image tokens markers position
    if (token.head?.all fun kind => kind ∉ symbolTypes) then
      return ← search image version tokens markers rest valid
    let valid ← validateTimes image version markers (markers + 1 - position - valid.length) valid
    match valid.head? with
    | none => throw "IndexError: array index out of range"
    | some count =>
      if count ≥ 256 then
        match rfind image (packWord count.toNat) (position - 256) position with
        | some countAddress => return (position, countAddress, count.toNat)
        | none => search image version tokens markers rest valid
      else search image version tokens markers rest valid

/-- The positions from a candidate downwards in steps of four. -/
def positions (candidate : Int) : List Nat :=
  (List.range (candidate.toNat / 4 + 1)).map fun i => candidate.toNat - 4 * i

def namesStart (image : Image) (version : List Nat) (tokens : UInt8 → List UInt8)
    (markers : Nat) (candidate : Int) : Except String (Nat × Nat × Nat) :=
  search image version tokens markers (if candidate < 0 then [] else positions candidate) []

/-! ### The decoding loop -/

/-- An entry as the decoding loop reads it. -/
structure Entry where
  offset : Nat
  length : Nat
  finish : Nat
  expanded : List UInt8
deriving DecidableEq, Repr

/-- One turn of the loop. The length has two bytes whenever the first byte says so. -/
def decodeEntry (image : Image) (tokens : UInt8 → List UInt8) (offset : Nat) :
    Except String Entry := do
  let first ← byteAt image offset
  let (length, start) ←
    if first &&& 0x80 ≠ 0 then
      pure ((← byteAt image (offset + 1)) <<< 7 ||| first &&& 0x7f, offset + 2)
    else pure (first, offset + 1)
  return ⟨offset, length, start + length, (slice image start length).flatMap tokens⟩

/-- The entries of the loop from a position on, and the position behind them. -/
def decode (image : Image) (tokens : UInt8 → List UInt8) :
    Nat → Nat → Except String (List Entry × Nat)
  | 0, position => .ok ([], position)
  | count + 1, position => do
    let entry ← decodeEntry image tokens position
    let (entries, finish) ← decode image tokens count entry.finish
    return (entry :: entries, finish)

lemma length_decode {count position finish : Nat} {entries : List Entry}
    (h : decode image tokens count position = .ok (entries, finish)) :
    entries.length = count := by
  induction count generalizing position entries with
  | zero =>
    cases h
    rfl
  | succ count ih =>
    obtain ⟨entry, -, h⟩ := except_bind_ok h
    obtain ⟨⟨rest, behind⟩, hrest, h⟩ := except_bind_ok h
    cases h
    rw [List.length_cons, ih hrest]

structure Symbol where
  name : String
  kind : UInt8
  address : Int
deriving DecidableEq, Repr

/-- `bytes.decode("ascii", "replace")`. -/
def decodeAscii (bytes : List UInt8) : String :=
  .ofList (bytes.map fun byte => if byte < 0x80 then .ofNat byte.toNat else '�')

/-- The wanted symbols among the entries. `address` looks an index up in the table of
addresses. -/
def symbols (address : Nat → Int) (wanted : List String) (entries : List Entry) : List Symbol :=
  entries.zipIdx.filterMap fun (entry, index) =>
    match entry.expanded with
    | [] => none
    | kind :: name =>
      if decodeAscii name ∈ wanted then some ⟨decodeAscii name, kind, address index⟩ else none

/-! ### The chain that is counted -/

/-- From an offset a number of entries leads to an entry without tokens, each of them with tokens
and before the markers. -/
inductive Counted (image : Image) (version : List Nat) (markers : Nat) : Nat → Nat → Prop where
  | stop {offset header : Nat} :
      readLength image version offset = .ok (0, header) → Counted image version markers offset 0
  | entry {offset length header count : Nat} :
      readLength image version offset = .ok (length, header) → 0 < length →
      offset + header + length ≤ markers →
      Counted image version markers (offset + header + length) count →
      Counted image version markers offset (count + 1)

lemma readLength_header {offset length header : Nat}
    (h : readLength image version offset = .ok (length, header)) : header = 1 ∨ header = 2 := by
  obtain ⟨first, -, h⟩ := except_bind_ok h
  split at h
  · obtain ⟨second, -, h⟩ := except_bind_ok h
    cases h
    exact .inr rfl
  · cases h
    exact .inl rfl

/-- Every count in the array is right for its offset. -/
def Counts (image : Image) (version : List Nat) (markers : Nat) : List Int → Prop
  | [] => True
  | value :: rest =>
    (0 ≤ value → Counted image version markers (markers - rest.length) value.toNat) ∧
      Counts image version markers rest

/-- A count is found at the distance of its offset from the one that comes next. -/
lemma Counts.counted (h : Counts image version markers valid) {i : Nat} {value : Int}
    (hi : valid[i]? = some value) (hvalue : 0 ≤ value) :
    Counted image version markers (markers - (valid.length - 1 - i)) value.toNat := by
  induction valid generalizing i with
  | nil => cases hi
  | cons first rest ih =>
    cases i with
    | zero =>
      cases hi
      exact h.1 hvalue
    | succ i =>
      have hrest := ih h.2 hi
      rwa [List.length_cons, show rest.length + 1 - 1 - (i + 1) = rest.length - 1 - i by omega]

lemma append_ok {value : Int} {valid' : List Int} (h : append valid value = .ok valid') :
    valid' = value :: valid := by
  unfold append at h
  split at h
  · cases h
    rfl
  · cases h

/-- One turn of the inner loop counts the next offset downwards. -/
lemma Counts.validate (h : Counts image version markers valid) (hlength : valid.length ≤ markers)
    {valid' : List Int} (hstep : Kallsyms.validate image version markers valid = .ok valid') :
    Counts image version markers valid' ∧ valid'.length = valid.length + 1 := by
  obtain ⟨⟨length, header⟩, hread, hstep⟩ := except_bind_ok hstep
  have hextend {value : Int} (happend : append valid value = .ok valid')
      (hvalue : 0 ≤ value →
        Counted image version markers (markers - valid.length) value.toNat) :
      Counts image version markers valid' ∧ valid'.length = valid.length + 1 := by
    obtain rfl := append_ok happend
    exact ⟨⟨hvalue, h⟩, rfl⟩
  simp only at hstep
  split at hstep
  · rename_i hzero
    subst hzero
    exact hextend hstep fun _ => .stop hread
  split at hstep
  · exact hextend hstep fun hvalue => absurd hvalue (by decide)
  rename_i hpositive havailable
  split at hstep
  · rename_i following hfollowing
    split at hstep
    · exact hextend hstep fun hvalue => absurd hvalue (by decide)
    · rename_i hnonneg
      refine hextend hstep fun _ => ?_
      have hheader := readLength_header hread
      have hinside := (List.getElem?_eq_some_iff.mp hfollowing).1
      have hnext := h.counted hfollowing (by omega)
      rw [show markers - (valid.length - 1 - (length + header - 1)) =
        markers - valid.length + header + length by omega] at hnext
      rw [show (following + 1).toNat = following.toNat + 1 by omega]
      exact .entry hread (by omega) (by omega) hnext
  · exact hextend hstep fun hvalue => absurd hvalue (by decide)

lemma Counts.validateTimes (h : Counts image version markers valid) {times : Nat}
    (hlength : valid.length + times ≤ markers + 1) {valid' : List Int}
    (hrun : Kallsyms.validateTimes image version markers times valid = .ok valid') :
    Counts image version markers valid' ∧ valid'.length = valid.length + times := by
  induction times generalizing valid with
  | zero =>
    cases hrun
    exact ⟨h, rfl⟩
  | succ times ih =>
    obtain ⟨next, hstep, hrun⟩ := except_bind_ok hrun
    obtain ⟨hnext, hone⟩ := h.validate (by omega) hstep
    obtain ⟨hcounts, hall⟩ := ih hnext (by omega) hrun
    exact ⟨hcounts, by omega⟩

/-- The search returns a position from which its count of entries leads to the end. The array is
kept between the candidates, so it never reaches below the positions that remain. -/
lemma Counts.search (h : Counts image version markers valid) {remaining : List Nat}
    (hsorted : remaining.Pairwise (· ≥ ·))
    (habove : ∀ position ∈ remaining, position < markers → valid.length + position ≤ markers + 1)
    {start countAddress count : Nat}
    (hfound : Kallsyms.search image version tokens markers remaining valid =
      .ok (start, countAddress, count)) :
    Counted image version markers start count := by
  induction remaining generalizing valid with
  | nil => cases hfound
  | cons position rest ih =>
    obtain ⟨hbelow, hsorted⟩ := List.pairwise_cons.mp hsorted
    obtain ⟨token, htoken, hfound⟩ := except_bind_ok hfound
    split at hfound
    · exact ih h hsorted (fun other hother => habove other (.tail _ hother)) hfound
    rename_i hkind
    have hposition : position + 1 < markers := by
      by_contra hlate
      rw [firstToken, if_neg hlate] at htoken
      cases htoken
      exact hkind rfl
    have hroom := habove position (.head _) (by omega)
    obtain ⟨valid', hrun, hfound⟩ := except_bind_ok hfound
    obtain ⟨hcounts, hlength⟩ := h.validateTimes (by omega) hrun
    have hcontinue := ih hcounts hsorted fun other hother _ => by
      have := hbelow other hother
      omega
    split at hfound
    · cases hfound
    rename_i value hhead
    split at hfound
    · rename_i hlarge
      split at hfound
      · cases hfound
        rw [List.head?_eq_getElem?] at hhead
        have hcounted := hcounts.counted hhead (by omega)
        rwa [show markers - (valid'.length - 1 - 0) = start by omega] at hcounted
      · exact hcontinue hfound
    · exact hcontinue hfound

lemma counted_of_namesStart {candidate : Int} {start countAddress count : Nat}
    (h : namesStart image version tokens markers candidate = .ok (start, countAddress, count)) :
    Counted image version markers start count := by
  unfold namesStart at h
  split at h
  · cases h
  · have hnil : Counts image version markers [] := trivial
    refine hnil.search ?_ (fun position _ hlt => by rw [List.length_nil]; omega) h
    refine List.pairwise_map.mpr (List.pairwise_lt_range.imp fun hlt => ?_)
    omega

/-! ### Decoding -/

/-- The entries that are counted from an offset on, each by its offset and the one behind it. -/
def chain (image : Image) (version : List Nat) : Nat → Nat → List (Nat × Nat)
  | 0, _ => []
  | count + 1, offset =>
    match readLength image version offset with
    | .ok (length, header) =>
      (offset, offset + header + length) ::
        chain image version count (offset + header + length)
    | .error _ => []

/-- An entry by its offset and the one behind it. -/
def Entry.place (entry : Entry) : Nat × Nat := (entry.offset, entry.finish)

/-- The decoding loop reads the length at an offset as the search did: the kernel knows lengths
of two bytes, or this one does not look like one. -/
def Plain (image : Image) (version : List Nat) (offset : Nat) : Prop :=
  [6, 1, 0] ≤ version ∨ image.byte offset < 0x80

/-- A byte below 0x80 has no flag of a length of two bytes. -/
lemma byteAt_small {offset first : Nat} (h : byteAt image offset = .ok first)
    (hsmall : image.byte offset < 0x80) : first &&& 0x80 = 0 := by
  unfold byteAt at h
  split at h
  · cases h
    have hbits : ∀ value < 0x80, value &&& 0x80 = 0 := by decide
    exact hbits _ (UInt8.lt_iff_toNat_lt.mp hsmall)
  · cases h

/-- Every other byte has it. -/
lemma byteAt_large {offset first : Nat} (h : byteAt image offset = .ok first)
    (hlarge : ¬ image.byte offset < 0x80) : 0x80 ≤ first ∧ first < 256 ∧ first &&& 0x80 ≠ 0 := by
  unfold byteAt at h
  split at h
  · cases h
    have hbits : ∀ value < 256, 0x80 ≤ value → value &&& 0x80 ≠ 0 := by decide +kernel
    have hfirst : 0x80 ≤ (image.byte offset).toNat :=
      Nat.le_of_not_lt fun hsmall => hlarge (UInt8.lt_iff_toNat_lt.mpr hsmall)
    have hbound := (image.byte offset).toNat_lt
    exact ⟨hfirst, hbound, hbits _ hbound hfirst⟩
  · cases h

/-- A length that both read alike gives the same entry. -/
lemma Plain.decodeEntry (tokens : UInt8 → List UInt8) {offset length header : Nat}
    (h : Plain image version offset)
    (hread : readLength image version offset = .ok (length, header)) :
    ∃ expanded, Kallsyms.decodeEntry image tokens offset =
      .ok ⟨offset, length, offset + header + length, expanded⟩ := by
  obtain ⟨first, hfirst, hread⟩ := except_bind_ok hread
  unfold Kallsyms.decodeEntry
  rw [hfirst]
  split at hread
  · rename_i hbig
    obtain ⟨second, hsecond, hread⟩ := except_bind_ok hread
    cases hread
    rw [hsecond]
    simp only [bind, Except.bind, pure, Except.pure, if_pos hbig.2]
    exact ⟨_, rfl⟩
  · rename_i hsmall
    cases hread
    have hplain : ¬ length &&& 0x80 ≠ 0 := by
      intro hbit
      have hold : ¬ [6, 1, 0] ≤ version := fun hversion => hsmall ⟨hversion, hbit⟩
      exact hbit (byteAt_small hfirst (h.resolve_left hold))
    simp only [bind, Except.bind, pure, Except.pure, if_neg hplain]
    exact ⟨_, rfl⟩

/-- A length byte that only the decoding loop takes for the first of two ends the entry at another
offset, whatever the second byte is. -/
lemma plain_of_decodeEntry {offset length header : Nat} {entry : Entry}
    (hread : readLength image version offset = .ok (length, header))
    (hentry : Kallsyms.decodeEntry image tokens offset = .ok entry)
    (hfinish : entry.finish = offset + header + length) : Plain image version offset := by
  by_contra hplain
  obtain ⟨hold, hbig⟩ := not_or.mp hplain
  obtain ⟨first, hfirst, hread⟩ := except_bind_ok hread
  rw [if_neg fun hnew => hold hnew.1] at hread
  cases hread
  obtain ⟨hlarge, hbound, hbit⟩ := byteAt_large hfirst hbig
  unfold Kallsyms.decodeEntry at hentry
  rw [hfirst] at hentry
  simp only [bind, Except.bind, if_pos hbit] at hentry
  split at hentry
  · cases hentry
  rename_i second hsecond
  cases hentry
  have hlow : length &&& 0x7f = length % 2 ^ 7 := Nat.and_two_pow_sub_one_eq_mod length 7
  have hsum := Nat.shiftLeft_add_eq_or_of_lt (Nat.mod_lt length (Nat.two_pow_pos 7)) second
  rw [hlow, ← hsum, Nat.shiftLeft_eq] at hfinish
  simp only at hfinish
  omega

/-- The decoding loop follows the chain that was counted. -/
lemma Counted.decode {offset count : Nat} (h : Counted image version markers offset count)
    (hplain : ∀ place ∈ chain image version count offset, Plain image version place.1) :
    ∃ entries finish, Kallsyms.decode image tokens count offset = .ok (entries, finish) ∧
      entries.map Entry.place = chain image version count offset ∧
      (∀ entry ∈ entries, 0 < entry.length ∧ entry.finish ≤ markers) ∧
      ∃ header, readLength image version finish = .ok (0, header) := by
  induction h with
  | stop hread => exact ⟨[], _, rfl, rfl, List.forall_mem_nil _, _, hread⟩
  | @entry offset length header count hread hpositive hinside hrest ih =>
    rw [chain, hread] at hplain ⊢
    obtain ⟨expanded, hentry⟩ := (hplain _ (.head _)).decodeEntry tokens hread
    obtain ⟨entries, finish, hentries, hplaces, hall, hend⟩ :=
      ih fun place hplace => hplain place (.tail _ hplace)
    refine ⟨⟨offset, length, offset + header + length, expanded⟩ :: entries, finish, ?_, ?_, ?_,
      hend⟩
    · rw [Kallsyms.decode, hentry]
      change (Kallsyms.decode image tokens count (offset + header + length) >>= _) = _
      rw [hentries]
      rfl
    · rw [List.map_cons, hplaces]
      rfl
    · exact List.forall_mem_cons.mpr ⟨⟨hpositive, hinside⟩, hall⟩

/-- A loop that has followed the chain has read every length of it as the search did. -/
lemma Counted.plain {offset count finish : Nat} {entries : List Entry}
    (h : Counted image version markers offset count)
    (hdecode : Kallsyms.decode image tokens count offset = .ok (entries, finish))
    (hplaces : entries.map Entry.place = chain image version count offset) :
    ∀ place ∈ chain image version count offset, Plain image version place.1 := by
  induction h generalizing entries with
  | stop => exact List.forall_mem_nil _
  | @entry offset length header count hread hpositive hinside hrest ih =>
    obtain ⟨entry, hentry, hdecode⟩ := except_bind_ok hdecode
    obtain ⟨⟨rest, behind⟩, hrest, hdecode⟩ := except_bind_ok hdecode
    cases hdecode
    rw [chain, hread] at hplaces ⊢
    obtain ⟨hplace, hplaces⟩ := List.cons.inj hplaces
    have hfinish : entry.finish = offset + header + length := congrArg Prod.snd hplace
    rw [hfinish] at hrest
    exact List.forall_mem_cons.mpr
      ⟨plain_of_decodeEntry hread hentry hfinish, ih hrest hplaces⟩

/-- A wanted symbol is looked up at the position of the entry that holds its name. -/
lemma mem_symbols {address : Nat → Int} {wanted : List String} {entries : List Entry}
    {symbol : Symbol} (h : symbol ∈ symbols address wanted entries) :
    ∃ index entry name, entries[index]? = some entry ∧ entry.expanded = symbol.kind :: name ∧
      symbol.name = decodeAscii name ∧ symbol.address = address index := by
  obtain ⟨⟨entry, index⟩, hmem, hsymbol⟩ := List.mem_filterMap.mp h
  have hentry := List.mk_mem_zipIdx_iff_getElem?.mp hmem
  simp only at hsymbol
  split at hsymbol
  · cases hsymbol
  · rename_i kind name hexpanded
    split at hsymbol
    · cases hsymbol
      exact ⟨index, entry, name, hentry, hexpanded, rfl, rfl⟩
    · cases hsymbol

/-- The names are decoded along the chain that the search counted exactly when both read the
lengths of its entries alike.  Then every entry has tokens and ends before the markers, the loop
stops at an entry without tokens, and a symbol is looked up at the position of its name in the
chain. -/
theorem names_decoded_along_chain_iff {candidate : Int} {start countAddress count : Nat}
    (h : namesStart image version tokens markers candidate = .ok (start, countAddress, count)) :
    (∃ entries finish, decode image tokens count start = .ok (entries, finish) ∧
      entries.map Entry.place = chain image version count start ∧ entries.length = count ∧
      (∀ entry ∈ entries, 0 < entry.length ∧ entry.finish ≤ markers) ∧
      (∃ header, readLength image version finish = .ok (0, header)) ∧
      ∀ address wanted, ∀ symbol ∈ symbols address wanted entries, ∃ index entry name,
        entries[index]? = some entry ∧ entry.expanded = symbol.kind :: name ∧
        symbol.name = decodeAscii name ∧ symbol.address = address index) ↔
      ∀ place ∈ chain image version count start, Plain image version place.1 := by
  have hcounted := counted_of_namesStart h
  constructor
  · rintro ⟨entries, finish, hdecode, hplaces, -⟩
    exact hcounted.plain hdecode hplaces
  · intro hplain
    obtain ⟨entries, finish, hdecode, hplaces, hentries, hend⟩ := hcounted.decode hplain
    exact ⟨entries, finish, hdecode, hplaces, length_decode hdecode, hentries, hend,
      fun _ _ _ hsymbol => mem_symbols hsymbol⟩

/-- A table of 257 names of one token each behind their count. -/
def shortNames : Image where
  size := 519
  byte position := if position = 2 ∨ position = 3 ∨ position = 518 then 0 else 1

theorem short_names_decoded :
    ∃ entries finish, decode shortNames (fun _ => [0x54]) 257 4 = .ok (entries, finish) ∧
      entries.length = 257 := by
  have hstart : namesStart shortNames [6, 6, 0] (fun _ => [0x54]) 518 4 = .ok (4, 0, 257) := by
    decide +kernel
  obtain ⟨entries, finish, hdecode, -, hlength, -⟩ :=
    (names_decoded_along_chain_iff hstart).mpr fun _ _ => .inl (by decide)
  exact ⟨entries, finish, hdecode, hlength⟩

/-- The same with a first name of 128 tokens. -/
def longName : Image where
  size := 646
  byte position :=
    if position = 4 then 128 else if position < 2 ∨ 132 < position ∧ position < 645 then 1 else 0

/-- On a kernel before 6.1 the search reads the length of the long name in one byte, and the
decoding loop in two. -/
theorem long_name_misread :
    namesStart longName [5, 15, 0] (fun _ => [0x54]) 645 4 = .ok (4, 0, 257) ∧
      ∀ entries finish, decode longName (fun _ => [0x54]) 257 4 = .ok (entries, finish) →
        ¬ ∀ entry ∈ entries, 0 < entry.length := by
  refine ⟨by decide +kernel, fun entries finish hdecode hpositive => ?_⟩
  obtain ⟨entry, hentry, hrest⟩ := except_bind_ok hdecode
  obtain ⟨⟨rest, behind⟩, -, hrest⟩ := except_bind_ok hrest
  cases hrest
  have hzero : decodeEntry longName (fun _ => [0x54]) 4 = .ok ⟨4, 0, 6, []⟩ := by decide
  rw [hentry] at hzero
  cases hzero
  exact absurd (hpositive _ (.head _)) (Nat.lt_irrefl 0)

end GdbAi.Kallsyms
