import GdbAi.Gateway.MemoryReads

/-!
# Chunked memory reads

`read_memory_bytes` of `gateway/operations/memory.rs`.  A read of a long range is cut into chunks of
64 KiB.  GDB answers each chunk with its readable blocks, the gateway keeps the blocks up to the
first hole, and a chunk that comes back short ends the read.  Against a memory that stays fixed
during the read, all of this is one unchunked read: the result is the longest readable prefix of the
range.
-/

namespace GdbAi

namespace ChunkedReads

/-! ### One reply -/

/-- The error of `hex_decode`. -/
def malformedHex : Error :=
  { code := .gdbError, message := "GDB returned malformed hexadecimal bytes" }

/-- `hex_nibble`. -/
def hexNibble (byte : UInt8) : Except Error UInt8 :=
  if 48 ≤ byte && byte ≤ 57 then .ok (byte - 48)
  else if 97 ≤ byte && byte ≤ 102 then .ok (byte - 97 + 10)
  else if 65 ≤ byte && byte ≤ 70 then .ok (byte - 65 + 10)
  else .error malformedHex

/-- The bytes of a text of hexadecimal pairs. -/
def hexPairs : Bytes → Except Error Bytes
  | high :: low :: rest => do
    let high ← hexNibble high
    let low ← hexNibble low
    let bytes ← hexPairs rest
    .ok (((high <<< 4) ||| low) :: bytes)
  | _ => .ok []

/-- `hex_decode`. -/
def hexDecode (value : String) : Except Error Bytes :=
  if (utf8 value).length % 2 ≠ 0 then .error malformedHex else hexPairs (utf8 value)

/-- `aggregate_items`. -/
def aggregateItems (value : MiValue) (resultName : String) : List (List MiResult) :=
  match value with
  | .valueList values => values.filterMap MiValue.results
  | .resultList results =>
    (results.filter fun result => result.1 = resultName).filterMap fun result => result.2.results
  | .tuple results => [results]
  | .const _ => []

/-- The field of a memory block. -/
def blockField (item : List MiResult) (name : String) : Except Error String :=
  match MiResult.findStr item name with
  | some text => .ok text
  | none => .error { code := .gdbError, message := "memory block has no " ++ name }

/-- The loop of `memory_contents` over the blocks of a reply. -/
def blocksLoop (maximum : ℕ) : List (List MiResult) → Bytes → Except Error Bytes
  | [], bytes => .ok bytes
  | item :: items, bytes => do
    let offset ← Access.parseAddress (← blockField item "offset")
    -- Behind a hole the bytes would shift to other addresses.
    if offset ≠ bytes.length then .ok bytes
    else do
      let contents ← hexDecode (← blockField item "contents")
      if contents.length > maximum - bytes.length then
        .error { code := .gdbError, message := "GDB memory response exceeds the requested length" }
      else blocksLoop maximum items (bytes ++ contents)

/-- `memory_contents`. -/
def memoryContents (record : MiRecord) (maximum : ℕ) : Except Error Bytes :=
  match MiResult.find record.results "memory" with
  | none => .error { code := .gdbError, message := "GDB memory response has no memory field" }
  | some memory => blocksLoop maximum (aggregateItems memory "memory") []

/-! ### The read -/

/-- `require_complete_read`. -/
def requireCompleteRead (actual requested : ℕ) (allowPartial : Bool) : Except Error Unit :=
  if !allowPartial && actual ≠ requested then
    .error
      { code := .partialRead
        message := "requested " ++ toString requested ++ " bytes, read " ++ toString actual }
  else .ok ()

/-- `recoverable_partial_read`. -/
def recoverablePartialRead (code : ErrorCode) (allowPartial : Bool) (captured : ℕ) : Bool :=
  allowPartial && captured > 0 && code = .gdbError

/-- `u64::checked_add` with the error of a range that leaves the address space. -/
def addressAdd (start offset : ℕ) : Except Error ℕ :=
  if start + offset < 2 ^ 64 then .ok (start + offset)
  else .error { code := .invalidArgument, message := "memory range overflows address space" }

/-- `validate_memory_range`. -/
def validateMemoryRange (start length : ℕ) : Except Error Unit := do
  let _ ← addressAdd start (length - 1)
  .ok ()

/-- What a read runs against. -/
structure ReadHost where
  /-- The outcome of waiting for the commands before the read. -/
  sequence : Except Error Unit
  /-- The state of the session, at each look at it. -/
  state : ℕ → SessionState
  /-- The reply to a command. -/
  command : MiCommand → Except Error CommandReply

/-- The state is at the stop and in the execution of the expected one. -/
def SameContext (current expected : SessionState) : Prop :=
  current.stopId = expected.stopId ∧ current.executionEpoch = expected.executionEpoch

instance (current expected : SessionState) : Decidable (SameContext current expected) :=
  inferInstanceAs (Decidable (_ ∧ _))

/-- `require_same_execution_context`, and `require_observation_context` of the session. -/
def requireSameExecutionContext (current expected : SessionState) : Except Error Unit :=
  if SameContext current expected then .ok ()
  else
    .error
      { code := .staleContext, message := "target stop changed during composite operation" }

/-- `CHUNK_BYTES`. -/
def chunkBytes : ℕ := 64 * 1024

/-- The command for a chunk. -/
def readCommand (address chunk : ℕ) : Except Error MiCommand :=
  MiCommand.withBare "-data-read-memory-bytes" [Access.addressText address, toString chunk]

/-- One round of the loop: the bytes of the chunk with their evidence, or `none` where a partial
read ends at an error. -/
def readChunk (host : ReadHost) (expected : SessionState) (start captured chunk : ℕ)
    (allowPartial : Bool) (looks : ℕ) : Except Error (Option (Bytes × ℕ)) := do
  requireSameExecutionContext (host.state looks) expected
  let address ← addressAdd start captured
  let command ← readCommand address chunk
  match host.command command with
  | .error error =>
    if recoverablePartialRead error.code allowPartial captured then .ok none else .error error
  | .ok reply => do
    requireSameExecutionContext (host.state (looks + 1)) expected
    let part ← memoryContents reply.record chunk
    .ok (some (part, reply.evidenceSeq))

/-- What a read has so far. -/
structure ReadProgress where
  bytes : Bytes
  evidenceSeq : ℕ
  looks : ℕ

/-- The loop of `read_memory_bytes_in_observation`. -/
def readChunks (host : ReadHost) (expected : SessionState) (start length : ℕ)
    (allowPartial : Bool) (progress : ReadProgress) : Except Error ReadProgress :=
  if _hmore : progress.bytes.length < length then
    let chunk := min (length - progress.bytes.length) chunkBytes
    match readChunk host expected start progress.bytes.length chunk allowPartial progress.looks with
    | .error error => .error error
    | .ok none => .ok { progress with looks := progress.looks + 1 }
    | .ok (some (part, evidenceSeq)) =>
      let next : ReadProgress :=
        { bytes := progress.bytes ++ part, evidenceSeq, looks := progress.looks + 2 }
      if _hshort : part.length < chunk then .ok next
      else readChunks host expected start length allowPartial next
  else .ok progress
termination_by length - progress.bytes.length
decreasing_by
  simp only [List.length_append, chunkBytes, not_lt, chunk] at *
  omega

/-- `read_memory_bytes_in_observation`, with the number of looks at the state. -/
def readMemoryBytesInObservation (host : ReadHost) (expected : SessionState) (start length : ℕ)
    (allowPartial : Bool) : Except Error ReadProgress := do
  validateMemoryRange start length
  let progress ← readChunks host expected start length allowPartial
    { bytes := [], evidenceSeq := (host.state 1).eventSeq, looks := 2 }
  requireCompleteRead progress.bytes.length length allowPartial
  .ok progress

/-- `read_memory_bytes`: the read as a stable observation. -/
def readMemoryBytes (host : ReadHost) (expected : SessionState) (start length : ℕ)
    (allowPartial : Bool) : Except Error (Bytes × ℕ) := do
  host.sequence
  requireSameExecutionContext (host.state 0) expected
  let progress ← readMemoryBytesInObservation host expected start length allowPartial
  requireSameExecutionContext (host.state progress.looks) expected
  .ok (progress.bytes, progress.evidenceSeq)

/-! ### Memory and its readable prefixes -/

/-- The memory of the target. -/
abbrev Memory := ℕ → Option UInt8

/-- The bytes are the longest readable prefix of the range. -/
structure IsReadablePrefix (memory : Memory) (start length : ℕ) (bytes : Bytes) : Prop where
  bounded : bytes.length ≤ length
  exact : ∀ i < bytes.length, memory (start + i) = bytes[i]?
  maximal : bytes.length < length → memory (start + bytes.length) = none

namespace IsReadablePrefix

variable {memory : Memory} {start length more : ℕ} {bytes rest : Bytes}

/-- Nothing is read where the first address is unreadable. -/
lemma nil (h : 0 < length → memory start = none) : IsReadablePrefix memory start length [] where
  bounded := Nat.zero_le _
  exact := nofun
  maximal := h

/-- Behind bytes that are readable throughout, the prefix goes on. -/
lemma append_exact (hexact : ∀ i < bytes.length, memory (start + i) = bytes[i]?)
    (hrest : IsReadablePrefix memory (start + bytes.length) more rest) :
    IsReadablePrefix memory start (bytes.length + more) (bytes ++ rest) where
  bounded := by
    have hbounded := hrest.bounded
    rw [List.length_append]
    omega
  exact i hi := by
    rw [List.length_append] at hi
    rcases lt_or_ge i bytes.length with hlt | hge
    · rw [List.getElem?_append_left hlt]
      exact hexact i hlt
    · rw [List.getElem?_append_right hge, ← hrest.exact _ (by omega)]
      congr 1
      omega
  maximal hlt := by
    rw [List.length_append] at hlt ⊢
    rw [← Nat.add_assoc]
    exact hrest.maximal (by omega)

/-- A short prefix does not grow with the range. -/
lemma of_short (h : IsReadablePrefix memory start length bytes) (hshort : bytes.length < length)
    (more : ℕ) :
    IsReadablePrefix memory start (length + more) bytes where
  bounded := h.bounded.trans (Nat.le_add_right _ _)
  exact := h.exact
  maximal _ := h.maximal hshort

/-- The prefix is the whole range exactly where the range is readable. -/
lemma length_eq_iff (h : IsReadablePrefix memory start length bytes) :
    bytes.length = length ↔ ∀ i < length, memory (start + i) ≠ none := by
  constructor
  · rintro hlength i hi
    rw [h.exact i (by omega), List.getElem?_eq_getElem (by omega)]
    exact Option.some_ne_none _
  · intro hreadable
    by_contra hne
    have hlt : bytes.length < length := lt_of_le_of_ne h.bounded hne
    exact hreadable _ hlt (h.maximal hlt)

end IsReadablePrefix

/-! ### What GDB answers -/

/-- A readable block of a reply. -/
structure MemoryBlock where
  offset : ℕ
  contents : Bytes
  deriving DecidableEq

/-- The fields are those of the block. -/
def MemoryBlock.Shown (block : MemoryBlock) (fields : List MiResult) : Prop :=
  (MiResult.findStr fields "offset").map Access.parseAddress = some (.ok block.offset) ∧
    (MiResult.findStr fields "contents").map hexDecode = some (.ok block.contents)

instance (block : MemoryBlock) (fields : List MiResult) : Decidable (block.Shown fields) :=
  inferInstanceAs (Decidable (_ ∧ _))

/-- The blocks are what is readable of a range behind its first `done` bytes, in ascending order
with the offsets in the range. -/
structure Covers (memory : Memory) (address count done : ℕ) (blocks : List MemoryBlock) : Prop where
  ascending : blocks.Pairwise fun first second =>
    first.offset + first.contents.length ≤ second.offset
  behind : ∀ block ∈ blocks, done ≤ block.offset
  inside : ∀ block ∈ blocks, block.offset + block.contents.length ≤ count
  exact : ∀ block ∈ blocks, ∀ i < block.contents.length,
    memory (address + block.offset + i) = block.contents[i]?
  complete : ∀ i < count, done ≤ i → memory (address + i) ≠ none →
    ∃ block ∈ blocks, block.offset ≤ i ∧ i < block.offset + block.contents.length

/-- The reply to `-data-read-memory-bytes`: the readable blocks, or an error of GDB where nothing of
the range is readable. -/
def Answers (memory : Memory) (address count : ℕ) : Except Error CommandReply → Prop
  | .ok reply =>
    (∃ i < count, memory (address + i) ≠ none) ∧
      ∃ value blocks, MiResult.find reply.record.results "memory" = some value ∧
        List.Forall₂ MemoryBlock.Shown blocks (aggregateItems value "memory") ∧
        Covers memory address count 0 blocks
  | .error error => error.code = .gdbError ∧ ∀ i < count, memory (address + i) = none

/-- The host answers the reads within a range from this memory. -/
def ReadHost.Reads (host : ReadHost) (memory : Memory) (start length : ℕ) : Prop :=
  ∀ captured chunk command, 0 < chunk → captured + chunk ≤ length →
    readCommand (start + captured) chunk = .ok command →
      Answers memory (start + captured) chunk (host.command command)

/-! ### The blocks of a reply -/

section Replies

variable {memory : Memory} {address count done : ℕ}

/-- Behind a hole nothing is left at the next address. -/
lemma Covers.eq_none_of_lt {blocks : List MemoryBlock} (h : Covers memory address count done blocks)
    (hhole : ∀ block ∈ blocks, done < block.offset) (hlt : done < count) :
    memory (address + done) = none := by
  by_contra hreadable
  obtain ⟨block, hmem, hle, -⟩ := h.complete done hlt le_rfl hreadable
  exact absurd (hhole block hmem) (not_lt.mpr hle)

/-- The blocks behind the first one. -/
lemma Covers.tail {block : MemoryBlock} {blocks : List MemoryBlock}
    (h : Covers memory address count done (block :: blocks)) :
    Covers memory address count (block.offset + block.contents.length) blocks where
  ascending := (List.pairwise_cons.mp h.ascending).2
  behind := (List.pairwise_cons.mp h.ascending).1
  inside next hnext := h.inside next (List.mem_cons_of_mem _ hnext)
  exact next hnext := h.exact next (List.mem_cons_of_mem _ hnext)
  complete i hlt hle hreadable := by
    have hdone : done ≤ i := by
      have hfirst := h.behind block List.mem_cons_self
      omega
    obtain ⟨next, hmem, hlow, hhigh⟩ := h.complete i hlt hdone hreadable
    rcases List.mem_cons.mp hmem with rfl | hmem
    · omega
    · exact ⟨next, hmem, hlow, hhigh⟩

/-- The loop over the blocks keeps what is readable up to the first hole. -/
lemma blocksLoop_eq {blocks : List MemoryBlock} {items : List (List MiResult)}
    (hshown : List.Forall₂ MemoryBlock.Shown blocks items) :
    ∀ bytes : Bytes, Covers memory address count bytes.length blocks → bytes.length ≤ count →
      ∃ more, blocksLoop count items bytes = .ok (bytes ++ more) ∧
        IsReadablePrefix memory (address + bytes.length) (count - bytes.length) more := by
  induction hshown with
  | nil =>
    intro bytes hcovers hle
    refine ⟨[], by rw [blocksLoop, List.append_nil], .nil fun hpos => ?_⟩
    exact hcovers.eq_none_of_lt nofun (by omega)
  | @cons block item blocks items hitem hitems ih =>
    intro bytes hcovers hle
    obtain ⟨offset, hoffset, hparsed⟩ := Option.map_eq_some_iff.mp hitem.1
    obtain ⟨contents, hcontents, hdecoded⟩ := Option.map_eq_some_iff.mp hitem.2
    have hfields : blockField item "offset" = .ok offset ∧
        blockField item "contents" = .ok contents := by
      simp only [blockField, hoffset, hcontents, and_self]
    have hfirst := hcovers.behind block List.mem_cons_self
    by_cases hat : block.offset = bytes.length
    · have hinside := hcovers.inside block List.mem_cons_self
      have hfits : ¬ block.contents.length > count - bytes.length := by omega
      have hlength : (bytes ++ block.contents).length =
          block.offset + block.contents.length := by
        rw [List.length_append, hat]
      obtain ⟨more, hloop, hmore⟩ := ih (bytes ++ block.contents) (hlength ▸ hcovers.tail)
        (hlength ▸ hinside)
      refine ⟨block.contents ++ more, ?_, ?_⟩
      · simp only [blocksLoop, hfields.1, hfields.2, hparsed, hdecoded, hat, ne_eq,
          not_true_eq_false, if_false, if_neg hfits, bind, Except.bind, hloop, List.append_assoc]
      · have hrange : count - bytes.length =
            block.contents.length + (count - (bytes ++ block.contents).length) := by
          rw [List.length_append]
          omega
        rw [hrange]
        refine .append_exact (fun i hi => ?_) ?_
        · rw [← hat]
          exact hcovers.exact block List.mem_cons_self i hi
        · rwa [Nat.add_assoc, ← List.length_append]
    · refine ⟨[], ?_, .nil fun hpos => ?_⟩
      · simp only [blocksLoop, hfields.1, hparsed, ne_eq, hat, not_false_eq_true, if_true, bind,
          Except.bind, List.append_nil]
      · -- The later blocks start behind the first one, which starts behind the hole.
        refine hcovers.eq_none_of_lt (fun next hnext => ?_) (by omega)
        rcases List.mem_cons.mp hnext with rfl | hnext
        · omega
        · have hascending := (List.pairwise_cons.mp hcovers.ascending).1 next hnext
          omega

/-- The contents of a reply are the readable prefix of its range. -/
lemma memoryContents_eq {reply : CommandReply} (h : Answers memory address count (.ok reply)) :
    ∃ part, memoryContents reply.record count = .ok part ∧
      IsReadablePrefix memory address count part := by
  obtain ⟨-, value, blocks, hfind, hshown, hcovers⟩ := h
  obtain ⟨part, hloop, hlongest⟩ := blocksLoop_eq hshown [] hcovers (Nat.zero_le _)
  refine ⟨part, ?_, hlongest⟩
  simp only [memoryContents, hfind, hloop, List.nil_append]

end Replies

/-! ### The command of a chunk -/

/-- A digit is no blank. -/
lemma isAsciiSpace_digitChar (digit : ℕ) : isAsciiSpace digit.digitChar = false := by
  rcases lt_or_ge digit 36 with hlt | hge
  · interval_cases digit <;> decide
  · have hstar : digit.digitChar = '*' := by
      simp only [Nat.digitChar]
      repeat rw [if_neg (by omega)]
    rw [hstar]
    decide

/-- A numeral has no blank. -/
lemma isAsciiSpace_of_mem_toDigits {base n : ℕ} :
    ∀ c ∈ Nat.toDigits base n, isAsciiSpace c = false := by
  suffices hcore : ∀ fuel n digits, (∀ c ∈ digits, isAsciiSpace c = false) →
      ∀ c ∈ Nat.toDigitsCore base fuel n digits, isAsciiSpace c = false from
    hcore _ _ [] (by simp)
  intro fuel
  induction fuel with
  | zero =>
    intro n digits hdigits
    exact hdigits
  | succ fuel ih =>
    intro n digits hdigits
    have hnext : ∀ c ∈ (n % base).digitChar :: digits, isAsciiSpace c = false := by
      intro c hc
      rcases List.mem_cons.mp hc with rfl | hc
      · exact isAsciiSpace_digitChar _
      · exact hdigits c hc
    rw [Nat.toDigitsCore]
    split
    · exact hnext
    · exact ih _ _ hnext

/-- The command for a chunk is one that the encoder takes. -/
lemma exists_readCommand (address chunk : ℕ) :
    ∃ command, readCommand address chunk = .ok command := by
  have hbare : ∀ (command : MiCommand) (text : String), text.toList ≠ [] →
      (∀ c ∈ text.toList, isAsciiSpace c = false) → ∃ next, command.bare text = .ok next := by
    intro command text hne hspace
    have hany : text.toList.any isAsciiSpace = false := by
      rw [List.any_eq_false]
      intro c hc
      simp [hspace c hc]
    exact ⟨_, by rw [MiCommand.bare, hany, Bool.or_false, if_neg (by simpa using hne)]⟩
  have haddress : (Access.addressText address).toList =
      '0' :: 'x' :: Nat.toDigits 16 address := by
    simp [Access.addressText]
  have hchunk : (toString chunk).toList = Nat.toDigits 10 chunk := by
    simp [toString, Nat.repr]
  obtain ⟨first, hfirst⟩ := hbare ⟨"-data-read-memory-bytes", []⟩ (Access.addressText address)
    (by simp [haddress]) (by
      rw [haddress]
      intro c hc
      rcases List.mem_cons.mp hc with rfl | hc
      · decide
      rcases List.mem_cons.mp hc with rfl | hc
      · decide
      · exact isAsciiSpace_of_mem_toDigits c hc)
  obtain ⟨second, hsecond⟩ := hbare first (toString chunk)
    (by rw [hchunk]; exact Nat.toDigits_ne_nil)
    (by rw [hchunk]; exact isAsciiSpace_of_mem_toDigits)
  refine ⟨second, ?_⟩
  have hnew : MiCommand.new "-data-read-memory-bytes" = .ok ⟨"-data-read-memory-bytes", []⟩ := by
    decide
  simp only [readCommand, MiCommand.withBare, hnew, List.foldlM_cons, List.foldlM_nil, hfirst,
    hsecond, bind, Except.bind, pure, Except.pure]

/-! ### The rounds of a read -/

section Rounds

variable {memory : Memory} {host : ReadHost} {expected : SessionState} {start length : ℕ}
  {allowPartial : Bool}

/-- The state at the stop is accepted. -/
lemma requireSameExecutionContext_ok {current : SessionState} (h : SameContext current expected) :
    requireSameExecutionContext current expected = .ok () := if_pos h

/-- The addresses of a range that was admitted are addresses. -/
lemma lt_of_validateMemoryRange (h : validateMemoryRange start length = .ok ()) :
    start + (length - 1) < 2 ^ 64 := by
  by_contra hge
  simp only [validateMemoryRange, addressAdd, if_neg hge, bind, Except.bind] at h
  exact absurd h nofun

/-- What one round can come to. -/
inductive ChunkOutcome (host : ReadHost) (memory : Memory) (address chunk captured : ℕ)
    (allowPartial : Bool) : Except Error (Option (Bytes × ℕ)) → Prop
  /-- Something of the chunk is readable, and its prefix was read. -/
  | read {part : Bytes} {evidenceSeq : ℕ} (readable : ∃ i < chunk, memory (address + i) ≠ none)
      (exact : IsReadablePrefix memory address chunk part) :
      ChunkOutcome host memory address chunk captured allowPartial (.ok (some (part, evidenceSeq)))
  /-- The chunk is unreadable, and the bytes before it are the result. -/
  | ended (unreadable : ∀ i < chunk, memory (address + i) = none) (captured_pos : 0 < captured) :
      ChunkOutcome host memory address chunk captured allowPartial (.ok none)
  /-- The chunk is unreadable, and the error of GDB is the result. -/
  | failed {command : MiCommand} {error : Error}
      (unreadable : ∀ i < chunk, memory (address + i) = none)
      (final : allowPartial = true → captured = 0) (code : error.code = .gdbError)
      (sent : readCommand address chunk = .ok command)
      (answered : host.command command = .error error) :
      ChunkOutcome host memory address chunk captured allowPartial (.error error)

/-- A round does what its reply says. -/
lemma readChunk_outcome (allowPartial : Bool) (hreads : host.Reads memory start length)
    (hfixed : ∀ look, SameContext (host.state look) expected)
    (hlast : start + (length - 1) < 2 ^ 64) {captured chunk : ℕ} (hpos : 0 < chunk)
    (hwithin : captured + chunk ≤ length) (looks : ℕ) :
    ChunkOutcome host memory (start + captured) chunk captured allowPartial
      (readChunk host expected start captured chunk allowPartial looks) := by
  obtain ⟨command, hcommand⟩ := exists_readCommand (start + captured) chunk
  have haddress : addressAdd start captured = .ok (start + captured) := if_pos (by omega)
  have hanswers := hreads captured chunk command hpos hwithin hcommand
  simp only [readChunk, requireSameExecutionContext_ok (hfixed _), haddress, hcommand, bind,
    Except.bind]
  cases hreply : host.command command with
  | ok reply =>
    rw [hreply] at hanswers
    obtain ⟨part, hcontents, hlongest⟩ := memoryContents_eq hanswers
    simp only [hcontents]
    exact .read hanswers.1 hlongest
  | error error =>
    rw [hreply] at hanswers
    obtain ⟨hcode, hunreadable⟩ := hanswers
    by_cases hrecoverable : recoverablePartialRead error.code allowPartial captured = true
    · simp only [hrecoverable, if_true]
      have hcaptured : 0 < captured := by
        simp only [recoverablePartialRead, Bool.and_eq_true, decide_eq_true_eq, gt_iff_lt]
          at hrecoverable
        exact hrecoverable.1.2
      exact .ended hunreadable hcaptured
    · simp only [Bool.not_eq_true _ ▸ hrecoverable, Bool.false_eq_true, if_false]
      refine .failed hunreadable (fun hpartial => ?_) hcode hcommand hreply
      by_contra hne
      refine hrecoverable ?_
      simp only [recoverablePartialRead, hpartial, hcode, decide_true, Bool.and_true,
        Bool.true_and, decide_eq_true_eq, gt_iff_lt]
      omega

/-- What a read can come to, from the bytes it has. -/
inductive ReadOutcome (host : ReadHost) (memory : Memory) (start length : ℕ)
    (allowPartial : Bool) (captured : ℕ) : Except Error ReadProgress → Prop
  /-- The prefix of the range was read.  At the start, something of the first chunk is readable. -/
  | read {progress : ReadProgress} (exact : IsReadablePrefix memory start length progress.bytes)
      (readable : captured = 0 → 0 < length →
        ∃ i < min length chunkBytes, memory (start + i) ≠ none) :
      ReadOutcome host memory start length allowPartial captured (.ok progress)
  /-- GDB reported an error for an unreadable address of the range.  A partial read passes it on
  for the first chunk only. -/
  | failed {error : Error} (unreadable : ∃ i < length, memory (start + i) = none)
      (code : error.code = .gdbError)
      (first : allowPartial = true → captured = 0 ∧
        (∀ i < min length chunkBytes, memory (start + i) = none) ∧
        ∃ command, readCommand start (min length chunkBytes) = .ok command ∧
          host.command command = .error error) :
      ReadOutcome host memory start length allowPartial captured (.error error)

/-- From any number of bytes, the loop reads the rest of the prefix. -/
lemma readChunks_outcome (hreads : host.Reads memory start length)
    (hfixed : ∀ look, SameContext (host.state look) expected)
    (hlast : start + (length - 1) < 2 ^ 64) (progress : ReadProgress)
    (hexact : ∀ i < progress.bytes.length, memory (start + i) = progress.bytes[i]?)
    (hle : progress.bytes.length ≤ length) :
    ReadOutcome host memory start length allowPartial progress.bytes.length
      (readChunks host expected start length allowPartial progress) := by
  -- The rest of the range gets shorter with every chunk that was read in full.
  induction hrest : length - progress.bytes.length using Nat.strong_induction_on
    generalizing progress with
  | _ rest ih =>
    by_cases hmore : progress.bytes.length < length
    · rw [readChunks, dif_pos hmore]
      dsimp only
      obtain ⟨chunk, hchunk⟩ : ∃ chunk, chunk = min (length - progress.bytes.length) chunkBytes :=
        ⟨_, rfl⟩
      have hpos : 0 < chunk := by
        rw [hchunk, chunkBytes]
        omega
      have hwithin : progress.bytes.length + chunk ≤ length := by omega
      have hless : length - (progress.bytes.length + chunk) < rest := by omega
      have hsplit : chunk + (length - progress.bytes.length - chunk) =
          length - progress.bytes.length := by omega
      have hfirst : progress.bytes.length = 0 →
          chunk = min length chunkBytes ∧ start + progress.bytes.length = start := by
        intro hzero
        rw [hchunk, hzero]
        exact ⟨rfl, rfl⟩
      have hround := readChunk_outcome allowPartial hreads hfixed hlast hpos hwithin
        progress.looks
      rw [← hchunk]
      generalize readChunk host expected start progress.bytes.length chunk allowPartial
        progress.looks = round at hround
      cases hround with
      | @read part evidenceSeq hreadable hpart =>
        have hsome : progress.bytes.length = 0 → 0 < length →
            ∃ i < min length chunkBytes, memory (start + i) ≠ none := by
          intro hzero _
          rwa [(hfirst hzero).1, (hfirst hzero).2] at hreadable
        dsimp only
        by_cases hshort : part.length < chunk
        · rw [dif_pos hshort]
          refine .read ?_ hsome
          have hlong := hpart.of_short hshort (length - progress.bytes.length - chunk)
          rw [hsplit] at hlong
          have hall := IsReadablePrefix.append_exact hexact hlong
          rwa [Nat.add_sub_cancel' hle] at hall
        · rw [dif_neg hshort]
          have hall := IsReadablePrefix.append_exact hexact hpart
          have hlength : (progress.bytes ++ part).length = progress.bytes.length + chunk := by
            have hbounded := hpart.bounded
            rw [List.length_append]
            omega
          have hnext := ih (length - (progress.bytes ++ part).length) (hlength ▸ hless)
            { bytes := progress.bytes ++ part, evidenceSeq, looks := progress.looks + 2 }
            hall.exact (hlength.trans_le hwithin) rfl
          generalize readChunks host expected start length allowPartial
            { bytes := progress.bytes ++ part, evidenceSeq, looks := progress.looks + 2 } =
            result at hnext
          cases hnext with
          | read hlongest _ => exact .read hlongest hsome
          | failed hunreadable hcode hstart =>
            -- The bytes of this chunk are there, so that a partial read cannot fail any more.
            refine .failed hunreadable hcode fun hpartial => ?_
            have hzero : (progress.bytes ++ part).length = 0 := (hstart hpartial).1
            omega
      | ended hunreadable hcaptured =>
        refine .read ⟨hle, hexact, fun _ => ?_⟩ (fun hzero => absurd hzero hcaptured.ne')
        exact hunreadable 0 hpos
      | failed hunreadable hfinal hcode hsent hanswered =>
        refine .failed ⟨progress.bytes.length, hmore, hunreadable 0 hpos⟩ hcode fun hpartial => ?_
        have hzero := hfinal hpartial
        rw [(hfirst hzero).1, (hfirst hzero).2] at hunreadable hsent
        exact ⟨hzero, hunreadable, _, hsent, hanswered⟩
    · rw [readChunks, dif_neg hmore]
      refine .read ⟨hle, hexact, fun hlt => absurd hlt hmore⟩ fun hzero hlength => ?_
      omega

end Rounds

/-! ### Whole reads -/

section Reads

variable {memory : Memory} {host : ReadHost} {expected : SessionState} {start length : ℕ}

/-- What a read has at its start. -/
def ReadHost.begin (host : ReadHost) : ReadProgress where
  bytes := []
  evidenceSeq := (host.state 1).eventSeq
  looks := 2

section

variable (hreads : host.Reads memory start length) (hsequence : host.sequence = .ok ())
  (hfixed : ∀ look, SameContext (host.state look) expected)
  (hvalid : validateMemoryRange start length = .ok ())
include hsequence hfixed hvalid

/-- A read of an admitted range is its loop with the check of the length. -/
lemma readMemoryBytes_eq (allowPartial : Bool) :
    readMemoryBytes host expected start length allowPartial =
      match readChunks host expected start length allowPartial host.begin with
      | .error error => .error error
      | .ok progress =>
        match requireCompleteRead progress.bytes.length length allowPartial with
        | .error error => .error error
        | .ok () => .ok (progress.bytes, progress.evidenceSeq) := by
  simp only [readMemoryBytes, readMemoryBytesInObservation, hsequence, hvalid,
    requireSameExecutionContext_ok (hfixed _), bind, Except.bind, ReadHost.begin]
  cases readChunks host expected start length allowPartial _ with
  | error error => rfl
  | ok progress =>
    dsimp only
    cases requireCompleteRead progress.bytes.length length allowPartial <;> rfl

include hreads

omit hsequence in
/-- The outcome of the loop from the start of an admitted range. -/
lemma readChunks_start (allowPartial : Bool) :
    ReadOutcome host memory start length allowPartial 0
      (readChunks host expected start length allowPartial host.begin) :=
  readChunks_outcome hreads hfixed (lt_of_validateMemoryRange hvalid) host.begin
    (fun i hi => absurd hi (Nat.not_lt_zero i)) (Nat.zero_le _)

/-- The result of a complete read: all bytes of a readable range, or an error. -/
lemma readMemoryBytes_complete :
    (∃ bytes evidenceSeq,
        readMemoryBytes host expected start length false = .ok (bytes, evidenceSeq) ∧
        IsReadablePrefix memory start length bytes ∧ bytes.length = length) ∨
      ∃ error, readMemoryBytes host expected start length false = .error error ∧
        (error.code = .gdbError ∨ error.code = .partialRead) ∧
        ∃ i < length, memory (start + i) = none := by
  rw [readMemoryBytes_eq hsequence hfixed hvalid]
  have houtcome := readChunks_start hreads hfixed hvalid false
  generalize readChunks host expected start length false host.begin = result at houtcome
  cases houtcome with
  | @read progress hlongest _ =>
    by_cases hlength : progress.bytes.length = length
    · have hcomplete : requireCompleteRead progress.bytes.length length false = .ok () := by
        simp [requireCompleteRead, hlength]
      refine .inl ⟨progress.bytes, progress.evidenceSeq, ?_, hlongest, hlength⟩
      simp only [hcomplete]
    · have hshort : progress.bytes.length < length := lt_of_le_of_ne hlongest.bounded hlength
      have hincomplete : ∃ error, requireCompleteRead progress.bytes.length length false =
          .error error ∧ error.code = .partialRead := by
        simp [requireCompleteRead, hlength]
      obtain ⟨error, herror, hcode⟩ := hincomplete
      refine .inr ⟨error, ?_, .inr hcode, _, hshort, hlongest.maximal hshort⟩
      simp only [herror]
  | failed hunreadable hcode _ => exact .inr ⟨_, rfl, .inl hcode, hunreadable⟩

/-- The result of a partial read: the prefix, or the error for an unreadable first chunk. -/
lemma readMemoryBytes_partial :
    (∃ bytes evidenceSeq,
        readMemoryBytes host expected start length true = .ok (bytes, evidenceSeq) ∧
        IsReadablePrefix memory start length bytes ∧
        (0 < length → ∃ i < min length chunkBytes, memory (start + i) ≠ none)) ∨
      ∃ error command, readMemoryBytes host expected start length true = .error error ∧
        error.code = .gdbError ∧ 0 < length ∧
        (∀ i < min length chunkBytes, memory (start + i) = none) ∧
        readCommand start (min length chunkBytes) = .ok command ∧
        host.command command = .error error := by
  rw [readMemoryBytes_eq hsequence hfixed hvalid]
  have houtcome := readChunks_start hreads hfixed hvalid true
  generalize readChunks host expected start length true host.begin = result at houtcome
  cases houtcome with
  | read hlongest hreadable => exact .inl ⟨_, _, rfl, hlongest, hreadable rfl⟩
  | failed hunreadable hcode hfirst =>
    obtain ⟨-, hchunk, command, hsent, hanswered⟩ := hfirst rfl
    obtain ⟨i, hi, -⟩ := hunreadable
    exact .inr ⟨_, command, rfl, hcode, by omega, hchunk, hsent, hanswered⟩

end

/-- Against a fixed memory, a read of an admitted range comes to its readable prefix.  A complete
read succeeds exactly if the whole range is readable, with the bytes of the range.  A partial read
gives the longest readable prefix, or GDB's error exactly if the whole first chunk is unreadable.
The checked addition of addresses never fails, and the byte at an index is the one at that distance
from the start. -/
theorem readMemoryBytes_readablePrefix (hreads : host.Reads memory start length)
    (hsequence : host.sequence = .ok ())
    (hfixed : ∀ look, SameContext (host.state look) expected)
    (hvalid : validateMemoryRange start length = .ok ()) :
    ((∃ result, readMemoryBytes host expected start length false = .ok result) ↔
        ∀ i < length, memory (start + i) ≠ none) ∧
      (∀ bytes evidenceSeq,
        readMemoryBytes host expected start length false = .ok (bytes, evidenceSeq) →
          bytes.length = length ∧ ∀ i < length, bytes[i]? = memory (start + i)) ∧
      ((0 < length ∧ ∀ i < min length chunkBytes, memory (start + i) = none) →
        ∃ error command, readMemoryBytes host expected start length true = .error error ∧
          error.code = .gdbError ∧ readCommand start (min length chunkBytes) = .ok command ∧
          host.command command = .error error) ∧
      (¬ (0 < length ∧ ∀ i < min length chunkBytes, memory (start + i) = none) →
        ∃ bytes evidenceSeq,
          readMemoryBytes host expected start length true = .ok (bytes, evidenceSeq) ∧
          bytes.length ≤ length ∧ (∀ i < bytes.length, bytes[i]? = memory (start + i)) ∧
          (bytes.length < length → memory (start + bytes.length) = none)) ∧
      ∀ allowPartial error,
        readMemoryBytes host expected start length allowPartial = .error error →
          error.code = .gdbError ∨ error.code = .partialRead := by
  have hcomplete := readMemoryBytes_complete hreads hsequence hfixed hvalid
  have hpartial := readMemoryBytes_partial hreads hsequence hfixed hvalid
  refine ⟨⟨?_, ?_⟩, ?_, ?_, ?_, ?_⟩
  · rintro ⟨result, hok⟩
    rcases hcomplete with ⟨bytes, evidenceSeq, -, hlongest, hlength⟩ | ⟨error, herror, -⟩
    · exact hlongest.length_eq_iff.mp hlength
    · rw [hok] at herror
      exact absurd herror nofun
  · intro hreadable
    rcases hcomplete with ⟨bytes, evidenceSeq, hok, -⟩ | ⟨error, -, -, i, hi, hnone⟩
    · exact ⟨_, hok⟩
    · exact absurd hnone (hreadable i hi)
  · intro bytes evidenceSeq hok
    rcases hcomplete with ⟨bytes', evidenceSeq', hok', hlongest, hlength⟩ | ⟨error, herror, -⟩
    · rw [hok] at hok'
      obtain ⟨rfl, -⟩ := Prod.mk.inj (Except.ok.inj hok')
      exact ⟨hlength, fun i hi => (hlongest.exact i (by omega)).symm⟩
    · rw [hok] at herror
      exact absurd herror nofun
  · rintro ⟨hpos, hunreadable⟩
    rcases hpartial with ⟨bytes, evidenceSeq, -, -, hreadable⟩ |
      ⟨error, command, herror, hcode, -, -, hsent, hanswered⟩
    · obtain ⟨i, hi, hsome⟩ := hreadable hpos
      exact absurd (hunreadable i hi) hsome
    · exact ⟨error, command, herror, hcode, hsent, hanswered⟩
  · intro hreadable
    rcases hpartial with ⟨bytes, evidenceSeq, hok, hlongest, -⟩ |
      ⟨error, command, -, -, hpos, hunreadable, -⟩
    · exact ⟨bytes, evidenceSeq, hok, hlongest.bounded, fun i hi => (hlongest.exact i hi).symm,
        hlongest.maximal⟩
    · exact absurd ⟨hpos, hunreadable⟩ hreadable
  · intro allowPartial error herror
    cases allowPartial with
    | false =>
      rcases hcomplete with ⟨bytes, evidenceSeq, hok, -⟩ | ⟨error', herror', hcode, -⟩
      · rw [hok] at herror
        exact absurd herror nofun
      · rw [herror] at herror'
        obtain rfl := Except.error.inj herror'
        exact hcode
    | true =>
      rcases hpartial with ⟨bytes, evidenceSeq, hok, -⟩ | ⟨error', command, herror', hcode, -⟩
      · rw [hok] at herror
        exact absurd herror nofun
      · rw [herror] at herror'
        obtain rfl := Except.error.inj herror'
        exact .inl hcode

end Reads

/-! ### A memory with a hole -/

/-- The readable bytes of a range, as blocks of one byte. -/
def singleBlocks (memory : Memory) (address count : ℕ) : List MemoryBlock :=
  (List.range count).filterMap fun i => (memory (address + i)).map fun byte => ⟨i, [byte]⟩

/-- The blocks are the readable bytes. -/
lemma mem_singleBlocks {memory : Memory} {address count : ℕ} {block : MemoryBlock} :
    block ∈ singleBlocks memory address count ↔
      ∃ i < count, ∃ byte, memory (address + i) = some byte ∧ block = ⟨i, [byte]⟩ := by
  simp only [singleBlocks, List.mem_filterMap, List.mem_range, Option.map_eq_some_iff,
    eq_comm (a := block)]

/-- They cover the range. -/
lemma covers_singleBlocks (memory : Memory) (address count : ℕ) :
    Covers memory address count 0 (singleBlocks memory address count) where
  ascending := by
    refine List.Pairwise.filterMap _ (fun i j hlt first hfirst second hsecond => ?_)
      List.pairwise_lt_range
    obtain ⟨byte, -, rfl⟩ := Option.map_eq_some_iff.mp hfirst
    obtain ⟨byte', -, rfl⟩ := Option.map_eq_some_iff.mp hsecond
    exact hlt
  behind block _ := Nat.zero_le _
  inside block hblock := by
    obtain ⟨i, hi, byte, -, rfl⟩ := mem_singleBlocks.mp hblock
    exact hi
  exact block hblock i hi := by
    obtain ⟨j, -, byte, hbyte, rfl⟩ := mem_singleBlocks.mp hblock
    obtain rfl : i = 0 := Nat.lt_one_iff.mp hi
    exact hbyte
  complete i hlt _ hreadable := by
    obtain ⟨byte, hbyte⟩ := Option.ne_none_iff_exists'.mp hreadable
    exact ⟨⟨i, [byte]⟩, mem_singleBlocks.mpr ⟨i, hlt, byte, hbyte, rfl⟩, le_rfl, Nat.lt_succ_self i⟩

/-- Two readable bytes at `0x1000` and one at `0x1003`. -/
def holedMemory : Memory := fun address =>
  if address = 0x1000 then some 0xaa
  else if address = 0x1001 then some 0xbb
  else if address = 0x1003 then some 0xcc
  else none

/-- The two digits of a byte. -/
def hexPair (byte : UInt8) : Bytes :=
  [byte >>> 4, byte &&& 0x0f].map fun nibble => if nibble < 10 then nibble + 48 else nibble + 87

/-- The fields of a block. -/
def blockFields (block : MemoryBlock) : List MiResult :=
  [("offset", .const (utf8 (Access.addressText block.offset))),
    ("contents", .const (block.contents.flatMap hexPair))]

/-- The reply with these blocks. -/
def blocksReply (blocks : List MemoryBlock) : Except Error CommandReply :=
  if blocks = [] then .error { code := .gdbError, message := "Unable to read memory." }
  else
    .ok
      { token := 1
        cls := "done"
        record := .result (some 1) "done"
          [("memory", .valueList (blocks.map fun block => .tuple (blockFields block)))]
        streamRecords := []
        streamTruncated := false
        evidenceSeq := 7 }

/-- The reply with the readable bytes answers a read. -/
lemma answers_blocksReply {memory : Memory} {address count : ℕ}
    (hshown : ∀ block ∈ singleBlocks memory address count, block.Shown (blockFields block)) :
    Answers memory address count (blocksReply (singleBlocks memory address count)) := by
  have hcovers := covers_singleBlocks memory address count
  rw [blocksReply]
  split
  · rename_i hempty
    refine ⟨rfl, fun i hi => ?_⟩
    by_contra hreadable
    obtain ⟨block, hblock, -⟩ := hcovers.complete i hi (Nat.zero_le _) hreadable
    rw [hempty] at hblock
    exact absurd hblock List.not_mem_nil
  · rename_i hne
    obtain ⟨block, hblock⟩ := List.exists_mem_of_ne_nil _ hne
    obtain ⟨i, hi, byte, hbyte, -⟩ := mem_singleBlocks.mp hblock
    refine ⟨⟨i, hi, hbyte ▸ Option.some_ne_none byte⟩, _, _, rfl, ?_, hcovers⟩
    simp only [aggregateItems, List.filterMap_map, Function.comp_def, MiValue.results]
    rw [List.filterMap_eq_map', List.forall₂_map_right_iff, List.forall₂_same]
    exact hshown

/-- The blocks that a command asks for. -/
def requestedBlocks (memory : Memory) (command : MiCommand) : List MemoryBlock :=
  match command.arguments with
  | [.bare address, .bare count] =>
    match Access.parseAddress address, fromStrRadix 10 count.toList with
    | .ok address, some count => singleBlocks memory address count
    | _, _ => []
  | _ => []

/-- A debugger that answers from the memory with the hole. -/
def holedHost : ReadHost where
  sequence := .ok ()
  state _ := SessionState.creating ⟨"s"⟩
  command command := blocksReply (requestedBlocks holedMemory command)

/-- The debugger answers from the memory. -/
lemma holedHost_reads : holedHost.Reads holedMemory 0x1000 4 := by
  intro captured chunk command hpos hwithin hcommand
  have hshown : ∀ captured < 4, ∀ chunk < 5,
      ∀ block ∈ singleBlocks holedMemory (0x1000 + captured) chunk,
        block.Shown (blockFields block) := by
    decide +kernel
  have hrequest : ∀ captured < 4, ∀ chunk < 5,
      (readCommand (0x1000 + captured) chunk).toOption.map (requestedBlocks holedMemory) =
        some (singleBlocks holedMemory (0x1000 + captured) chunk) := by
    decide +kernel
  have hblocks := hrequest captured (by omega) chunk (by omega)
  rw [hcommand] at hblocks
  change Answers _ _ _ (blocksReply (requestedBlocks holedMemory command))
  rw [Option.some.inj hblocks]
  exact answers_blocksReply (hshown captured (by omega) chunk (by omega))

/-- The read of four bytes around the hole: in part it gives the two bytes before it. -/
theorem holedMemory_read :
    (¬ ∃ result, readMemoryBytes holedHost (SessionState.creating ⟨"s"⟩) 0x1000 4 false =
        .ok result) ∧
      ∃ evidenceSeq, readMemoryBytes holedHost (SessionState.creating ⟨"s"⟩) 0x1000 4 true =
        .ok ([0xaa, 0xbb], evidenceSeq) := by
  obtain ⟨hcomplete, -, -, hpartial, -⟩ :=
    @readMemoryBytes_readablePrefix holedMemory holedHost (SessionState.creating ⟨"s"⟩) 0x1000 4
      holedHost_reads rfl (fun _ => ⟨rfl, rfl⟩) (by decide)
  refine ⟨fun hok => hcomplete.mp hok 2 (by decide) (by decide), ?_⟩
  obtain ⟨bytes, evidenceSeq, hok, -, hexact, hmaximal⟩ :=
    hpartial (fun hunreadable => absurd (hunreadable.2 0 (by decide)) (by decide))
  match bytes, hok, hexact, hmaximal with
  | [], _, _, hmaximal => exact absurd (hmaximal (by decide)) (by decide)
  | [_], _, _, hmaximal =>
    have hnext : holedMemory 0x1001 = none := hmaximal (by simp)
    exact absurd hnext (by decide)
  | [first, second], hok, hexact, _ =>
    obtain rfl : first = 0xaa := Option.some.inj (hexact 0 Nat.two_pos)
    obtain rfl : second = 0xbb := Option.some.inj (hexact 1 Nat.one_lt_two)
    exact ⟨evidenceSeq, hok⟩
  | _ :: _ :: third :: rest, _, hexact, _ =>
    have hthird := hexact 2 (by simp only [List.length_cons]; omega)
    exact absurd hthird nofun

end ChunkedReads

end GdbAi
