import GdbAi.Output.Ring
import Mathlib.Data.List.Count
import Mathlib.Data.List.Nodup

/-!
# Reading a ring from where the last read ended

A reader of a ring passes the next offset of each read to the following one, while bytes are
appended in between.  The bytes it has received, each with its offset in the stream, never repeat
an offset.  From the offset it first asked for, it has received every byte below its cursor that the
ring still holds, and reading on brings the cursor to the end of the stream.
-/

namespace GdbAi

/-- What happens to a ring: bytes are appended, or its reader reads on. -/
inductive RingStep where
  | append (input : Bytes)
  | read (split maxBytes : ℕ)
deriving DecidableEq

/-- The bytes that steps append. -/
def RingStep.appended : RingStep → Bytes
  | .append input => input
  | .read .. => []

/-- A ring with its reader: the offset the reader continues from, and the bytes it has received,
with their offsets. -/
structure RingReader where
  ring : ByteRing
  cursor : ℕ
  received : List (UInt8 × ℕ)

namespace RingReader

/-- A new ring, and a reader of it that starts at an offset. -/
def new (capacity afterOffset : ℕ) : RingReader := ⟨.new capacity, afterOffset, []⟩

/-- The offsets of the bytes received so far. -/
def offsets (reader : RingReader) : List ℕ := reader.received.map Prod.snd

/-- One step. -/
def step (reader : RingReader) : RingStep → RingReader
  | .append input => { reader with ring := (reader.ring.append input).2 }
  | .read split maxBytes =>
    let read := reader.ring.read split reader.cursor maxBytes
    { reader with
      cursor := read.nextOffset
      received := reader.received ++ read.bytes.zipIdx (read.nextOffset - read.bytes.length) }

/-- The steps of a list, in order. -/
def run (reader : RingReader) (steps : List RingStep) : RingReader := steps.foldl step reader

/-- A reader of a ring of that capacity that has asked for the bytes from `afterOffset` on, at the
end of `stream`. -/
structure Follows (capacity afterOffset : ℕ) (stream : Bytes) (reader : RingReader) : Prop where
  window : reader.ring.Window stream
  capacity : reader.ring.capacity = max capacity 1
  /-- The cursor is at most the end, except for a reader that has asked beyond it. -/
  cursor : reader.cursor ≤ stream.length ∨ reader.received = []
  ordered : reader.offsets.Pairwise (· < ·)
  below : ∀ offset ∈ reader.offsets, offset < reader.cursor
  bytes : ∀ received ∈ reader.received, stream[received.2]? = some received.1
  held : ∀ offset, afterOffset ≤ offset → offset < reader.cursor →
    reader.ring.startOffset ≤ offset → offset ∈ reader.offsets

variable {capacity afterOffset : ℕ} {stream : Bytes} {reader : RingReader}

lemma follows_new (capacity afterOffset : ℕ) :
    Follows capacity afterOffset [] (new capacity afterOffset) where
  window := ByteRing.window_new capacity
  capacity := rfl
  cursor := .inr rfl
  ordered := .nil
  below _ hmem := absurd hmem List.not_mem_nil
  bytes _ hmem := absurd hmem List.not_mem_nil
  held _ hafter hcursor _ := absurd hcursor (Nat.not_lt.mpr hafter)

/-- Appending evicts, and what it evicts is no longer promised. -/
lemma Follows.append (h : Follows capacity afterOffset stream reader) {input : Bytes}
    (hbound : (stream ++ input).length < 2 ^ 64) :
    Follows capacity afterOffset (stream ++ input) (reader.step (.append input)) where
  window := h.window.append hbound
  capacity := (ByteRing.append_capacity _ _).trans h.capacity
  cursor := h.cursor.imp_left fun hcursor => by
    rw [List.length_append]
    exact hcursor.trans (Nat.le_add_right _ _)
  ordered := h.ordered
  below := h.below
  bytes received hmem := by
    have hold := h.bytes received hmem
    have hlt : received.2 < stream.length := (List.getElem?_eq_some_iff.mp hold).1
    rw [List.getElem?_append_left hlt]
    exact hold
  held offset hafter hcursor hstart := by
    refine h.held offset hafter hcursor (le_trans ?_ hstart)
    have hbefore := h.window.startOffset
    have hgrown := (h.window.append hbound).startOffset
    rw [ByteRing.append_capacity, List.length_append] at hgrown
    change reader.ring.startOffset ≤ (reader.ring.append input).2.startOffset
    omega

/-- Where a read starts, and how many bytes it returns. -/
def nextStart (reader : RingReader) (stream : Bytes) : ℕ :=
  max reader.ring.startOffset (min reader.cursor stream.length)

/-- A read returns the bytes of the stream from its start on, and moves the cursor behind them. -/
lemma Follows.step_read (h : Follows capacity afterOffset stream reader) (split maxBytes : ℕ) :
    let start := reader.nextStart stream
    let length := min maxBytes (stream.length - start)
    reader.step (.read split maxBytes) =
      { reader with
        cursor := start + length
        received := reader.received ++ ((stream.drop start).take length).zipIdx start } := by
  intro start length
  have hread := h.window.read_eq split reader.cursor maxBytes
  have hlength : ((stream.drop start).take length).length = length := by
    rw [List.length_take, List.length_drop]
    omega
  have hstart : start + length - ((stream.drop start).take length).length = start := by omega
  change (let read := reader.ring.read split reader.cursor maxBytes
    { reader with
      cursor := read.nextOffset
      received := reader.received ++
        read.bytes.zipIdx (read.nextOffset - read.bytes.length) } : RingReader) = _
  rw [hread]
  change ({ reader with
      cursor := start + length
      received := reader.received ++ ((stream.drop start).take length).zipIdx
        (start + length - ((stream.drop start).take length).length) } : RingReader) = _
  rw [hstart]

lemma Follows.read (h : Follows capacity afterOffset stream reader) (split maxBytes : ℕ) :
    Follows capacity afterOffset stream (reader.step (.read split maxBytes)) := by
  rw [h.step_read]
  set start := reader.nextStart stream with hstart
  set length := min maxBytes (stream.length - start) with hlength
  have hwindow := h.window.startOffset
  have hfrom : start = max reader.ring.startOffset (min reader.cursor stream.length) := hstart
  have hoffsets : (((stream.drop start).take length).zipIdx start).map Prod.snd =
      List.range' start length := by
    rw [List.zipIdx_map_snd, List.length_take, List.length_drop]
    congr 1
    omega
  have hnew : ∀ offset, offset ∈ List.range' start length ↔
      start ≤ offset ∧ offset < start + length := fun offset => by
    rw [List.mem_range'_1]
  -- what was received earlier lies below the start of this read
  have hearlier : ∀ offset ∈ reader.offsets, offset < start := by
    intro offset hmem
    have hbelow := h.below offset hmem
    rcases h.cursor with hcursor | hnone
    · omega
    · rw [offsets, hnone] at hmem
      exact absurd hmem List.not_mem_nil
  constructor
  · exact h.window
  · exact h.capacity
  · left
    change start + length ≤ stream.length
    omega
  · rw [offsets, List.map_append, hoffsets, List.pairwise_append]
    refine ⟨h.ordered, List.pairwise_lt_range' .., fun old hold new hmem => ?_⟩
    exact lt_of_lt_of_le (hearlier old hold) ((hnew new).mp hmem).1
  · intro offset hmem
    rw [offsets, List.map_append, hoffsets, List.mem_append] at hmem
    change offset < start + length
    rcases hmem with hold | hmem
    · exact lt_of_lt_of_le (hearlier offset hold) (Nat.le_add_right _ _)
    · exact ((hnew offset).mp hmem).2
  · intro received hmem
    rcases List.mem_append.mp hmem with hold | hmem
    · exact h.bytes received hold
    · obtain ⟨byte, offset⟩ := received
      obtain ⟨hle, hget⟩ := List.mem_zipIdx_iff_le_and_getElem?_sub.mp hmem
      obtain ⟨hlt, -⟩ := List.getElem?_eq_some_iff.mp hget
      rw [List.length_take] at hlt
      rw [List.getElem?_take_of_lt (by omega), List.getElem?_drop] at hget
      rwa [Nat.add_sub_cancel' hle] at hget
  · intro offset hafter hcursor hheld
    rw [offsets, List.map_append, hoffsets, List.mem_append, hnew]
    by_cases hold : offset < reader.cursor
    · exact .inl (h.held offset hafter hold hheld)
    · right
      change offset < start + length at hcursor
      change reader.ring.startOffset ≤ offset at hheld
      omega

/-- Every run of appends and reads follows the stream. -/
lemma Follows.run (h : Follows capacity afterOffset stream reader) {steps : List RingStep}
    (hbound : (stream ++ steps.flatMap RingStep.appended).length < 2 ^ 64) :
    Follows capacity afterOffset (stream ++ steps.flatMap RingStep.appended) (reader.run steps) := by
  induction steps generalizing stream reader with
  | nil => simpa [RingReader.run] using h
  | cons step steps ih =>
    rw [List.flatMap_cons, ← List.append_assoc] at hbound ⊢
    cases step with
    | append input =>
      have hshort : (stream ++ input).length < 2 ^ 64 := by
        rw [List.length_append] at hbound
        exact lt_of_le_of_lt (Nat.le_add_right _ _) hbound
      exact ih (h.append hshort) hbound
    | read split maxBytes =>
      rw [RingStep.appended, List.append_nil] at hbound ⊢
      exact ih (h.read split maxBytes) hbound

/-- Reads of at least one byte each bring the cursor to the end, if there are as many of them as
bytes are left. -/
lemma Follows.run_reads (h : Follows capacity afterOffset stream reader) {reads : List RingStep}
    (hreads : ∀ step ∈ reads, ∃ split maxBytes, step = .read split maxBytes ∧ 0 < maxBytes)
    (hmany : stream.length - reader.nextStart stream ≤ reads.length) :
    Follows capacity afterOffset stream (reader.run reads) ∧
      (reader.run reads).ring = reader.ring ∧
      stream.length ≤ (reader.run reads).nextStart stream := by
  induction reads generalizing reader with
  | nil =>
    rw [List.length_nil] at hmany
    exact ⟨h, rfl, by change stream.length ≤ reader.nextStart stream; omega⟩
  | cons step reads ih =>
    obtain ⟨split, maxBytes, rfl, hpositive⟩ := hreads step List.mem_cons_self
    have hlater := fun step hmem => hreads step (List.mem_cons_of_mem _ hmem)
    have hstep := h.step_read split maxBytes
    have hring : (reader.step (.read split maxBytes)).ring = reader.ring := by rw [hstep]
    have hmoved : (reader.step (.read split maxBytes)).nextStart stream =
        max reader.ring.startOffset (min (reader.nextStart stream +
          min maxBytes (stream.length - reader.nextStart stream)) stream.length) := by
      rw [hstep]
      rfl
    have hle : reader.ring.startOffset ≤ reader.nextStart stream := Nat.le_max_left _ _
    rw [List.length_cons] at hmany
    obtain ⟨hfollows, hsame, hend⟩ := ih (h.read split maxBytes) hlater (by omega)
    exact ⟨hfollows, hsame.trans hring, hend⟩

/-- Exactly once: the offsets are distinct. -/
lemma Follows.count_eq_one (h : Follows capacity afterOffset stream reader) {offset : ℕ}
    (hmem : offset ∈ reader.offsets) : reader.offsets.count offset = 1 :=
  List.count_eq_one_of_mem (h.ordered.imp fun hlt => hlt.ne) hmem

end RingReader

/-- However appends and reads of a reader that continues from its next offset come after one
another, as long as fewer than 2^64 bytes are appended, the ring is the window onto its stream: it
holds the last bytes, as many as its capacity (at least one) allows, with their offsets; an append
returns the offset of its first byte; a read from any offset returns the bytes from there, or from
the nearest offset that is held, and the offset behind them, and reports a gap exactly if the
offset asked for is no longer held.  What the reader has received are bytes of the stream, none
twice, and from its first offset on every byte below its cursor that is still held; if it reads on
without appends in between, often enough and at least a byte each time, then it has received every
byte that is still held exactly once. -/
theorem ring_is_window (capacity afterOffset : ℕ) (steps : List RingStep)
    (hbound : (steps.flatMap RingStep.appended).length < 2 ^ 64) :
    let stream := steps.flatMap RingStep.appended
    let reader := (RingReader.new capacity afterOffset).run steps
    let held := min stream.length (max capacity 1)
    (reader.ring.bytes = stream.drop (stream.length - held) ∧ reader.ring.bytes.length = held ∧
      reader.ring.startOffset = stream.length - held ∧ reader.ring.endOffset = stream.length) ∧
    (∀ input, (reader.ring.append input).1 = stream.length) ∧
    (∀ split asked maxBytes,
      let start := max reader.ring.startOffset (min asked reader.ring.endOffset)
      let length := min maxBytes (reader.ring.endOffset - start)
      ((stream.drop start).take length).length = length ∧
      reader.ring.read split asked maxBytes =
        { requestedOffset := asked
          availableFrom := reader.ring.startOffset
          nextOffset := start + length
          gap := asked < reader.ring.startOffset
          bytes := (stream.drop start).take length }) ∧
    (reader.offsets.Pairwise (· < ·) ∧
      (∀ received ∈ reader.received, stream[received.2]? = some received.1) ∧
      ∀ offset, afterOffset ≤ offset → reader.ring.startOffset ≤ offset → offset < reader.cursor →
        reader.offsets.count offset = 1) ∧
    ∀ reads, (∀ step ∈ reads, ∃ split maxBytes, step = .read split maxBytes ∧ 0 < maxBytes) →
      held ≤ reads.length →
      ∀ offset, afterOffset ≤ offset → reader.ring.startOffset ≤ offset →
        offset < reader.ring.endOffset → (reader.run reads).offsets.count offset = 1 := by
  intro stream reader held
  have hfollows : reader.Follows capacity afterOffset stream :=
    (RingReader.follows_new capacity afterOffset).run hbound
  have hwindow := hfollows.window
  have hcapacity := hfollows.capacity
  have hstart := hwindow.startOffset
  have hend := hwindow.endOffset
  have hfrom : reader.ring.startOffset = stream.length - held := by omega
  refine ⟨⟨?_, ?_, hfrom, hend⟩, fun _ => ?_, ?_, ⟨hfollows.ordered, hfollows.bytes, ?_⟩, ?_⟩
  · rw [← hfrom]
    exact hwindow.bytes
  · rw [hwindow.bytes, List.length_drop]
    omega
  · rw [← hend]
    unfold ByteRing.append
    simp only
    split <;> rfl
  · intro split asked maxBytes start length
    refine ⟨?_, ?_⟩
    · rw [List.length_take, List.length_drop]
      omega
    · have hread := hwindow.read_eq split asked maxBytes
      rw [← hend] at hread
      exact hread
  · intro offset hafter hheld hcursor
    exact hfollows.count_eq_one (hfollows.held offset hafter hcursor hheld)
  · intro reads hreads hmany offset hafter hheld hlast
    have hle : reader.ring.startOffset ≤ reader.nextStart stream := Nat.le_max_left _ _
    obtain ⟨hdone, hsame, hreached⟩ := hfollows.run_reads hreads (by omega)
    have hcursor : stream.length ≤ max reader.ring.startOffset
        (min (reader.run reads).cursor stream.length) := by
      rw [← hsame]
      exact hreached
    refine hdone.count_eq_one (hdone.held offset hafter (by omega) ?_)
    rw [hsame]
    exact hheld

/-- Seven bytes pass through a ring of four, with a read of two before the last four are appended;
the reader misses the byte that was evicted meanwhile and receives the rest. -/
theorem ring_of_four_is_window :
    let steps : List RingStep := [.append [97, 98, 99], .read 2 2, .append [100, 101, 102, 103]]
    let reader := (RingReader.new 4 0).run steps
    reader.ring.bytes = [100, 101, 102, 103] ∧ reader.offsets = [0, 1] ∧
      ∀ offset, 3 ≤ offset → offset < 7 →
        (reader.run [.read 1 3, .read 1 1, .read 1 5, .read 1 5]).offsets.count offset = 1 := by
  intro steps reader
  have hwindow := ring_is_window 4 0 steps (by decide)
  refine ⟨by decide, by decide, fun offset hle hlt => ?_⟩
  refine hwindow.2.2.2.2 [.read 1 3, .read 1 1, .read 1 5, .read 1 5] ?_ (by decide) offset
    (Nat.zero_le _) hle hlt
  intro step hmem
  simp only [List.mem_cons, List.not_mem_nil, or_false] at hmem
  rcases hmem with rfl | rfl | rfl | rfl
  · exact ⟨1, 3, rfl, by decide⟩
  · exact ⟨1, 1, rfl, by decide⟩
  · exact ⟨1, 5, rfl, by decide⟩
  · exact ⟨1, 5, rfl, by decide⟩

end GdbAi
