import GdbAi.Mi.Ast
import Mathlib.Order.Nat

/-!
# The ring of output bytes

`ByteRing` keeps the last bytes of a stream, with the offsets of its first byte and of its end.  A
ring is a `Window` of its stream, `append` keeps it one, and what `read` returns is a slice of the
stream that ends at the next offset.
-/

namespace GdbAi

/-! ### 64-bit counters -/

/-- `u64::saturating_add`. -/
def saturatingAdd (a b : ℕ) : ℕ := min (a + b) (2 ^ 64 - 1)

/-- What `AtomicU64::fetch_add` stores. -/
def fetchAdd (a b : ℕ) : ℕ := (a + b) % 2 ^ 64

lemma saturatingAdd_eq {a b : ℕ} (h : a + b < 2 ^ 64) : saturatingAdd a b = a + b := by
  unfold saturatingAdd
  omega

/-! ### The ring -/

/-- `ByteRing`. -/
structure ByteRing where
  capacity : ℕ
  startOffset : ℕ
  endOffset : ℕ
  bytes : Bytes
deriving DecidableEq

/-- `RingRead`. -/
structure RingRead where
  requestedOffset : ℕ
  availableFrom : ℕ
  nextOffset : ℕ
  gap : Bool
  bytes : Bytes
deriving DecidableEq

/-- The two slices of a deque, read as one. -/
def stitch (first second : Bytes) (skip length : ℕ) : Bytes :=
  if skip < first.length then
    let bytes := (first.take (min (skip + length) first.length)).drop skip
    bytes ++ second.take (length - bytes.length)
  else
    let start := skip - first.length
    (second.take (start + length)).drop start

namespace ByteRing

/-- `ByteRing::new`. -/
def new (capacity : ℕ) : ByteRing := ⟨max capacity 1, 0, 0, []⟩

/-- `ByteRing::append`: the offset of the first byte, and the ring. -/
def append (ring : ByteRing) (input : Bytes) : ℕ × ByteRing :=
  let offset := ring.endOffset
  let endOffset := saturatingAdd ring.endOffset input.length
  if ring.capacity ≤ input.length then
    (offset, { ring with
      endOffset := endOffset
      bytes := input.drop (input.length - ring.capacity)
      startOffset := endOffset - ring.capacity })
  else
    let evicted := saturatingAdd ring.bytes.length input.length - ring.capacity
    (offset, { ring with
      endOffset := endOffset
      bytes := ring.bytes.drop evicted ++ input
      startOffset := saturatingAdd ring.startOffset evicted })

/-- `ByteRing::read`; the deque's first slice has `split` bytes. -/
def read (ring : ByteRing) (split afterOffset maxBytes : ℕ) : RingRead :=
  let actualStart := max ring.startOffset (min afterOffset ring.endOffset)
  let skip := actualStart - ring.startOffset
  let length := min maxBytes (ring.bytes.length - skip)
  let bytes := stitch (ring.bytes.take split) (ring.bytes.drop split) skip length
  { requestedOffset := afterOffset
    availableFrom := ring.startOffset
    nextOffset := actualStart + bytes.length
    gap := afterOffset < ring.startOffset
    bytes := bytes }

end ByteRing

/-! ### Slices -/

/-- Wherever the deque wraps, its bytes are read in order. -/
lemma stitch_eq (first second : Bytes) (skip length : ℕ) :
    stitch first second skip length = ((first ++ second).drop skip).take length := by
  unfold stitch
  split
  · rename_i hskip
    have hcut : min (skip + length) first.length - skip = min length (first.drop skip).length := by
      rw [List.length_drop]
      omega
    have hhead : (first.take (min (skip + length) first.length)).drop skip =
        (first.drop skip).take length := by
      rw [List.drop_take, hcut, ← List.take_eq_take_min]
    have htail : length - ((first.drop skip).take length).length =
        length - (first.drop skip).length := by
      rw [List.length_take]
      omega
    rw [List.drop_append_of_le_length hskip.le, List.take_append]
    simp only [hhead, htail]
  · rename_i hskip
    have hfirst : first.length ≤ skip := Nat.le_of_not_lt hskip
    rw [List.drop_append, List.drop_eq_nil_of_le hfirst, List.nil_append, List.drop_take]
    congr 1
    omega

/-! ### The ring as a window of its stream -/

namespace ByteRing

variable {stream : Bytes} {ring : ByteRing}

/-- The ring holds the last bytes of the stream, as many as it can. -/
structure Window (stream : Bytes) (ring : ByteRing) : Prop where
  positive : 0 < ring.capacity
  endOffset : ring.endOffset = stream.length
  startOffset : ring.startOffset = stream.length - ring.capacity
  bytes : ring.bytes = stream.drop ring.startOffset

lemma window_new (capacity : ℕ) : Window [] (new capacity) where
  positive := Nat.lt_of_lt_of_le Nat.zero_lt_one (Nat.le_max_right _ _)
  endOffset := rfl
  startOffset := (Nat.zero_sub _).symm
  bytes := rfl

@[simp] lemma append_capacity (ring : ByteRing) (input : Bytes) :
    (ring.append input).2.capacity = ring.capacity := by
  unfold ByteRing.append
  simp only
  split <;> rfl

lemma Window.append (h : Window stream ring) {input : Bytes}
    (hbound : (stream ++ input).length < 2 ^ 64) :
    Window (stream ++ input) (ring.append input).2 := by
  have hpositive := h.positive
  have hend := h.endOffset
  have hstart := h.startOffset
  rw [List.length_append] at hbound
  have hsaturates : saturatingAdd ring.endOffset input.length = stream.length + input.length := by
    rw [hend]
    exact saturatingAdd_eq hbound
  unfold ByteRing.append
  simp only [hsaturates]
  split
  · -- the input alone fills the ring
    rename_i hfills
    refine ⟨hpositive, List.length_append.symm, by rw [List.length_append], ?_⟩
    have hevicted : stream.drop (stream.length + input.length - ring.capacity) = [] :=
      List.drop_eq_nil_of_le (by omega)
    simp only [List.drop_append, hevicted, List.nil_append]
    congr 1
    omega
  · rename_i hroom
    have hheld : ring.bytes.length = stream.length - ring.startOffset := by
      rw [h.bytes, List.length_drop]
    have hsum : saturatingAdd ring.bytes.length input.length = ring.bytes.length + input.length :=
      saturatingAdd_eq (by omega)
    have hmoved : saturatingAdd ring.startOffset
        (ring.bytes.length + input.length - ring.capacity) =
          stream.length + input.length - ring.capacity := by
      rw [saturatingAdd_eq (by omega)]
      omega
    simp only [hsum, hmoved]
    refine ⟨hpositive, List.length_append.symm, by rw [List.length_append], ?_⟩
    simp only
    rw [List.drop_append_of_le_length (by omega), h.bytes, List.drop_drop, ← h.bytes]
    congr 2
    omega

/-- What a read returns: it starts at the offset asked for, or as near to it as bytes are held. -/
lemma Window.read_eq (h : Window stream ring) (split afterOffset maxBytes : ℕ) :
    let start := max ring.startOffset (min afterOffset stream.length)
    let length := min maxBytes (stream.length - start)
    ring.read split afterOffset maxBytes =
      { requestedOffset := afterOffset
        availableFrom := ring.startOffset
        nextOffset := start + length
        gap := afterOffset < ring.startOffset
        bytes := (stream.drop start).take length } := by
  intro start length
  have hend := h.endOffset
  have hstart := h.startOffset
  have hheld : ring.bytes.length = stream.length - ring.startOffset := by
    rw [h.bytes, List.length_drop]
  have hactual : max ring.startOffset (min afterOffset ring.endOffset) = start := by rw [hend]
  have hcount : min maxBytes (ring.bytes.length - (start - ring.startOffset)) = length := by
    rw [hheld]
    omega
  have hbytes : stitch (ring.bytes.take split) (ring.bytes.drop split)
      (start - ring.startOffset) length = (stream.drop start).take length := by
    rw [stitch_eq, List.take_append_drop, h.bytes, List.drop_drop]
    congr 2
    omega
  have hlength : ((stream.drop start).take length).length = length := by
    rw [List.length_take, List.length_drop]
    omega
  simp only [ByteRing.read, hactual, hcount, hbytes, hlength]

end ByteRing

end GdbAi
