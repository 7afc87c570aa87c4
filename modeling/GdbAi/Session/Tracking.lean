import GdbAi.Library.Base64
import GdbAi.Library.Json
import GdbAi.Library.Patches

/-!
# Changes of tracked memory

`tracking_change` of `gdb-ai-core/src/session/actor.rs`: what changed between two observations of a
tracked range.  Two loops walk over both buffers with one offset, and stop at 128 ranges or 4096
positions.  `Found` is what holds between two rounds of the outer loop; from it comes
`changedRanges_faithful`: the ranges are apart, show differing positions only, skip none, and make a
patch unless a limit was reached.
-/

namespace GdbAi

open Patches

/-! ### The two loops -/

/-- The inner loop: the end of the differing positions from `offset` on, of which `left` are still
to be looked at. -/
def differingEnd (before after : List UInt8) : (left offset : ℕ) → ℕ
  | 0, offset => offset
  | left + 1, offset =>
    if before[offset]? ≠ after[offset]? then differingEnd before after left (offset + 1)
    else offset

/-- The inner loop does not go back. -/
lemma le_differingEnd (before after : List UInt8) (left offset : ℕ) :
    offset ≤ differingEnd before after left offset := by
  induction left generalizing offset with
  | zero => exact le_rfl
  | succ left ih =>
    rw [differingEnd]
    split
    · exact (Nat.le_succ offset).trans (ih (offset + 1))
    · exact le_rfl

/-- The inner loop does not pass the last position. -/
lemma differingEnd_le (before after : List UInt8) (left offset : ℕ) :
    differingEnd before after left offset ≤ offset + left := by
  induction left generalizing offset with
  | zero => exact le_rfl
  | succ left ih =>
    rw [differingEnd]
    split
    · have := ih (offset + 1)
      omega
    · exact Nat.le_add_right _ _

variable {before after : List UInt8}

/-- The buffers differ up to the end that was found. -/
lemma differs_of_lt_differingEnd {left offset position : ℕ} (hlow : offset ≤ position)
    (hhigh : position < differingEnd before after left offset) :
    before[position]? ≠ after[position]? := by
  induction left generalizing offset with
  | zero => exact absurd hhigh (not_lt.mpr hlow)
  | succ left ih =>
    rw [differingEnd] at hhigh
    split at hhigh
    · next hdiffers =>
      rcases hlow.eq_or_lt with rfl | hlow
      · exact hdiffers
      · exact ih hlow hhigh
    · exact absurd hhigh (not_lt.mpr hlow)

/-- At the end that was found the buffers agree, or nothing was left to look at. -/
lemma agrees_at_differingEnd (before after : List UInt8) (left offset : ℕ) :
    differingEnd before after left offset = offset + left ∨
      before[differingEnd before after left offset]? =
        after[differingEnd before after left offset]? := by
  induction left generalizing offset with
  | zero => exact .inl rfl
  | succ left ih =>
    rw [differingEnd]
    split
    · rcases ih (offset + 1) with hend | hagrees
      · exact .inl (by omega)
      · exact .inr hagrees
    · next hsame => exact .inr (not_not.mp hsame)

/-- The length of the longer buffer. -/
def maximumLength (before after : List UInt8) : ℕ := max before.length after.length

/-- The end of the differing positions from `offset` on. -/
def rangeEnd (before after : List UInt8) (offset : ℕ) : ℕ :=
  differingEnd before after (maximumLength before after - offset) offset

variable {offset : ℕ}

/-- A range has a position. -/
lemma lt_rangeEnd (hoffset : offset < maximumLength before after)
    (hdiffers : before[offset]? ≠ after[offset]?) : offset < rangeEnd before after offset := by
  obtain ⟨left, hleft⟩ := Nat.exists_eq_add_of_lt hoffset
  have hcount : maximumLength before after - offset = left + 1 := by omega
  rw [rangeEnd, hcount, differingEnd, if_pos hdiffers]
  exact le_differingEnd before after left (offset + 1)

/-- A range ends inside the longer buffer. -/
lemma rangeEnd_le (hoffset : offset < maximumLength before after) :
    rangeEnd before after offset ≤ maximumLength before after := by
  have := differingEnd_le before after (maximumLength before after - offset) offset
  rw [rangeEnd]
  omega

/-- Behind a range the buffers agree. -/
lemma agrees_at_rangeEnd (hoffset : offset < maximumLength before after) :
    before[rangeEnd before after offset]? = after[rangeEnd before after offset]? := by
  rcases agrees_at_differingEnd before after (maximumLength before after - offset) offset with
    hend | hagrees
  · by_contra hdiffers
    have hlt := lt_max_length_of_differs hdiffers
    have hlength : maximumLength before after = max before.length after.length := rfl
    rw [rangeEnd] at hlt
    omega
  · exact hagrees

/-- The outer loop of `tracking_change` from `offset` on, with the ranges so far and the positions
`emitted` in them; the ranges at its end and whether something was left out. -/
def changedRanges (before after : List UInt8) (offset emitted : ℕ) (ranges : List (Hunk UInt8)) :
    List (Hunk UInt8) × Bool :=
  if _hmore : offset < maximumLength before after ∧ ranges.length < 128 ∧ emitted < 4 * 1024 then
    if hsame : before[offset]? = after[offset]? then
      changedRanges before after (offset + 1) emitted ranges
    else
      let visibleEnd := min (rangeEnd before after offset) (offset + (4 * 1024 - emitted))
      let ranges := ranges ++ [Hunk.between before after offset visibleEnd]
      if visibleEnd < rangeEnd before after offset then (ranges, true)
      else
        changedRanges before after (rangeEnd before after offset)
          (emitted + (visibleEnd - offset)) ranges
  else (ranges, decide (offset < maximumLength before after))
  termination_by maximumLength before after - offset
  decreasing_by
    · omega
    · have := lt_rangeEnd _hmore.1 hsame
      omega

/-! ### Between two rounds -/

/-- What holds before each round of the outer loop. -/
structure Found (before after : List UInt8) (offset emitted : ℕ) (ranges : List (Hunk UInt8)) :
    Prop where
  shows : ∀ range ∈ ranges, range.Shows before after
  nonempty : ∀ range ∈ ranges, 0 < range.extent
  separated : Separated ranges
  /-- A range that reaches up to the offset ends there because the buffers agree. -/
  behind : ∀ range ∈ ranges, range.stop ≤ offset ∧
    (range.stop = offset → before[offset]? = after[offset]?)
  complete : ∀ position < offset, before[position]? ≠ after[position]? →
    ∃ range ∈ ranges, range.Has position
  emitted_eq : (ranges.map Hunk.extent).sum = emitted
  emitted_le : emitted ≤ 4 * 1024
  length_le : ranges.length ≤ 128

/-- The ranges of a change describe it: at most 128 of them with at most 4096 positions, apart from
each other, each showing differing positions only, with no difference left out in front of a range,
and a patch unless the change is truncated, which takes as many ranges or positions as there may
be. -/
structure Faithful (before after : List UInt8) (ranges : List (Hunk UInt8)) (truncated : Bool) :
    Prop where
  shows : ∀ range ∈ ranges, range.Shows before after
  nonempty : ∀ range ∈ ranges, 0 < range.extent
  separated : Separated ranges
  length_le : ranges.length ≤ 128
  positions_le : (ranges.map Hunk.extent).sum ≤ 4 * 1024
  leading : ∀ range ∈ ranges, ∀ position < range.stop, before[position]? ≠ after[position]? →
    ∃ shown ∈ ranges, shown.Has position
  limited : truncated = true → ranges.length = 128 ∨ (ranges.map Hunk.extent).sum = 4 * 1024
  patch : truncated = false → apply ranges before = after

namespace Found

variable {before after : List UInt8} {offset emitted : ℕ} {ranges : List (Hunk UInt8)}

/-- In front of the first round nothing was found. -/
lemma start (before after : List UInt8) : Found before after 0 0 [] where
  shows := by simp
  nonempty := by simp
  separated := List.Pairwise.nil
  behind := by simp
  complete := by simp
  emitted_eq := rfl
  emitted_le := Nat.zero_le _
  length_le := Nat.zero_le _

/-- A position at which the buffers agree is passed over. -/
lemma skip (h : Found before after offset emitted ranges)
    (hsame : before[offset]? = after[offset]?) :
    Found before after (offset + 1) emitted ranges where
  shows := h.shows
  nonempty := h.nonempty
  separated := h.separated
  behind := by
    intro range hrange
    have := (h.behind range hrange).1
    exact ⟨by omega, fun hstop => absurd hstop (by omega)⟩
  complete := by
    intro position hposition hdiffers
    rcases Nat.lt_succ_iff_lt_or_eq.mp hposition with hlt | rfl
    · exact h.complete position hlt hdiffers
    · exact absurd hsame hdiffers
  emitted_eq := h.emitted_eq
  emitted_le := h.emitted_le
  length_le := h.length_le

/-- One more range, of differing positions from the offset on. -/
structure Extends (before after : List UInt8) (offset emitted : ℕ) (ranges : List (Hunk UInt8))
    (visibleEnd : ℕ) : Prop where
  found : Found before after offset emitted ranges
  room : ranges.length < 128
  offset_lt : offset < visibleEnd
  end_le : visibleEnd ≤ rangeEnd before after offset
  fits : emitted + (visibleEnd - offset) ≤ 4 * 1024
  inside : offset < maximumLength before after
  differs : before[offset]? ≠ after[offset]?

namespace Extends

variable {visibleEnd : ℕ} (h : Extends before after offset emitted ranges visibleEnd)
include h

/-- The range ends inside the longer buffer. -/
lemma end_le_length : visibleEnd ≤ max before.length after.length :=
  h.end_le.trans (rangeEnd_le h.inside)

/-- The range has as many positions as are shown. -/
lemma extent_eq : (Hunk.between before after offset visibleEnd).extent = visibleEnd - offset :=
  extent_between h.end_le_length

/-- The range ends where the shown part ends. -/
lemma stop_eq : (Hunk.between before after offset visibleEnd).stop = visibleEnd :=
  stop_between h.offset_lt.le h.end_le_length

/-- All ranges show both buffers. -/
lemma shows : ∀ range ∈ ranges ++ [Hunk.between before after offset visibleEnd],
    range.Shows before after := by
  intro range hrange
  rcases List.mem_append.mp hrange with hrange | hrange
  · exact h.found.shows range hrange
  · obtain rfl := List.mem_singleton.mp hrange
    refine shows_between h.offset_lt.le h.end_le_length fun position hlow hhigh => ?_
    exact differs_of_lt_differingEnd hlow (hhigh.trans_le h.end_le)

/-- No range is empty. -/
lemma nonempty : ∀ range ∈ ranges ++ [Hunk.between before after offset visibleEnd],
    0 < range.extent := by
  intro range hrange
  rcases List.mem_append.mp hrange with hrange | hrange
  · exact h.found.nonempty range hrange
  · obtain rfl := List.mem_singleton.mp hrange
    rw [h.extent_eq]
    exact Nat.sub_pos_of_lt h.offset_lt

/-- The new range does not touch one before it: there the buffers agree at the offset. -/
lemma separated : Separated (ranges ++ [Hunk.between before after offset visibleEnd]) := by
  refine List.pairwise_append.mpr ⟨h.found.separated, List.pairwise_singleton _ _, ?_⟩
  intro range hrange last hlast
  obtain rfl := List.mem_singleton.mp hlast
  obtain ⟨hle, hagrees⟩ := h.found.behind range hrange
  exact hle.lt_of_ne fun hstop => h.differs (hagrees hstop)

/-- The positions of all ranges. -/
lemma positions : ((ranges ++ [Hunk.between before after offset visibleEnd]).map Hunk.extent).sum =
      emitted + (visibleEnd - offset) := by
  simp only [List.map_append, List.map_cons, List.map_nil, List.sum_append, List.sum_cons,
    List.sum_nil, h.found.emitted_eq, h.extent_eq, Nat.add_zero]

/-- There was room for one more range. -/
lemma length_le : (ranges ++ [Hunk.between before after offset visibleEnd]).length ≤ 128 := by
  rw [List.length_append]
  exact h.room

/-- Every differing position up to the end of the new range lies in a range. -/
lemma complete : ∀ position < visibleEnd, before[position]? ≠ after[position]? →
    ∃ range ∈ ranges ++ [Hunk.between before after offset visibleEnd], range.Has position := by
  intro position hposition hdiffers
  by_cases hold : position < offset
  · obtain ⟨range, hrange, hhas⟩ := h.found.complete position hold hdiffers
    exact ⟨range, List.mem_append_left _ hrange, hhas⟩
  · refine ⟨_, List.mem_append_right _ (List.mem_singleton_self _), not_lt.mp hold, ?_⟩
    rw [h.stop_eq]
    exact hposition

/-- A range that is shown to its end is followed by a round behind it. -/
lemma next (hend : visibleEnd = rangeEnd before after offset) :
    Found before after visibleEnd (emitted + (visibleEnd - offset))
      (ranges ++ [Hunk.between before after offset visibleEnd]) where
  shows := h.shows
  nonempty := h.nonempty
  separated := h.separated
  behind := by
    intro range hrange
    rcases List.mem_append.mp hrange with hrange | hrange
    · have := (h.found.behind range hrange).1
      have := h.offset_lt
      exact ⟨by omega, fun hstop => absurd hstop (by omega)⟩
    · obtain rfl := List.mem_singleton.mp hrange
      rw [h.stop_eq, hend]
      exact ⟨le_rfl, fun _ => agrees_at_rangeEnd h.inside⟩
  complete := h.complete
  emitted_eq := h.positions
  emitted_le := h.fits
  length_le := h.length_le

/-- No range ends behind the new one. -/
lemma stop_le : ∀ range ∈ ranges ++ [Hunk.between before after offset visibleEnd],
    range.stop ≤ visibleEnd := by
  intro range hrange
  rcases List.mem_append.mp hrange with hrange | hrange
  · exact (h.found.behind range hrange).1.trans h.offset_lt.le
  · obtain rfl := List.mem_singleton.mp hrange
    exact h.stop_eq.le

/-- A range that is cut short, where no more positions may be shown, ends the loop. -/
lemma faithful_truncated (hfull : emitted + (visibleEnd - offset) = 4 * 1024) :
    Faithful before after (ranges ++ [Hunk.between before after offset visibleEnd]) true where
  shows := h.shows
  nonempty := h.nonempty
  separated := h.separated
  length_le := h.length_le
  positions_le := h.positions.trans_le h.fits
  leading range hrange position hposition :=
    h.complete position (hposition.trans_le (h.stop_le range hrange))
  limited _ := .inr (h.positions.trans hfull)
  patch := by simp

end Extends

/-- When the loop ends the ranges are a patch, unless it ended before the end of the buffers, at one
of its limits. -/
lemma faithful (h : Found before after offset emitted ranges)
    (hdone : ¬(offset < maximumLength before after ∧ ranges.length < 128 ∧ emitted < 4 * 1024)) :
    Faithful before after ranges (decide (offset < maximumLength before after)) where
  shows := h.shows
  nonempty := h.nonempty
  separated := h.separated
  length_le := h.length_le
  positions_le := h.emitted_eq.trans_le h.emitted_le
  leading range hrange position hposition :=
    h.complete position (hposition.trans_le (h.behind range hrange).1)
  limited := by
    intro htruncated
    have hmore := of_decide_eq_true htruncated
    have := h.length_le
    have := h.emitted_le
    rw [h.emitted_eq]
    omega
  patch := by
    intro htruncated
    have hend : maximumLength before after ≤ offset := not_lt.mp (of_decide_eq_false htruncated)
    refine apply_eq_of_complete h.shows h.separated fun position hdiffers => ?_
    exact h.complete position ((lt_max_length_of_differs hdiffers).trans_le hend) hdiffers

end Found

/-- The loop leaves a faithful description, from every round on. -/
lemma changedRanges_faithful {offset emitted : ℕ} {ranges : List (Hunk UInt8)}
    (h : Found before after offset emitted ranges) :
    Faithful before after (changedRanges before after offset emitted ranges).1
      (changedRanges before after offset emitted ranges).2 := by
  fun_induction changedRanges before after offset emitted ranges with
  | case1 offset emitted ranges hmore hsame ih => exact ih (h.skip hsame)
  | case2 offset emitted ranges hmore hdiffers visibleEnd ranges' hcut =>
    have hlt := lt_rangeEnd hmore.1 hdiffers
    exact (Found.Extends.mk h hmore.2.1 (by omega) (by omega) (by omega) hmore.1
      hdiffers).faithful_truncated (by omega)
  | case3 offset emitted ranges hmore hdiffers visibleEnd ranges' hwhole ih =>
    have hlt := lt_rangeEnd hmore.1 hdiffers
    have hend : visibleEnd = rangeEnd before after offset := by omega
    rw [← hend] at ih ⊢
    exact ih ((Found.Extends.mk h hmore.2.1 (by omega) (by omega) (by omega) hmore.1
      hdiffers).next hend)
  | case4 offset emitted ranges hdone => exact h.faithful hdone

/-! ### The change -/

/-- The bytes of an observation of tracked memory. -/
def decodedData (observation : Json) : Option (List UInt8) :=
  ((observation.get "data_base64").bind Json.asStr).bind fun text => Base64.decode text.toList

/-- One of the `changed_ranges`. -/
def rangeJson (range : Hunk UInt8) : Json :=
  .object [
    ("offset", .unsigned range.offset),
    ("before_base64", .string (String.ofList (Base64.encode range.before))),
    ("after_base64", .string (String.ofList (Base64.encode range.after)))]

/-- The change between two observations with `ranges`. -/
def changeJson (before after : Json) (ranges : List (Hunk UInt8)) (truncated : Bool) : Json :=
  .object [
    ("before_sha256", (before.get "sha256").getD .null),
    ("after_sha256", (after.get "sha256").getD .null),
    ("changed_ranges", .array (ranges.map rangeJson)),
    ("truncated", .bool truncated)]

/-- `tracking_change`. -/
def trackingChange (before after : Json) : Json :=
  match decodedData before, decodedData after with
  | some beforeBytes, some afterBytes =>
    let (ranges, truncated) := changedRanges beforeBytes afterBytes 0 0 []
    changeJson before after ranges truncated
  | _, _ => .object [("before", before), ("after", after)]

/-- The bytes an observation was made of are the bytes read from it. -/
lemma decodedData_encode {observation : Json} {bytes : List UInt8}
    (h : observation.get "data_base64" = some (.string (String.ofList (Base64.encode bytes)))) :
    decodedData observation = some bytes := by
  rw [decodedData, h]
  show Base64.decode (String.ofList (Base64.encode bytes)).toList = some bytes
  rw [String.toList_ofList, Base64.decode_encode]

/-- Two observations of tracked memory, whatever their bytes and lengths, are compared faithfully:
the changed ranges ascend and are apart, each shows what both buffers have at its positions and only
differing positions, no difference in front of a range is left out, there are at most 128 of them
with at most 4096 positions, and they turn the one buffer into the other unless the change is
truncated, which it is only with as many ranges or positions as there may be. -/
theorem trackingChange_faithful (before after : Json) (old new : List UInt8)
    (hbefore : decodedData before = some old) (hafter : decodedData after = some new) :
    ∃ ranges truncated, trackingChange before after = changeJson before after ranges truncated ∧
      Faithful old new ranges truncated := by
  refine ⟨_, _, ?_, changedRanges_faithful (Found.start old new)⟩
  rw [trackingChange, hbefore, hafter]

/-- An observation with the given bytes. -/
def observedBytes (bytes : List UInt8) : Json :=
  .object [("data_base64", .string (String.ofList (Base64.encode bytes)))]

/-- Two bytes change and the buffer grows by one. -/
theorem grown_buffer_faithful : ∃ ranges truncated,
    trackingChange (observedBytes [0, 0, 0, 0, 9]) (observedBytes [0, 1, 2, 0, 9, 7]) =
        changeJson (observedBytes [0, 0, 0, 0, 9]) (observedBytes [0, 1, 2, 0, 9, 7])
          ranges truncated ∧
      Faithful [0, 0, 0, 0, 9] [0, 1, 2, 0, 9, 7] ranges truncated :=
  trackingChange_faithful _ _ _ _ (decodedData_encode rfl) (decodedData_encode rfl)

example : changedRanges [0, 0, 0, 0, 9] [0, 1, 2, 0, 9, 7] 0 0 [] =
    ([⟨1, [0, 0], [1, 2]⟩, ⟨5, [], [7]⟩], false) := by
  decide +kernel

end GdbAi
