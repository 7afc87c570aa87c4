import GdbAi.Mi.Ast

/-!
# Framing byte chunks into records

`MiFramer` of `gdb-ai-mi/src/framer.rs` cuts the bytes GDB writes into records while they
arrive in arbitrary chunks.  The specification says what the records of the whole stream are:
its lines, split at LF.  `pushAll_new` shows that the chunk boundaries do not matter.
-/

namespace GdbAi

/-- Complete records preceding an optional terminal framing error. -/
structure MiFrames where
  records : List Bytes
  error : Option MiError
  deriving DecidableEq, Repr

/-- The framer: the bytes not yet delivered, of which the first `scanned` hold no LF. -/
structure MiFramer where
  buffer : Bytes
  scanned : ℕ
  maxRecordBytes : ℕ
  deriving DecidableEq, Repr

/-- Remove one trailing CR. -/
def stripCr (record : Bytes) : Bytes :=
  if record.getLast? = some Byte.cr then record.dropLast else record

namespace MiFramer

/-- `MiFramer::new`. -/
def new (limits : MiLimits) : MiFramer := ⟨[], 0, limits.maxRecordBytes⟩

/-- The loop of `push_into`: deliver the records whose LF has arrived. -/
def drain (self : MiFramer) : MiFrames × MiFramer :=
  match _hfind : (self.buffer.drop self.scanned).findIdx? (· = Byte.lf) with
  | none => (⟨[], none⟩, self)
  | some relative =>
    let newline := self.scanned + relative
    if newline > self.maxRecordBytes then
      (⟨[], some (.limit "record bytes" self.maxRecordBytes)⟩, self)
    else
      let record := stripCr (self.buffer.take (newline + 1)).dropLast
      let (frames, next) :=
        drain { self with buffer := self.buffer.drop (newline + 1), scanned := 0 }
      if record = [] then (frames, next)
      else (⟨record :: frames.records, frames.error⟩, next)
termination_by self.buffer.length
decreasing_by
  have hpos : 0 < self.buffer.length := by
    obtain ⟨hlt, -⟩ := List.findIdx?_eq_some_iff_findIdx_eq.mp _hfind
    simp only [List.length_drop] at hlt
    omega
  simp only [List.length_drop]
  omega

/-- `MiFramer::push`. -/
def push (self : MiFramer) (input : Bytes) : MiFrames × MiFramer :=
  if self.buffer.length + input.length > self.maxRecordBytes && !input.contains Byte.lf then
    (⟨[], some (.limit "unterminated record" self.maxRecordBytes)⟩, self)
  else
    let (frames, self) := { self with buffer := self.buffer ++ input }.drain
    if frames.error.isSome then (frames, self)
    else
      let self := { self with scanned := self.buffer.length }
      if self.buffer.length > self.maxRecordBytes then
        ({ frames with
            error := some (.limit "unterminated record" self.maxRecordBytes) }, self)
      else (frames, self)

/-- `MiFramer::finish`. -/
def finish (self : MiFramer) : Except MiError (Option Bytes) × MiFramer :=
  if self.buffer = [] then (.ok none, self)
  else if self.buffer.length > self.maxRecordBytes then
    (.error (.limit "record bytes" self.maxRecordBytes), self)
  else (.ok (some self.buffer), { self with buffer := [], scanned := 0 })

/-- Push chunks in order and stop at the first framing error, as the reader does. -/
def pushAll (self : MiFramer) : List Bytes → MiFrames × MiFramer
  | [] => (⟨[], none⟩, self)
  | chunk :: chunks =>
    let (frames, next) := self.push chunk
    if frames.error.isSome then (frames, next)
    else
      let (later, last) := next.pushAll chunks
      (⟨frames.records ++ later.records, later.error⟩, last)

end MiFramer

/-! ### The records of a stream -/

namespace Framing

/-- The pieces of a stream between its LFs; the last one is not terminated. -/
def segments (stream : Bytes) : List Bytes := stream.splitOn Byte.lf

/-- The LF-terminated lines of a stream. -/
def lines (stream : Bytes) : List Bytes := (segments stream).dropLast

/-- The unterminated tail of a stream. -/
def tail (stream : Bytes) : Bytes := (segments stream).getLastD []

/-- Some line, or the unterminated tail, is longer than the limit. -/
def Overlong (limit : ℕ) (stream : Bytes) : Prop := ∃ s ∈ segments stream, limit < s.length

/-- The lines before the first overlong one, without one trailing CR and without empty ones. -/
def delivered (limit : ℕ) (stream : Bytes) : List Bytes :=
  (((lines stream).takeWhile (·.length ≤ limit)).map stripCr).filter (· ≠ [])

/-- A stream has no LF, or it starts with a line. -/
lemma line_or_tail (stream : Bytes) :
    Byte.lf ∉ stream ∨ ∃ l rest, Byte.lf ∉ l ∧ stream = l ++ Byte.lf :: rest := by
  by_cases h : Byte.lf ∈ stream
  · obtain ⟨l, rest, rfl, hl⟩ := List.eq_append_cons_of_mem h
    exact .inr ⟨l, rest, hl, rfl⟩
  · exact .inl h

lemma segments_of_notMem {b : Bytes} (h : Byte.lf ∉ b) : segments b = [b] := by
  refine List.splitOnP_eq_singleton fun byte hbyte => ?_
  rw [beq_eq_false_iff_ne]
  rintro rfl
  exact h hbyte

lemma segments_line {l : Bytes} (h : Byte.lf ∉ l) (rest : Bytes) :
    segments (l ++ Byte.lf :: rest) = l :: segments rest := by
  refine List.splitOnP_append_cons_of_forall_mem (fun byte hbyte => ?_) _ (by simp) rest
  rw [beq_eq_false_iff_ne]
  rintro rfl
  exact h hbyte

lemma segments_ne_nil (stream : Bytes) : segments stream ≠ [] := by
  rcases line_or_tail stream with h | ⟨l, rest, h, rfl⟩
  · simp [segments_of_notMem h]
  · simp [segments_line h]

lemma lines_line {l : Bytes} (h : Byte.lf ∉ l) (rest : Bytes) :
    lines (l ++ Byte.lf :: rest) = l :: lines rest := by
  rw [lines, segments_line h, List.dropLast_cons_of_ne_nil (segments_ne_nil rest), lines]

lemma tail_line {l : Bytes} (h : Byte.lf ∉ l) (rest : Bytes) :
    tail (l ++ Byte.lf :: rest) = tail rest := by
  obtain ⟨s, ss, hs⟩ := List.exists_cons_of_ne_nil (segments_ne_nil rest)
  rw [tail, tail, segments_line h, hs]
  rfl

lemma overlong_line {limit : ℕ} {l : Bytes} (h : Byte.lf ∉ l) (rest : Bytes) :
    Overlong limit (l ++ Byte.lf :: rest) ↔ limit < l.length ∨ Overlong limit rest := by
  rw [Overlong, segments_line h, Overlong, List.exists_mem_cons_iff]

/-- A line within the limit is delivered unless nothing of it remains. -/
lemma delivered_line {limit : ℕ} {l : Bytes} (h : Byte.lf ∉ l) (hl : l.length ≤ limit)
    (rest : Bytes) :
    delivered limit (l ++ Byte.lf :: rest) =
      if stripCr l = [] then delivered limit rest else stripCr l :: delivered limit rest := by
  rw [delivered, lines_line h, List.takeWhile_cons_of_pos (by simpa using hl), List.map_cons,
    List.filter_cons]
  by_cases hstrip : stripCr l = []
  · rw [if_neg (by simpa using hstrip), if_pos hstrip, delivered]
  · rw [if_pos (by simpa using hstrip), if_neg hstrip, delivered]

/-- Behind a start without LF that is already too long, nothing is delivered. -/
lemma overlong_start {limit : ℕ} {b : Bytes} (h : Byte.lf ∉ b) (hb : limit < b.length)
    (rest : Bytes) : delivered limit (b ++ rest) = [] ∧ Overlong limit (b ++ rest) := by
  rcases line_or_tail rest with hrest | ⟨l, rest, hl, rfl⟩
  · have hall : Byte.lf ∉ b ++ rest := by simp [h, hrest]
    refine ⟨by simp [delivered, lines, segments_of_notMem hall], b ++ rest, ?_, ?_⟩
    · simp [segments_of_notMem hall]
    · rw [List.length_append]
      omega
  · have hall : Byte.lf ∉ b ++ l := by simp [h, hl]
    have hlong : limit < (b ++ l).length := by
      rw [List.length_append]
      omega
    rw [← List.append_assoc, overlong_line hall, delivered, lines_line hall,
      List.takeWhile_cons_of_neg (by simpa using hlong)]
    exact ⟨rfl, .inl hlong⟩

end Framing

/-! ### The framer delivers them -/

open Framing

/-- From the pending bytes `before`, the framer delivers `frames` and keeps `after`, and no
matter what bytes follow, the stream has these records and then those of what it keeps. -/
structure Advances (limit : ℕ) (before : Bytes) (frames : MiFrames) (after : Bytes)
    (later : Bytes) : Prop where
  ok : frames.error = none →
    delivered limit (before ++ later) = frames.records ++ delivered limit (after ++ later) ∧
      (Overlong limit (before ++ later) ↔ Overlong limit (after ++ later)) ∧
      tail (before ++ later) = tail (after ++ later)
  error : frames.error ≠ none →
    delivered limit (before ++ later) = frames.records ∧ Overlong limit (before ++ later)

/-- A line in front, delivered unless nothing of it remains. -/
lemma Advances.line {limit : ℕ} {l rest after later : Bytes} {frames : MiFrames}
    (h : Advances limit rest frames after later) (hl : Byte.lf ∉ l) (hfit : l.length ≤ limit) :
    Advances limit (l ++ Byte.lf :: rest)
      (if stripCr l = [] then frames else ⟨stripCr l :: frames.records, frames.error⟩)
      after later := by
  have hover : Overlong limit (l ++ Byte.lf :: rest ++ later) ↔ Overlong limit (rest ++ later) := by
    rw [List.append_assoc, List.cons_append, overlong_line hl, or_iff_right (by omega)]
  have htail : tail (l ++ Byte.lf :: rest ++ later) = tail (rest ++ later) := by
    rw [List.append_assoc, List.cons_append, tail_line hl]
  have hdelivered := delivered_line hl hfit (rest ++ later)
  rw [← List.cons_append, ← List.append_assoc] at hdelivered
  refine ⟨fun herror => ?_, fun herror => ?_⟩
  · obtain ⟨hok, hoverOk, htailOk⟩ := h.ok (by split at herror <;> exact herror)
    refine ⟨?_, hover.trans hoverOk, htail.trans htailOk⟩
    rw [hdelivered, hok]
    split <;> rfl
  · obtain ⟨hrecords, hlong⟩ := h.error (by split at herror <;> exact herror)
    refine ⟨?_, hover.mpr hlong⟩
    rw [hdelivered, hrecords]
    split <;> rfl

/-- The first LF of the scanned buffer, and the line before it. -/
lemma exists_line_of_findIdx {buffer : Bytes} {scanned relative : ℕ}
    (hscanned : Byte.lf ∉ buffer.take scanned)
    (h : (buffer.drop scanned).findIdx? (· = Byte.lf) = some relative) :
    ∃ l rest, Byte.lf ∉ l ∧ buffer = l ++ Byte.lf :: rest ∧ l.length = scanned + relative ∧
      (buffer.take (scanned + relative + 1)).dropLast = l ∧
      buffer.drop (scanned + relative + 1) = rest := by
  have hmem : Byte.lf ∈ buffer.drop scanned := by
    obtain ⟨hlt, hlf, -⟩ := List.findIdx?_eq_some_iff_getElem.mp h
    rw [decide_eq_true_eq] at hlf
    exact hlf ▸ List.getElem_mem _
  obtain ⟨l, rest, hdrop, hl⟩ := List.eq_append_cons_of_mem hmem
  have hnone : l.findIdx? (· = Byte.lf) = none := by
    rw [List.findIdx?_eq_none_iff]
    intro byte hbyte
    rw [decide_eq_false_iff_not]
    rintro rfl
    exact hl hbyte
  have hrelative : l.length = relative := by
    rw [hdrop, List.findIdx?_append, hnone] at h
    simpa [List.findIdx?_cons] using h
  have hlength : scanned ≤ buffer.length := by
    by_contra hlt
    rw [List.drop_of_length_le (by omega)] at hmem
    simp at hmem
  have hbuffer : buffer = buffer.take scanned ++ l ++ Byte.lf :: rest := by
    rw [List.append_assoc, ← hdrop, List.take_append_drop]
  have hline : (buffer.take scanned ++ l).length = scanned + relative := by
    rw [List.length_append, List.length_take, hrelative, Nat.min_eq_left hlength]
  have hfree : Byte.lf ∉ buffer.take scanned ++ l := by simp [hscanned, hl]
  generalize buffer.take scanned ++ l = line at hbuffer hline hfree
  refine ⟨line, rest, hfree, hbuffer, hline, ?_, ?_⟩
  · rw [← hline, hbuffer, List.take_length_add_append]
    simp
  · rw [← hline, hbuffer, List.drop_length_add_append]
    simp

/-- The loop delivers the lines of the buffer up to the first overlong one. -/
lemma drain_advances (self : MiFramer) (hscanned : Byte.lf ∉ self.buffer.take self.scanned)
    (later : Bytes) :
    self.drain.2.maxRecordBytes = self.maxRecordBytes ∧
      (self.drain.1.error = none → Byte.lf ∉ self.drain.2.buffer) ∧
      Advances self.maxRecordBytes self.buffer self.drain.1 self.drain.2.buffer later := by
  fun_induction MiFramer.drain self with
  | case1 self hnone =>
    rw [List.findIdx?_eq_none_iff] at hnone
    refine ⟨rfl, fun _ hlf => ?_, ⟨fun _ => ⟨rfl, Iff.rfl, rfl⟩, fun h => absurd rfl h⟩⟩
    rw [← List.take_append_drop self.scanned self.buffer, List.mem_append] at hlf
    rcases hlf with hlf | hlf
    · exact hscanned hlf
    · simpa using hnone _ hlf
  | case2 self relative hsome newline hlong =>
    obtain ⟨l, rest, hl, hbuffer, hlength, -⟩ := exists_line_of_findIdx hscanned hsome
    refine ⟨rfl, fun h => absurd h (by simp), ⟨fun h => absurd h (by simp), fun _ => ?_⟩⟩
    rw [hbuffer, List.append_assoc]
    exact overlong_start hl (by omega) _
  | case3 self relative hsome newline hfit record frames next hdrain hempty ih =>
    obtain ⟨l, rest, hl, hbuffer, hlength, hrecord, hrest⟩ :=
      exists_line_of_findIdx hscanned hsome
    obtain ⟨hmax, hlf, hadvances⟩ := ih (by simp)
    rw [hdrain] at hmax hlf hadvances
    simp only [newline, hrest] at hadvances
    have hstrip : stripCr l = [] := by rw [← hrecord]; exact hempty
    have hdone := hadvances.line hl (by omega)
    rw [if_pos hstrip, ← hbuffer] at hdone
    exact ⟨hmax, hlf, hdone⟩
  | case4 self relative hsome newline hfit record frames next hdrain hempty ih =>
    obtain ⟨l, rest, hl, hbuffer, hlength, hrecord, hrest⟩ :=
      exists_line_of_findIdx hscanned hsome
    obtain ⟨hmax, hlf, hadvances⟩ := ih (by simp)
    rw [hdrain] at hmax hlf hadvances
    simp only [newline, hrest] at hadvances
    have hstrip : record = stripCr l := by rw [← hrecord]
    have hdone := hadvances.line hl (by omega)
    rw [if_neg (hstrip ▸ hempty), ← hbuffer, ← hstrip] at hdone
    exact ⟨hmax, hlf, hdone⟩

/-- Between two chunks the framer holds an unterminated tail within the limit, scanned whole. -/
structure MiFramer.Ready (framer : MiFramer) : Prop where
  scanned : framer.scanned = framer.buffer.length
  unterminated : Byte.lf ∉ framer.buffer
  fits : framer.buffer.length ≤ framer.maxRecordBytes

/-- One chunk: the framer stays ready unless it reports an error. -/
lemma push_advances {self : MiFramer} (hready : self.Ready) (chunk later : Bytes) :
    (self.push chunk).2.maxRecordBytes = self.maxRecordBytes ∧
      ((self.push chunk).1.error = none → (self.push chunk).2.Ready) ∧
      Advances self.maxRecordBytes (self.buffer ++ chunk) (self.push chunk).1
        (self.push chunk).2.buffer later := by
  unfold MiFramer.push
  split
  · -- the early reject: the pending tail alone is already too long
    rename_i hearly
    simp only [Bool.and_eq_true, decide_eq_true_eq, Bool.not_eq_true', List.contains_eq_mem,
      decide_eq_false_iff_not] at hearly
    have hfree : Byte.lf ∉ self.buffer ++ chunk := by simp [hready.unterminated, hearly.2]
    refine ⟨rfl, fun h => absurd h (by simp), ⟨fun h => absurd h (by simp), fun _ => ?_⟩⟩
    exact overlong_start hfree (by rw [List.length_append]; omega) later
  · have hscanned : Byte.lf ∉ (self.buffer ++ chunk).take self.scanned := by
      rw [hready.scanned, List.take_left]
      exact hready.unterminated
    obtain ⟨hmax, hfree, hadvances⟩ :=
      drain_advances { self with buffer := self.buffer ++ chunk } hscanned later
    generalize MiFramer.drain { self with buffer := self.buffer ++ chunk } = drained
      at hmax hfree hadvances
    obtain ⟨frames, next⟩ := drained
    dsimp only at hmax hfree hadvances ⊢
    split
    · rename_i herror
      refine ⟨hmax, fun h => absurd h ?_, hadvances⟩
      exact Option.isSome_iff_ne_none.mp herror
    · rename_i herror
      have hnone : frames.error = none := by simpa using herror
      obtain ⟨hdelivered, hover, htail⟩ := hadvances.ok hnone
      split
      · rename_i hlong
        refine ⟨hmax, fun h => absurd h (by simp), ⟨fun h => absurd h (by simp), fun _ => ?_⟩⟩
        have hstart := overlong_start (hfree hnone) (hmax ▸ hlong) later
        exact ⟨by rw [hdelivered, hstart.1, List.append_nil], hover.mpr hstart.2⟩
      · rename_i hfits
        exact ⟨hmax, fun _ => ⟨rfl, hfree hnone, Nat.not_lt.mp hfits⟩, hadvances⟩

/-- Any chunks: the framer delivers the records of the stream they make up. -/
lemma pushAll_advances {self : MiFramer} (hready : self.Ready) (chunks : List Bytes) :
    (self.pushAll chunks).2.maxRecordBytes = self.maxRecordBytes ∧
      ((self.pushAll chunks).1.error = none → (self.pushAll chunks).2.Ready) ∧
      Advances self.maxRecordBytes (self.buffer ++ chunks.flatten) (self.pushAll chunks).1
        (self.pushAll chunks).2.buffer [] := by
  induction chunks generalizing self with
  | nil =>
    refine ⟨rfl, fun _ => hready, ⟨fun _ => ?_, fun h => absurd rfl h⟩⟩
    simp [MiFramer.pushAll]
  | cons chunk chunks ih =>
    obtain ⟨hmax, hnext, hadvances⟩ := push_advances hready chunk chunks.flatten
    rw [MiFramer.pushAll, List.flatten_cons, ← List.append_assoc]
    generalize self.push chunk = pushed at hmax hnext hadvances
    obtain ⟨frames, next⟩ := pushed
    dsimp only at hmax hnext hadvances ⊢
    split
    · rename_i herror
      have hsome := Option.isSome_iff_ne_none.mp herror
      have hfailed := hadvances.error hsome
      refine ⟨hmax, fun h => absurd h hsome, ⟨fun h => absurd h hsome, fun _ => ?_⟩⟩
      rw [List.append_nil]
      exact hfailed
    · rename_i herror
      have hnone : frames.error = none := by simpa using herror
      obtain ⟨hmaxLast, hlast, hlater⟩ := ih (hnext hnone)
      obtain ⟨hdelivered, hover, htail⟩ := hadvances.ok hnone
      rw [hmax] at hmaxLast hlater
      refine ⟨hmaxLast, hlast, ⟨fun h => ?_, fun h => ?_⟩⟩
      · obtain ⟨hdone, hoverDone, htailDone⟩ := hlater.ok h
        rw [List.append_nil] at hdone hoverDone htailDone ⊢
        refine ⟨?_, hover.trans hoverDone, htail.trans htailDone⟩
        rw [hdelivered, hdone, List.append_assoc]
      · obtain ⟨hdone, hlong⟩ := hlater.error h
        rw [List.append_nil] at hdone hlong ⊢
        exact ⟨by rw [hdelivered, hdone], hover.mpr hlong⟩

/-- Framing does not depend on the chunks.  Pushed to a fresh framer up to the first error, the
chunks of a stream deliver its lines up to the first overlong one; an error is reported exactly
when some line or the tail is overlong; otherwise `finish` returns the tail and leaves the
framer as new. -/
theorem pushAll_new (limits : MiLimits) (chunks : List Bytes) :
    ((MiFramer.new limits).pushAll chunks).1.records =
        delivered limits.maxRecordBytes chunks.flatten ∧
      (((MiFramer.new limits).pushAll chunks).1.error ≠ none ↔
        Overlong limits.maxRecordBytes chunks.flatten) ∧
      (¬ Overlong limits.maxRecordBytes chunks.flatten →
        ((MiFramer.new limits).pushAll chunks).2.finish =
          (.ok (if tail chunks.flatten = [] then none else some (tail chunks.flatten)),
            MiFramer.new limits)) := by
  have hready : (MiFramer.new limits).Ready := ⟨rfl, by simp [MiFramer.new], by simp [MiFramer.new]⟩
  obtain ⟨hmax, hlast, hadvances⟩ := pushAll_advances hready chunks
  generalize (MiFramer.new limits).pushAll chunks = pushed at hmax hlast hadvances
  obtain ⟨frames, last⟩ := pushed
  simp only [MiFramer.new, List.nil_append] at hmax hlast hadvances ⊢
  by_cases herror : frames.error = none
  · have hfinal := hlast herror
    obtain ⟨hdelivered, hover, htail⟩ := hadvances.ok herror
    have hsegments := segments_of_notMem hfinal.unterminated
    simp only [List.append_nil] at hdelivered hover htail
    have hshort : ¬ Overlong limits.maxRecordBytes last.buffer := by
      rintro ⟨s, hs, hlong⟩
      rw [hsegments, List.mem_singleton] at hs
      subst hs
      exact absurd hfinal.fits (by omega)
    refine ⟨?_, ?_, fun _ => ?_⟩
    · rw [hdelivered]
      simp [delivered, lines, hsegments]
    · exact ⟨fun h => absurd herror h, fun h => absurd (hover.mp h) hshort⟩
    · have hbuffer : tail chunks.flatten = last.buffer := by
        rw [htail, tail, hsegments]
        rfl
      rw [hbuffer, MiFramer.finish]
      split
      · rename_i hempty
        have hscanned : last.scanned = 0 := by rw [hfinal.scanned, hempty]; rfl
        rw [← hmax, ← hscanned, ← hempty]
      · rw [if_neg (Nat.not_lt.mpr hfinal.fits), hmax]
  · obtain ⟨hdelivered, hlong⟩ := hadvances.error herror
    simp only [List.append_nil] at hdelivered hlong
    exact ⟨hdelivered.symm, ⟨fun _ => hlong, fun _ => herror⟩, fun h => absurd hlong h⟩

end GdbAi
