import GdbAi.Journal
import GdbAi.Library.Runs

/-!
# What a journal file contains

Every sequence of calls keeps the file within its byte limit and numbers the calls one by one.
In performance mode the file holds the entries `1..k`, possibly followed by the marker of a gap.
In durable mode a refused append leaves its number unused and the journal goes on recording, so
the file is contiguous exactly when no later append is written (`contiguous_and_bounded`).
-/

namespace GdbAi

open Runs

/-! ### Calls -/

/-- The calls on a journal, with the outcomes of their writes. -/
inductive JournalCall where
  | append (payload : Payload) (io : JournalIo)
  | flush (outcome : FlushOutcome)
  | finish (io : JournalIo)

/-- The payload of a call that takes a sequence number, and the outcomes of its writes. -/
def JournalCall.appended : JournalCall → Option (Payload × JournalIo)
  | .append payload io => some (payload, io)
  | .finish io => some (.journalClosed, io)
  | .flush _ => none

/-- The write of the line succeeds. -/
def WriteOutcome.succeeds : WriteOutcome → Bool
  | .failed _ _ => false
  | _ => true

namespace Journal

/-- Everything handed to the writer and not discarded. -/
def lines (j : Journal) : List JournalEntry := j.file ++ j.buffer

section Length

variable (length : JournalEntry → ℕ)

/-- The journal behind a call. -/
def perform (j : Journal) : JournalCall → Journal
  | .append payload io => (j.record length payload io).2
  | .flush outcome => (j.flush outcome).2
  | .finish io => (j.finish length io).2

/-- `perform` as a step relation. -/
def Performs (j : Journal) (call : JournalCall) (j' : Journal) : Prop := j' = j.perform length call

/-- The line of the next entry is within the byte limit. -/
def Fits (j : Journal) (payload : Payload) : Prop :=
  j.bytesWritten + length ⟨j.nextSeq, .of payload⟩ ≤ j.maxBytes - j.reserved

/-- The call writes no line of a durable journal behind an unused sequence number. -/
def InOrder (j : Journal) (call : JournalCall) : Prop :=
  ∀ payload io, call.appended = some (payload, io) → j.isDurable = true →
    j.Fits length payload → io.write.succeeds = true → j.nextSeq = j.writtenSeq + 1

/-- A step whose call is in order. -/
def PerformsInOrder (j : Journal) (call : JournalCall) (j' : Journal) : Prop :=
  Performs length j call j' ∧ j.InOrder length call

end Length

/-! ### Numbered entries -/

/-- The entries are `1..k`, each with a payload. -/
def Numbered (entries : List JournalEntry) (k : ℕ) : Prop :=
  entries.map JournalEntry.seq = List.range' 1 k ∧
    ∀ entry ∈ entries, ∃ payload, entry.data = .of payload

/-- The entries are `1..k`, in performance mode possibly followed by the marker of a gap
from `k + 1` on. -/
def WellNumbered (durability : JournalDurability) (entries : List JournalEntry) : Prop :=
  ∃ k, Numbered entries k ∨
    durability = .performance ∧ ∃ body reason,
      entries = body ++ [⟨k + 1, .gap (k + 1) reason⟩] ∧ Numbered body k

variable {entries : List JournalEntry} {k : ℕ}

/-- The entries `1..k` are `k` entries. -/
lemma Numbered.length_eq (h : Numbered entries k) : entries.length = k := by
  have hlength := congrArg List.length h.1
  simpa using hlength

/-- The next entry may follow. -/
lemma Numbered.snoc (h : Numbered entries k) (payload : Payload) :
    Numbered (entries ++ [⟨k + 1, .of payload⟩]) (k + 1) := by
  refine ⟨?_, ?_⟩
  · rw [List.map_append, h.1, List.range'_concat]
    simp [Nat.add_comm]
  · intro entry hentry
    rcases List.mem_append.mp hentry with hentry | hentry
    · exact h.2 entry hentry
    · exact ⟨payload, by rw [List.mem_singleton.mp hentry]⟩

/-- A prefix of numbered entries is numbered. -/
lemma Numbered.initial {entries entries' : List JournalEntry} (h : Numbered entries k)
    (hinit : entries' <+: entries) : Numbered entries' entries'.length := by
  refine ⟨?_, fun entry hentry => h.2 entry (hinit.subset hentry)⟩
  have hseq : entries'.map JournalEntry.seq <+: List.range' 1 k := h.1 ▸ hinit.map _
  have hlength : entries'.length ≤ k := h.length_eq ▸ hinit.length_le
  rw [List.prefix_iff_eq_take.mp hseq, List.length_map, List.take_range'_of_length_ge hlength]

lemma Numbered.wellNumbered (h : Numbered entries k) (durability : JournalDurability) :
    WellNumbered durability entries := ⟨k, .inl h⟩

/-- A prefix of a well-numbered file is well numbered. -/
lemma WellNumbered.initial {durability : JournalDurability}
    {entries entries' : List JournalEntry} (h : WellNumbered durability entries)
    (hinit : entries' <+: entries) : WellNumbered durability entries' := by
  obtain ⟨k, h | ⟨hmode, body, reason, rfl, hbody⟩⟩ := h
  · exact (h.initial hinit).wellNumbered durability
  · rcases List.prefix_concat_iff.mp hinit with rfl | hinit
    · exact ⟨k, .inr ⟨hmode, body, reason, rfl, hbody⟩⟩
    · exact (hbody.initial hinit).wellNumbered durability

/-- A line with another number than the next one breaks the order of a durable file. -/
lemma not_wellNumbered_snoc {k seq : ℕ} {payload : Payload} (h : Numbered entries k)
    (hseq : seq ≠ k + 1) : ¬ WellNumbered .durable (entries ++ [⟨seq, .of payload⟩]) := by
  rintro ⟨k', hk | ⟨hmode, -⟩⟩
  · have hlength : k' = k + 1 := by rw [← hk.length_eq, List.length_append, h.length_eq]; rfl
    subst hlength
    have heq := hk.1
    rw [List.map_append, h.1, List.range'_concat] at heq
    have hlast := List.append_cancel_left heq
    simp only [List.map_cons, List.map_nil, List.cons.injEq, and_true] at hlast
    omega
  · exact absurd hmode (by decide)

/-! ### What a call does -/

/-- No line is added or lost and recording goes on as before. -/
structure Kept (j j' : Journal) : Prop where
  lines : j'.lines = j.lines
  recording : j'.recording = j.recording
  nextSeq : j'.nextSeq = j.nextSeq
  writtenSeq : j'.writtenSeq = j.writtenSeq
  bytesWritten : j'.bytesWritten = j.bytesWritten
  maxBytes : j'.maxBytes = j.maxBytes
  durability : j'.durability = j.durability
  gap : j'.gap = j.gap

/-- A performance journal stops recording: it keeps a prefix of the given lines. -/
structure Stopped (j : Journal) (entries : List JournalEntry) (j' : Journal) : Prop where
  performance : j.durability = .performance
  durability : j'.durability = .performance
  lines : j'.lines <+: entries
  recording : j'.recording = false
  nextSeq : j'.nextSeq = j.nextSeq
  maxBytes : j'.maxBytes = j.maxBytes

/-- `j` with its next number taken. -/
def numbered (j : Journal) : Journal := { j with nextSeq := j.nextSeq + 1 }

/-- The journal once the line of `payload` is written. -/
structure Written (length : JournalEntry → ℕ) (j : Journal) (payload : Payload) (j' : Journal) :
    Prop where
  lines : j'.lines = j.lines ++ [⟨j.nextSeq, .of payload⟩]
  recording : j'.recording = true
  nextSeq : j'.nextSeq = j.nextSeq + 1
  writtenSeq : j'.writtenSeq = j.nextSeq
  bytesWritten : j'.bytesWritten = j.bytesWritten + length ⟨j.nextSeq, .of payload⟩
  maxBytes : j'.maxBytes = j.maxBytes
  durability : j'.durability = j.durability
  gap : j'.gap = j.gap

/-- A flush keeps the lines, or stops a performance journal. -/
inductive Settles (j j' : Journal) : Prop
  | kept (h : Kept j j')
  | stopped (h : Stopped j j.lines j')

/-- The marker of a gap from the next number on. -/
def gapMarker (j : Journal) : JournalEntry := ⟨j.nextSeq, .gap j.nextSeq byteLimitError.display⟩

/-- What an append does. -/
inductive Appends (length : JournalEntry → ℕ) (j : Journal) (payload : Payload) (io : JournalIo)
    (j' : Journal) : Prop
  | idle (recording : j.recording = false) (h : j' = j.numbered)
  | refused (durable : j.durability = .durable)
      (unwritten : ¬ (j.Fits length payload ∧ io.write.succeeds = true)) (h : Kept j.numbered j')
  | stopped (h : Stopped j.numbered j.lines j')
  | marked (fits : (j.bytesWritten + length j.gapMarker) ≤ j.maxBytes)
      (recording : j.recording = true) (h : Stopped j.numbered (j.lines ++ [j.gapMarker]) j')
  | written (recording : j.recording = true) (fits : j.Fits length payload)
      (succeeds : io.write.succeeds = true) (j₁ : Journal) (h : Written length j payload j₁)
      (settles : Settles j₁ j')

variable {j : Journal}

lemma isDurable_eq_true : j.isDurable = true ↔ j.durability = .durable := by
  simp [isDurable]

lemma performance_of_not_isDurable (h : ¬ j.isDurable = true) : j.durability = .performance := by
  rw [isDurable_eq_true] at h
  cases hmode : j.durability with
  | performance => rfl
  | durable => exact absurd hmode h

lemma lines_spill (j : Journal) : j.spill.lines = j.lines := by simp [lines, spill]

lemma kept_refl (j : Journal) : Kept j j := ⟨rfl, rfl, rfl, rfl, rfl, rfl, rfl, rfl⟩

lemma kept_spill (j : Journal) : Kept j j.spill :=
  ⟨lines_spill j, rfl, rfl, rfl, rfl, rfl, rfl, rfl⟩

lemma kept_spill_if (j : Journal) (spilled : Bool) : Kept j (if spilled then j.spill else j) := by
  cases spilled with
  | false => exact kept_refl j
  | true => exact kept_spill j

lemma stopped_of_kept {j j₁ : Journal} (h : Kept j j₁) (hmode : j.durability = .performance)
    (gap : JournalGap) :
    Stopped j j.lines { j₁ with gap := some gap, recording := false, buffer := [] } where
  performance := hmode
  durability := h.durability.trans hmode
  lines := by
    rw [← h.lines]
    simp [lines]
  recording := rfl
  nextSeq := h.nextSeq
  maxBytes := h.maxBytes

lemma stopRecording_of_performance (hmode : j.durability = .performance) (error : Error)
    (fromSeq : ℕ) : j.stopRecording error fromSeq =
      (.ok (), { j with
        gap := some ⟨fromSeq, error.display⟩, recording := false, buffer := [] }) := by
  have hdurable : ¬ j.isDurable = true := by simp [isDurable, hmode]
  exact if_neg hdurable

/-- A flush keeps the lines, in performance mode without an error, or it stops recording and
leaves a gap. -/
lemma flush_cases (j : Journal) (outcome : FlushOutcome) :
    (Kept j (j.flush outcome).2 ∧
        (j.durability = .performance → (j.flush outcome).1 = .ok ())) ∨
      (j.flush outcome).1 = .ok () ∧ (j.flush outcome).2.gap.isNone = false ∧
        Stopped j j.lines (j.flush outcome).2 := by
  have hdone : Kept j { j.spill with unflushedRecords := 0, flushedSeq := j.writtenSeq } :=
    ⟨lines_spill j, rfl, rfl, rfl, rfl, rfl, rfl, rfl⟩
  unfold flush
  split
  · exact .inl ⟨kept_refl j, fun _ => rfl⟩
  · cases outcome with
    | done => exact .inl ⟨hdone, fun _ => rfl⟩
    | failed error =>
      by_cases hdurable : j.isDurable = true
      · simp only [stopRecording, hdurable, if_true]
        refine .inl ⟨kept_refl j, fun hmode => ?_⟩
        simp [isDurable, hmode] at hdurable
      · simp only [stopRecording, if_neg hdurable]
        have hmode := performance_of_not_isDurable hdurable
        exact .inr ⟨trivial, rfl, stopped_of_kept (kept_refl j) hmode _⟩
    | syncFailed error =>
      by_cases hdurable : j.isDurable = true
      · simp only [hdurable, if_true]
        refine .inl ⟨kept_spill j, fun hmode => ?_⟩
        simp [isDurable, hmode] at hdurable
      · simp only [if_neg hdurable]
        exact .inl ⟨hdone, fun _ => trivial⟩

/-- A flush settles. -/
lemma flush_settles (j : Journal) (outcome : FlushOutcome) : Settles j (j.flush outcome).2 := by
  rcases flush_cases j outcome with ⟨hkept, -⟩ | ⟨-, -, hstopped⟩
  · exact .kept hkept
  · exact .stopped hstopped

section Length

variable (length : JournalEntry → ℕ)

variable {payload : Payload} {io : JournalIo}

variable {j : Journal}

/-- What an append does that does not fit. -/
lemma overflow_appends (hrecording : j.recording = true) (hgap : j.gap = none)
    (hfits : ¬ j.Fits length payload) :
    Appends length j payload io (j.numbered.overflow length j.nextSeq io).2 := by
  by_cases hdurable : j.durability = .durable
  · have hbranch : j.numbered.isDurable = true := isDurable_eq_true.mpr hdurable
    simp only [overflow, hbranch, if_true]
    exact .refused hdurable (fun h => hfits h.1) (kept_refl _)
  · have hbranch : ¬ j.numbered.isDurable = true := fun h => hdurable (isDurable_eq_true.mp h)
    have hmode := performance_of_not_isDurable hbranch
    simp only [overflow, if_neg hbranch]
    rcases flush_cases j.numbered io.flush with ⟨hkept, hok⟩ | ⟨hok, hsome, hstopped⟩
    · rcases hflush : j.numbered.flush io.flush with ⟨result, j₁⟩
      replace hkept : Kept j.numbered j₁ := by rwa [hflush] at hkept
      obtain rfl : result = .ok () := by simpa [hflush] using hok hmode
      have hnone : j₁.gap.isNone = true := by rw [hkept.gap]; simp [numbered, hgap]
      have hmode₁ : j₁.durability = .performance := hkept.durability.trans hmode
      simp only [hnone, if_true]
      split_ifs with hroom
      · rw [stopRecording_of_performance]
        · simp only [Bool.and_eq_true, decide_eq_true_eq, hkept.bytesWritten,
            hkept.maxBytes] at hroom
          refine .marked hroom.1.1 hrecording
            ⟨hmode, hmode₁, ?_, rfl, hkept.nextSeq, hkept.maxBytes⟩
          have hlines : j₁.lines = j.lines := hkept.lines
          rw [← hlines]
          simp [lines, spill, gapMarker]
        · exact hmode₁
      · rw [stopRecording_of_performance hmode₁]
        exact .stopped (stopped_of_kept hkept hmode _)
    · rcases hflush : j.numbered.flush io.flush with ⟨result, j₁⟩
      rw [hflush] at hok hsome hstopped
      obtain rfl : result = .ok () := hok
      simp only [hsome]
      exact .stopped hstopped

lemma accepted_settles (j : Journal) (entry : JournalEntry) (io : JournalIo) :
    Settles
      { j with
        bytesWritten := j.bytesWritten + length entry
        writtenSeq := entry.seq
        unflushedRecords := j.unflushedRecords + 1 }
      (write.accepted length entry io j).2 := by
  unfold write.accepted
  generalize hj : ({ j with
    bytesWritten := j.bytesWritten + length entry
    writtenSeq := entry.seq
    unflushedRecords := j.unflushedRecords + 1 } : Journal) = j₁
  simp only
  split
  · have hsettles := flush_settles j₁ io.flush
    rcases hflush : j₁.flush io.flush with ⟨_ | _, j₂⟩
    all_goals
      rw [hflush] at hsettles
      exact hsettles
  · exact .kept (kept_refl j₁)

/-- What an append does that fits. -/
lemma write_appends (hrecording : j.recording = true) (hfits : j.Fits length payload) :
     Appends length j payload io (j.numbered.write length ⟨j.nextSeq, .of payload⟩ io).2 := by
  unfold write
  cases hwrite : io.write with
  | failed spilled error =>
    have hkept := kept_spill_if j.numbered spilled
    by_cases hdurable : (if spilled then j.numbered.spill else j.numbered).isDurable = true
    · simp only [stopRecording, hdurable, if_true]
      have hmode := isDurable_eq_true.mp hdurable
      exact .refused (hkept.durability.symm.trans hmode) (by simp [hwrite, WriteOutcome.succeeds])
        hkept
    · simp only [stopRecording, if_neg hdurable]
      have hmode := performance_of_not_isDurable hdurable
      exact .stopped (stopped_of_kept hkept (hkept.durability.symm.trans hmode) _)
  | buffered spilled =>
    have hkept := kept_spill_if j.numbered spilled
    refine .written hrecording hfits (by rw [hwrite]; rfl) _ ?_ (accepted_settles length _ _ io)
    exact
      { lines := by
          have hlines : _ = j.lines := hkept.lines
          rw [← hlines]
          simp [lines]
        recording := hkept.recording.trans hrecording
        nextSeq := hkept.nextSeq
        writtenSeq := rfl
        bytesWritten := by simp only [hkept.bytesWritten]; rfl
        maxBytes := hkept.maxBytes
        durability := hkept.durability
        gap := hkept.gap }
  | direct =>
    refine .written hrecording hfits (by rw [hwrite]; rfl) _ ?_ (accepted_settles length _ _ io)
    exact ⟨by simp [lines, spill, numbered], hrecording, rfl, rfl, rfl, rfl, rfl, rfl⟩

/-- What an append does to a journal that leaves no gap while it records. -/
lemma append_appends (payload : Payload) (io : JournalIo) (hgap : j.recording = true → j.gap = none) :
     Appends length j payload io (j.append length payload io).2 := by
  unfold append
  simp only
  split
  · rename_i hrecording
    exact .idle hrecording rfl
  · rename_i hrecording
    rw [Bool.not_eq_false] at hrecording
    split
    · rename_i hover
      exact overflow_appends length hrecording (hgap hrecording) (Nat.not_le.mpr hover)
    · rename_i hover
      exact write_appends length hrecording (Nat.not_lt.mp hover)

lemma record_settles (j : Journal) (payload : Payload) (io : JournalIo) :
    Settles (j.append length payload io).2 (j.record length payload io).2 := by
  unfold record
  rcases j.append length payload io with ⟨error | seq, j₁⟩
  · exact .kept (kept_refl j₁)
  · simp only
    split
    · have hsettles := flush_settles j₁ io.boundary
      rcases hflush : j₁.flush io.boundary with ⟨_ | _, j₂⟩
      all_goals
        rw [hflush] at hsettles
        exact hsettles
    · exact .kept (kept_refl j₁)

lemma finish_settles (j : Journal) (io : JournalIo) :
    Settles (j.append length .journalClosed io).2 (j.finish length io).2 := by
  unfold finish
  rcases j.append length .journalClosed io with ⟨error | seq, j₁⟩
  · exact .kept (kept_refl j₁)
  · exact flush_settles j₁ io.boundary

/-- A call appends and settles, or settles only. -/
lemma perform_cases (hgap : j.recording = true → j.gap = none) (call : JournalCall) :
    (∃ payload io j₁, call.appended = some (payload, io) ∧ Appends length j payload io j₁ ∧
        Settles j₁ (j.perform length call)) ∨
      call.appended = none ∧ Settles j (j.perform length call) := by
  cases call with
  | append payload io =>
    exact .inl ⟨payload, io, _, rfl, append_appends length payload io hgap,
      record_settles length j payload io⟩
  | flush outcome => exact .inr ⟨rfl, flush_settles j outcome⟩
  | finish io =>
    exact .inl ⟨.journalClosed, io, _, rfl, append_appends length .journalClosed io hgap,
      finish_settles length j io⟩

/-! ### The byte limit -/

/-- The counters of the journal describe its lines. -/
structure Accounted (j : Journal) : Prop where
  counted : j.recording = true → (j.lines.map length).sum = j.bytesWritten
  bounded : (j.lines.map length).sum ≤ j.maxBytes
  gapless : j.recording = true → j.gap = none
  durable : j.durability = .durable → j.recording = true

variable {length}

variable {j j' : Journal}

lemma Accounted.kept (h : Accounted length j) (hkept : Kept j j') : Accounted length j' where
  counted hrecording := by
    rw [hkept.lines, hkept.bytesWritten]
    exact h.counted (hkept.recording ▸ hrecording)
  bounded := by
    rw [hkept.lines, hkept.maxBytes]
    exact h.bounded
  gapless hrecording := by
    rw [hkept.gap]
    exact h.gapless (hkept.recording ▸ hrecording)
  durable hmode := by
    rw [hkept.recording]
    exact h.durable (hkept.durability ▸ hmode)

lemma accounted_of_stopped {entries : List JournalEntry}
    (hbound : (entries.map length).sum ≤ j.maxBytes) (hstopped : Stopped j entries j') :
    Accounted length j' where
  counted hrecording := absurd hrecording (by simp [hstopped.recording])
  bounded := by
    obtain ⟨rest, hrest⟩ := hstopped.lines
    rw [hstopped.maxBytes]
    rw [← hrest, List.map_append, List.sum_append] at hbound
    omega
  gapless hrecording := absurd hrecording (by simp [hstopped.recording])
  durable hmode := absurd (hstopped.durability.symm.trans hmode) (by decide)

lemma Accounted.settles (h : Accounted length j) (hsettles : Settles j j') :
    Accounted length j' := by
  rcases hsettles with hkept | hstopped
  · exact h.kept hkept
  · exact accounted_of_stopped h.bounded hstopped

lemma Accounted.numbered (h : Accounted length j) : Accounted length j.numbered :=
  ⟨h.counted, h.bounded, h.gapless, h.durable⟩

lemma Accounted.written (h : Accounted length j) (hrecording : j.recording = true)
    (hfits : j.Fits length payload) (hwritten : Written length j payload j') :
    Accounted length j' := by
  have hsum : (j'.lines.map length).sum = j'.bytesWritten := by
    rw [hwritten.lines, hwritten.bytesWritten, ← h.counted hrecording]
    simp
  refine ⟨fun _ => hsum, ?_, fun _ => hwritten.gap.trans (h.gapless hrecording),
    fun _ => hwritten.recording⟩
  rw [hsum, hwritten.bytesWritten, hwritten.maxBytes]
  exact le_trans hfits (Nat.sub_le _ _)

lemma Accounted.appends (h : Accounted length j) (happends : Appends length j payload io j') :
    Accounted length j' := by
  cases happends with
  | idle hrecording heq => exact heq ▸ h.numbered
  | refused hmode hunwritten hkept => exact h.numbered.kept hkept
  | stopped hstopped => exact accounted_of_stopped h.numbered.bounded hstopped
  | marked hfits hrecording hstopped =>
    refine accounted_of_stopped ?_ hstopped
    rw [List.map_append, List.sum_append, h.counted hrecording]
    simpa [Journal.numbered] using hfits
  | written hrecording hfits hsucceeds j₁ hwritten hsettles =>
    exact (h.written hrecording hfits hwritten).settles hsettles

/-- Every call keeps the counters. -/
lemma Accounted.perform (h : Accounted length j) (call : JournalCall) :
    Accounted length (j.perform length call) := by
  rcases perform_cases length h.gapless call with ⟨_, _, _, -, happends, hsettles⟩ | ⟨-, hsettles⟩
  · exact (h.appends happends).settles hsettles
  · exact h.settles hsettles

/-! ### The order of the lines -/

/-- The lines are in order, and in performance mode the next number follows the last line. -/
structure Ordered (j : Journal) : Prop where
  numbered : j.recording = true → Numbered j.lines j.writtenSeq
  wellNumbered : WellNumbered j.durability j.lines
  next : j.durability = .performance → j.recording = true → j.nextSeq = j.writtenSeq + 1

lemma Ordered.kept (h : Ordered j) (hkept : Kept j j') : Ordered j' where
  numbered hrecording := by
    rw [hkept.lines, hkept.writtenSeq]
    exact h.numbered (hkept.recording ▸ hrecording)
  wellNumbered := by
    rw [hkept.durability, hkept.lines]
    exact h.wellNumbered
  next hmode hrecording := by
    rw [hkept.nextSeq, hkept.writtenSeq]
    exact h.next (hkept.durability ▸ hmode) (hkept.recording ▸ hrecording)

lemma ordered_of_stopped {entries : List JournalEntry}
    (hentries : WellNumbered .performance entries) (hstopped : Stopped j entries j') :
    Ordered j' where
  numbered hrecording := absurd hrecording (by simp [hstopped.recording])
  wellNumbered := hstopped.durability ▸ hentries.initial hstopped.lines
  next _ hrecording := absurd hrecording (by simp [hstopped.recording])

lemma Ordered.settles (h : Ordered j) (hsettles : Settles j j') : Ordered j' := by
  rcases hsettles with hkept | hstopped
  · exact h.kept hkept
  · exact ordered_of_stopped (hstopped.performance ▸ h.wellNumbered) hstopped

lemma Ordered.written (h : Ordered j) (hrecording : j.recording = true)
    (hnext : j.nextSeq = j.writtenSeq + 1) (hwritten : Written length j payload j') :
    Ordered j' := by
  have hlines : Numbered j'.lines j'.writtenSeq := by
    rw [hwritten.lines, hwritten.writtenSeq, hnext]
    exact (h.numbered hrecording).snoc payload
  refine ⟨fun _ => hlines, hlines.wellNumbered _, fun _ _ => ?_⟩
  rw [hwritten.nextSeq, hwritten.writtenSeq]

/-- A durable journal whose number stays unused is still in order. -/
lemma Ordered.numbered_of_durable (h : Ordered j) (hmode : j.durability = .durable) :
    Ordered j.numbered :=
  ⟨h.numbered, h.wellNumbered, fun hperformance => absurd (hmode.symm.trans hperformance)
    (by decide)⟩

lemma Ordered.appends (h : Ordered j) (happends : Appends length j payload io j')
    (horder : j.isDurable = true → j.Fits length payload → io.write.succeeds = true → j.nextSeq =
      j.writtenSeq + 1) : Ordered j' := by
  cases happends with
  | idle hrecording heq =>
    subst heq
    exact ⟨h.numbered, h.wellNumbered, fun _ hrec => absurd (hrecording.symm.trans hrec) (by simp)⟩
  | refused hmode hunwritten hkept => exact (h.numbered_of_durable hmode).kept hkept
  | stopped hstopped =>
    exact ordered_of_stopped (hstopped.performance ▸ h.wellNumbered) hstopped
  | marked hfits hrecording hstopped =>
    refine ordered_of_stopped ⟨j.writtenSeq, .inr ⟨rfl, j.lines, byteLimitError.display, ?_,
      h.numbered hrecording⟩⟩ hstopped
    rw [gapMarker, h.next hstopped.performance hrecording]
  | written hrecording hfits hsucceeds j₁ hwritten hsettles =>
    refine (h.written hrecording ?_ hwritten).settles hsettles
    by_cases hdurable : j.isDurable = true
    · exact horder hdurable hfits hsucceeds
    · exact h.next (performance_of_not_isDurable hdurable) hrecording

/-- A call in order keeps the lines in order. -/
lemma Ordered.perform (h : Ordered j) (hacc : Accounted length j) {call : JournalCall}
    (horder : j.InOrder length call) : Ordered (j.perform length call) := by
  rcases perform_cases length hacc.gapless call with
    ⟨payload, io, _, hcall, happends, hsettles⟩ | ⟨-, hsettles⟩
  · exact (h.appends happends (horder payload io hcall)).settles hsettles
  · exact h.settles hsettles

/-! ### Sequence numbers -/

/-- A stopped journal was one in performance mode. -/
lemma Stopped.sameMode {entries : List JournalEntry} (h : Stopped j entries j') :
    j'.durability = j.durability := h.durability.trans h.performance.symm

/-- Settling takes no number and keeps the settings. -/
lemma Settles.settings (h : Settles j j') :
    j'.nextSeq = j.nextSeq ∧ j'.durability = j.durability ∧ j'.maxBytes = j.maxBytes := by
  rcases h with hkept | hstopped
  · exact ⟨hkept.nextSeq, hkept.durability, hkept.maxBytes⟩
  · exact ⟨hstopped.nextSeq, hstopped.sameMode, hstopped.maxBytes⟩

/-- An append takes one number and keeps the settings. -/
lemma Appends.settings (h : Appends length j payload io j') :
    j'.nextSeq = j.nextSeq + 1 ∧ j'.durability = j.durability ∧ j'.maxBytes = j.maxBytes := by
  cases h with
  | idle hrecording heq => subst heq; exact ⟨rfl, rfl, rfl⟩
  | refused hmode hunwritten hkept => exact ⟨hkept.nextSeq, hkept.durability, hkept.maxBytes⟩
  | stopped hstopped =>
    exact ⟨hstopped.nextSeq, hstopped.sameMode, hstopped.maxBytes⟩
  | marked hfits hrecording hstopped =>
    exact ⟨hstopped.nextSeq, hstopped.sameMode, hstopped.maxBytes⟩
  | written hrecording hfits hsucceeds j₁ hwritten hsettles =>
    obtain ⟨hnext, hmode, hmax⟩ := hsettles.settings
    exact ⟨hnext.trans hwritten.nextSeq, hmode.trans hwritten.durability,
      hmax.trans hwritten.maxBytes⟩

/-- A call takes a number exactly when it appends, and keeps the settings. -/
lemma Accounted.perform_settings (h : Accounted length j) (call : JournalCall) :
    (j.perform length call).nextSeq = j.nextSeq + (if call.appended.isSome then 1 else 0) ∧
      (j.perform length call).durability = j.durability ∧
      (j.perform length call).maxBytes = j.maxBytes := by
  rcases perform_cases length h.gapless call with
    ⟨payload, io, j₁, hcall, happends, hsettles⟩ | ⟨hcall, hsettles⟩
  · obtain ⟨hnext, hmode, hmax⟩ := hsettles.settings
    rw [hnext, hmode, hmax, hcall]
    exact happends.settings
  · rw [hcall]
    exact hsettles.settings

/-- An append that returns a number returns the next one. -/
lemma append_eq_ok {seq : ℕ} (h : j.append length payload io = (.ok seq, j')) :
    seq = j.nextSeq := by
  simp only [append, overflow, write, write.accepted] at h
  repeat' split at h
  all_goals
    first
      | exact (Except.ok.inj (Prod.mk.inj h).1).symm
      | exact absurd (Prod.mk.inj h).1 (by simp)

lemma record_eq_ok {seq : ℕ} (h : (j.record length payload io).1 = .ok seq) : seq = j.nextSeq := by
  unfold record at h
  rcases happend : j.append length payload io with ⟨error | seq', j₁⟩
  · rw [happend] at h
    exact absurd h (by simp)
  · rw [happend] at h
    have hseq : seq' = j.nextSeq := append_eq_ok happend
    simp only at h
    split at h
    · rcases hflush : j₁.flush io.boundary with ⟨error | _, j₂⟩
      · rw [hflush] at h
        exact absurd h (by simp)
      · rw [hflush] at h
        exact (Except.ok.inj h).symm.trans hseq
    · exact (Except.ok.inj h).symm.trans hseq

/-! ### Lines of a durable journal -/

lemma Settles.lines_of_durable (h : Settles j j') (hmode : j.durability = .durable) :
    j'.lines = j.lines := by
  rcases h with hkept | hstopped
  · exact hkept.lines
  · exact absurd (hmode.symm.trans hstopped.performance) (by decide)

/-- A durable journal adds the line of an append that fits and succeeds, and no other line. -/
lemma Appends.lines_of_durable (h : Appends length j payload io j') (hacc : Accounted length j)
    (hmode : j.durability = .durable) : (j.Fits length payload ∧ io.write.succeeds = true ∧
        j'.lines = j.lines ++ [⟨j.nextSeq, .of payload⟩]) ∨
      ¬ (j.Fits length payload ∧ io.write.succeeds = true) ∧ j'.lines = j.lines := by
  cases h with
  | idle hrecording heq => exact absurd (hrecording.symm.trans (hacc.durable hmode)) (by simp)
  | refused hmode hunwritten hkept => exact .inr ⟨hunwritten, hkept.lines⟩
  | stopped hstopped => exact absurd (hmode.symm.trans hstopped.performance) (by decide)
  | marked hfits hrecording hstopped =>
    exact absurd (hmode.symm.trans hstopped.performance) (by decide)
  | written hrecording hfits hsucceeds j₁ hwritten hsettles =>
    have hlines := hsettles.lines_of_durable (hwritten.durability.trans hmode)
    exact .inl ⟨hfits, hsucceeds, hlines.trans hwritten.lines⟩

/-- Lines of a durable journal stay. -/
lemma perform_lines_of_durable (hacc : Accounted length j) (hmode : j.durability = .durable)
    (call : JournalCall) : j.lines <+: (j.perform length call).lines := by
  rcases perform_cases length hacc.gapless call with
    ⟨payload, io, j₁, hcall, happends, hsettles⟩ | ⟨-, hsettles⟩
  · rw [hsettles.lines_of_durable (happends.settings.2.1.trans hmode)]
    rcases happends.lines_of_durable hacc hmode with ⟨-, -, hlines⟩ | ⟨-, hlines⟩
    · exact hlines ▸ List.prefix_append _ _
    · exact hlines ▸ List.prefix_refl _
  · exact hsettles.lines_of_durable hmode ▸ List.prefix_refl _

/-- A call that is not in order breaks the order of the lines. -/
lemma not_wellNumbered_perform (hacc : Accounted length j) (hordered : Ordered j)
    {call : JournalCall} (h : ¬ j.InOrder length call) :
    j.durability = .durable ∧ ¬ WellNumbered .durable (j.perform length call).lines := by
  simp only [InOrder, not_forall] at h
  obtain ⟨payload, io, hcall, hdurable, hfits, hsucceeds, hseq⟩ := h
  have hmode := isDurable_eq_true.mp hdurable
  refine ⟨hmode, ?_⟩
  rcases perform_cases length hacc.gapless call with
    ⟨payload', io', j₁, hcall', happends, hsettles⟩ | ⟨hcall', -⟩
  · obtain ⟨rfl, rfl⟩ := Prod.mk.inj (Option.some.inj (hcall.symm.trans hcall'))
    rw [hsettles.lines_of_durable (happends.settings.2.1.trans hmode)]
    rcases happends.lines_of_durable hacc hmode with ⟨-, -, hlines⟩ | ⟨hnot, -⟩
    · rw [hlines]
      exact not_wellNumbered_snoc (hordered.numbered (hacc.durable hmode)) hseq
    · exact absurd ⟨hfits, hsucceeds⟩ hnot
  · exact absurd (hcall.symm.trans hcall') (by simp)

/-! ### Runs -/

lemma accounted_create (durability : JournalDurability) (maxBytes : ℕ) :
    Accounted length (create durability maxBytes) :=
  ⟨fun _ => rfl, Nat.zero_le _, fun _ => rfl, fun _ => rfl⟩

lemma ordered_create (durability : JournalDurability) (maxBytes : ℕ) :
    Ordered (create durability maxBytes) := by
  have hnil : Numbered [] 0 := ⟨rfl, by simp⟩
  exact ⟨fun _ => hnil, hnil.wellNumbered _, fun _ _ => rfl⟩

variable {calls : List JournalCall}

/-- Every run keeps the counters. -/
lemma Accounted.run (h : Accounted length j) (hrun : Run (Performs length) j calls j') :
    Accounted length j' := by
  refine hrun.invariant h fun j call j' hacc hstep => ?_
  obtain rfl : _ = _ := hstep
  exact hacc.perform call

/-- A run numbers its appends one by one and keeps the settings. -/
lemma run_settings (h : Accounted length j) (hrun : Run (Performs length) j calls j') :
    j'.nextSeq = j.nextSeq + calls.countP (fun call => call.appended.isSome) ∧
      j'.durability = j.durability ∧ j'.maxBytes = j.maxBytes := by
  induction hrun with
  | nil j => exact ⟨rfl, rfl, rfl⟩
  | cons head tail ih =>
    obtain rfl : _ = _ := head
    obtain ⟨hnext, hdurability, hmax⟩ := ih (h.perform _)
    obtain ⟨hnext₁, hdurability₁, hmax₁⟩ := h.perform_settings _
    refine ⟨?_, hdurability.trans hdurability₁, hmax.trans hmax₁⟩
    rw [hnext, hnext₁, List.countP_cons]
    omega

/-- A run in order keeps the lines in order. -/
lemma ordered_of_run (hacc : Accounted length j) (h : Ordered j)
    (hrun : Run (PerformsInOrder length) j calls j') : Ordered j' := by
  refine (hrun.invariant (P := fun j => Accounted length j ∧ Ordered j) ⟨hacc, h⟩ ?_).2
  rintro j call j' ⟨hacc, hordered⟩ ⟨hstep, horder⟩
  obtain rfl : _ = _ := hstep
  exact ⟨hacc.perform call, hordered.perform hacc horder⟩

/-- Lines of a durable journal stay in every run. -/
lemma run_lines_of_durable (hacc : Accounted length j) (hmode : j.durability = .durable)
    (hrun : Run (Performs length) j calls j') : j.lines <+: j'.lines := by
  induction hrun with
  | nil j => exact List.prefix_refl _
  | @cons j₁ j₂ j₃ call calls head tail ih =>
    obtain rfl : _ = _ := head
    have hmode' := (hacc.perform_settings call).2.1.trans hmode
    exact (perform_lines_of_durable hacc hmode call).trans (ih (hacc.perform call) hmode')

/-- Every run of a performance journal is in order. -/
lemma inOrder_of_performance (hacc : Accounted length j) (hmode : j.durability = .performance)
    (hrun : Run (Performs length) j calls j') : Run (PerformsInOrder length) j calls j' := by
  induction hrun with
  | nil j => exact .nil j
  | @cons j₁ j₂ j₃ call calls head tail ih =>
    obtain rfl : _ = _ := head
    have horder : j₁.InOrder length call := by
      intro payload io _ hdurable
      exact absurd (hmode.symm.trans (isDurable_eq_true.mp hdurable)) (by decide)
    exact .cons ⟨rfl, horder⟩
      (ih (hacc.perform call) ((hacc.perform_settings call).2.1.trans hmode))

/-- Lines that end in order were written in order. -/
lemma inOrder_of_wellNumbered (hacc : Accounted length j) (h : Ordered j)
    (hrun : Run (Performs length) j calls j') (hlines : WellNumbered j.durability j'.lines) :
    Run (PerformsInOrder length) j calls j' := by
  induction hrun with
  | nil j => exact .nil j
  | @cons j₁ j₂ j₃ call calls head tail ih =>
    obtain rfl : _ = _ := head
    have hmode := (hacc.perform_settings call).2.1
    by_cases horder : j₁.InOrder length call
    · refine .cons ⟨rfl, horder⟩ (ih (hacc.perform call) (h.perform hacc horder) ?_)
      rwa [hmode]
    · -- an unordered line stays in the file, so the last lines are not in order either
      obtain ⟨hdurable, hnot⟩ := not_wellNumbered_perform hacc h horder
      rw [hdurable] at hmode hlines
      exact absurd (hlines.initial (run_lines_of_durable (hacc.perform call) hmode tail)) hnot

/-- In every run of calls the file keeps within the byte limit and an append that returns a
number returns the number of appends so far.  The lines are contiguous exactly when every call
is in order, as is every call of a performance journal. -/
theorem contiguous_and_bounded (length : JournalEntry → ℕ) (durability : JournalDurability)
    (maxBytes : ℕ) (calls : List JournalCall) (j : Journal)
    (hrun : Run (Performs length) (create durability maxBytes) calls j) :
    (j.file.map length).sum ≤ maxBytes ∧
      (∀ payload io seq, (j.record length payload io).1 = .ok seq →
        seq = calls.countP (fun call => call.appended.isSome) + 1) ∧
      (durability = .performance → WellNumbered durability j.file) ∧
      (Run (PerformsInOrder length) (create durability maxBytes) calls j →
        WellNumbered durability j.file) ∧
      (WellNumbered durability j.lines ↔
        Run (PerformsInOrder length) (create durability maxBytes) calls j) := by
  have hacc := (accounted_create durability maxBytes).run hrun
  obtain ⟨hnext, hmode, hmax⟩ := run_settings (accounted_create durability maxBytes) hrun
  have hfile : j.file <+: j.lines := List.prefix_append _ _
  have hordered (horder : Run (PerformsInOrder length) (create durability maxBytes) calls j) :
      WellNumbered durability j.lines := by
    have h := (ordered_of_run (accounted_create durability maxBytes) (ordered_create _ _)
      horder).wellNumbered
    rwa [hmode] at h
  refine ⟨?_, ?_, ?_, fun horder => (hordered horder).initial hfile, ?_, hordered⟩
  · have hbound := hacc.bounded
    rw [hmax, lines, List.map_append, List.sum_append] at hbound
    exact le_trans (Nat.le_add_right _ _) hbound
  · intro payload io seq hseq
    rw [record_eq_ok hseq, hnext, Nat.add_comm]
    rfl
  · intro hperformance
    have hinOrder := inOrder_of_performance (accounted_create durability maxBytes) hperformance hrun
    exact (hordered hinOrder).initial hfile
  · exact inOrder_of_wellNumbered (accounted_create durability maxBytes) (ordered_create _ _) hrun

end Length

/-- Line lengths for the runs below: the text of an API request and what surrounds it. -/
def requestLength (entry : JournalEntry) : ℕ :=
  match entry.data with
  | .of (.apiRequest request) => 40 + request.length
  | _ => 40

/-- A durable journal of 100 bytes records one request and closes. -/
theorem durable_request_contiguous :
    ∃ j, Run (Performs requestLength) (create .durable 100)
        [.append (.apiRequest "a") .ok, .finish .ok] j ∧
      j.file = [⟨1, .of (.apiRequest "a")⟩, ⟨2, .of .journalClosed⟩] ∧
      WellNumbered .durable j.file := by
  have hrun : Run (Performs requestLength) (create .durable 100)
      [.append (.apiRequest "a") .ok, .finish .ok] _ := .cons rfl (.cons rfl (.nil _))
  have hinOrder : Run (PerformsInOrder requestLength) (create .durable 100)
      [.append (.apiRequest "a") .ok, .finish .ok] _ :=
    .cons ⟨rfl, fun _ _ _ _ _ _ => rfl⟩ (.cons ⟨rfl, fun _ _ _ _ _ _ => rfl⟩ (.nil _))
  exact ⟨_, hrun, rfl, (contiguous_and_bounded _ _ _ _ _ hrun).2.2.2.1 hinOrder⟩

/-- A durable journal that refuses a request for its size still records a smaller one, and its
file then skips a number. -/
theorem refused_then_written :
    ∃ j, Run (Performs requestLength) (create .durable 100)
        [.append (.apiRequest "a") .ok,
          .append (.apiRequest "a request that does not fit in the journal") .ok,
          .append (.apiRequest "b") .ok] j ∧
      j.file.map JournalEntry.seq = [1, 3] ∧ ¬ WellNumbered .durable j.file := by
  refine ⟨_, .cons rfl (.cons rfl (.cons rfl (.nil _))), rfl, ?_⟩
  rintro ⟨k, h | ⟨hmode, -⟩⟩
  · obtain rfl := h.length_eq
    exact absurd h.1 (by decide)
  · exact absurd hmode (by decide)

end Journal

end GdbAi
