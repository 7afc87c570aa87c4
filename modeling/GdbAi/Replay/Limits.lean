import GdbAi.Config
import GdbAi.Mi.Correctness
import GdbAi.Replay

/-!
# The limits of a session and of its replay

A session parses the records of GDB under the limits its configuration sets, and `replay` parses
the journaled bytes under the default ones.  The parser is monotone in its limits
(`parseRecord_mono`), so replay reads every record of a session exactly if the configuration stays
within the defaults (`replay_reads_live_records_iff`): `Config::validate` bounds the limits from
below only, and a record that is too long or nested too deeply ends the replay of its journal.
-/

namespace GdbAi

open MiParser Grammar

/-! ### Monotonicity -/

/-- Limits that allow at least as much. -/
structure MiLimits.Within (limits wider : MiLimits) : Prop where
  record : limits.maxRecordBytes ≤ wider.maxRecordBytes
  depth : limits.maxDepth ≤ wider.maxDepth
  decoded : limits.maxDecodedStringBytes ≤ wider.maxDecodedStringBytes

section

variable {limits wider : MiLimits}

mutual

lemma MiValue.Within.mono (hwider : limits.Within wider) {depth : ℕ} :
    ∀ {value : MiValue}, value.Within limits depth → value.Within wider depth
  | .const _, h => Nat.le_trans (by exact h) hwider.decoded
  | .tuple _, h => ⟨h.1.trans_le hwider.depth, resultsWithin_mono hwider h.2⟩
  | .valueList _, h => ⟨h.1.trans_le hwider.depth, valuesWithin_mono hwider h.2⟩
  | .resultList _, h => ⟨h.1.trans_le hwider.depth, resultsWithin_mono hwider h.2⟩

lemma valuesWithin_mono (hwider : limits.Within wider) {depth : ℕ} :
    ∀ {values : List MiValue}, valuesWithin limits depth values → valuesWithin wider depth values
  | [], _ => trivial
  | _ :: _, h => ⟨MiValue.Within.mono hwider h.1, valuesWithin_mono hwider h.2⟩

lemma resultsWithin_mono (hwider : limits.Within wider) {depth : ℕ} :
    ∀ {results : List MiResult},
      resultsWithin limits depth results → resultsWithin wider depth results
  | [], _ => trivial
  | (_, _) :: _, h => ⟨MiValue.Within.mono hwider h.1, resultsWithin_mono hwider h.2⟩

end

lemma MiRecord.Within.mono (hwider : limits.Within wider) {record : MiRecord}
    (h : record.Within limits) : record.Within wider := by
  cases record with
  | result | execAsync | statusAsync | notifyAsync => exact ⟨h.1, resultsWithin_mono hwider h.2⟩
  | consoleStream | targetStream | logStream => exact Nat.le_trans (by exact h) hwider.decoded
  | prompt => trivial

/-- A record that is read under some limits is read as the same under wider ones. -/
lemma parseRecord_mono (hwider : limits.Within wider) {raw : Bytes} {record : MiRecord}
    (h : parseRecord raw limits = .ok record) : parseRecord raw wider = .ok record := by
  rw [parseRecord_ok_iff, ← record_within_iff] at h ⊢
  obtain ⟨hne, hlength, hrecord, hwithin⟩ := h
  exact ⟨hne, hlength.trans hwider.record, hrecord, hwithin.mono hwider⟩

end

/-! ### Records at the limits -/

/-- Lists nested `n + 1` deep. -/
def nestedList : ℕ → MiValue
  | 0 => .valueList []
  | n + 1 => .valueList [nestedList n]

/-- The text of `nestedList`. -/
def nestedBytes : ℕ → Bytes
  | 0 => [Byte.openBracket, Byte.closeBracket]
  | n + 1 => Byte.openBracket :: (nestedBytes n ++ [Byte.closeBracket])

lemma length_nestedBytes (n : ℕ) : (nestedBytes n).length = 2 * n + 2 := by
  induction n with
  | zero => rfl
  | succ n ih =>
    rw [nestedBytes, List.length_cons, List.length_append, ih, List.length_singleton]
    omega

lemma value_nestedBytes (n : ℕ) : Value (nestedBytes n) (nestedList n) := by
  induction n with
  | zero => exact Value.valueList (.nil : List.Forall₂ Value [] [])
  | succ n ih =>
    have h := Value.valueList (.cons ih .nil)
    rwa [commas, List.intercalate_singleton] at h

/-- Nested lists keep to a limit that is more than their depth. -/
lemma nestedList_within_iff {limits : MiLimits} {depth n : ℕ} :
    (nestedList n).Within limits depth ↔ depth + n < limits.maxDepth := by
  induction n generalizing depth with
  | zero => simp [nestedList, MiValue.Within, valuesWithin]
  | succ n ih =>
    simp only [nestedList, MiValue.Within, valuesWithin, ih, and_true]
    omega

/-- The record `^done,a=[[...]]` with lists nested `n + 1` deep. -/
def deepRecord (n : ℕ) : Bytes :=
  Byte.caret :: ([100, 111, 110, 101] ++ Byte.comma :: 97 :: Byte.equals :: nestedBytes n)

lemma length_deepRecord (n : ℕ) : (deepRecord n).length = 2 * n + 10 := by
  simp only [deepRecord, List.length_cons, List.length_append, List.length_nil,
    length_nestedBytes]
  omega

lemma parseRecord_deepRecord {limits : MiLimits} {n : ℕ} (hdepth : n < limits.maxDepth)
    (hlength : 2 * n + 10 ≤ limits.maxRecordBytes) :
    parseRecord (deepRecord n) limits = .ok (.result none "done" [("a", nestedList n)]) := by
  have hclass : Name [100, 111, 110, 101] "done" := ⟨by simp, by decide +kernel, by decide +kernel⟩
  have hname : Name [97] "a" := ⟨by simp, by decide +kernel, by decide +kernel⟩
  have hbody : ClassResults
      ([100, 111, 110, 101] ++ Byte.comma :: 97 :: Byte.equals :: nestedBytes n)
      "done" [("a", nestedList n)] :=
    ⟨_, [97 :: Byte.equals :: nestedBytes n], hclass,
      .cons (.named hname (value_nestedBytes n)) .nil, by simp⟩
  have hwithin : resultsWithin limits 0 [("a", nestedList n)] :=
    ⟨nestedList_within_iff.mpr (by omega), trivial⟩
  refine parseRecord_of_body .none (by simp [TokenWithin]) (.results .result hbody hwithin) ?_
  exact (length_deepRecord n).trans_le hlength

/-- The record `~"aa...a"` with `n` characters. -/
def longRecord (n : ℕ) : Bytes :=
  Byte.tilde :: Byte.quote :: (List.replicate n 97 ++ [Byte.quote])

lemma length_longRecord (n : ℕ) : (longRecord n).length = n + 3 := by
  simp [longRecord]

lemma chars_replicate (n : ℕ) :
    Chars (List.replicate n 97 ++ [Byte.quote]) (List.replicate n 97) := by
  induction n with
  | zero => exact .close
  | succ n ih => exact .plain (by decide) ih

lemma parseRecord_longRecord {limits : MiLimits} {n : ℕ} (hlength : n + 3 ≤ limits.maxRecordBytes)
    (hdecoded : n ≤ limits.maxDecodedStringBytes) :
    parseRecord (longRecord n) limits = .ok (.consoleStream (List.replicate n 97)) := by
  have hstring : CString (Byte.quote :: (List.replicate n 97 ++ [Byte.quote]))
      (List.replicate n 97) := ⟨_, rfl, chars_replicate n⟩
  refine parseRecord_of_body .none (by simp [TokenWithin])
    (.stream rfl .console hstring (by simpa using hdecoded)) ?_
  exact (length_longRecord n).trans_le hlength

/-! ### The session and its replay -/

/-- The limits that `bootstrap` derives from the configuration. -/
def Limits.miLimits (limits : Limits) : MiLimits where
  maxRecordBytes := limits.miRecordBytes
  maxDepth := limits.miDepth
  maxDecodedStringBytes := limits.miRecordBytes

lemma le_miRecordBytes_of_validate {config : Config} {pinned : String → Bool}
    (h : config.validate pinned = .ok ()) : 1024 ≤ config.limits.miRecordBytes := by
  have hvalid := Config.limitsValid_of_validate h
  simp only [Config.limitsValid, Bool.and_eq_true, decide_eq_true_eq] at hvalid
  tauto

/-- Replay reads every record a session reads, as the same record, exactly if the limits of the
configuration are not above the default ones. -/
theorem replay_reads_live_records_iff (config : Config) (pinned : String → Bool)
    (hvalid : config.validate pinned = .ok ()) :
    (∀ raw record, parseRecord raw config.limits.miLimits = .ok record →
        parseRecord raw MiLimits.default = .ok record) ↔
      config.limits.miRecordBytes ≤ 8 * 1024 * 1024 ∧ config.limits.miDepth ≤ 128 := by
  have hminimum := le_miRecordBytes_of_validate hvalid
  constructor
  · intro h
    constructor
    · by_contra hlong
      have hlive : parseRecord (longRecord (8 * 1024 * 1024 - 2)) config.limits.miLimits = .ok _ :=
        parseRecord_longRecord (by simp only [Limits.miLimits]; omega)
          (by simp only [Limits.miLimits]; omega)
      have hshort := (parseRecord_ok_iff.mp (h _ _ hlive)).2.1
      rw [length_longRecord] at hshort
      exact absurd hshort (by decide)
    · by_contra hdeep
      have hlive : parseRecord (deepRecord 128) config.limits.miLimits = .ok _ :=
        parseRecord_deepRecord (not_le.mp hdeep) (by simp only [Limits.miLimits]; omega)
      have hread := h _ _ hlive
      rw [parseRecord_ok_iff, ← record_within_iff] at hread
      have hwithin := nestedList_within_iff.mp hread.2.2.2.2.1
      exact absurd hwithin (by decide)
  · rintro ⟨hrecord, hdepth⟩ raw record h
    exact parseRecord_mono ⟨hrecord, hdepth, hrecord⟩ h

/-- The defaults are within their own limits: a record of a session with them is replayed. -/
theorem default_record_replayed :
    parseRecord (deepRecord 127) MiLimits.default =
      .ok (.result none "done" [("a", nestedList 127)]) :=
  (replay_reads_live_records_iff {} (fun _ => true) (Config.validate_default _)).mpr
    ⟨by decide, by decide⟩ _ _ (parseRecord_deepRecord (by decide) (by decide))

/-- A session that allows one level more reads a record that replay refuses. -/
theorem deep_record_not_replayed :
    ∃ config : Config, config.validate (fun _ => true) = .ok () ∧
      parseRecord (deepRecord 128) config.limits.miLimits =
        .ok (.result none "done" [("a", nestedList 128)]) ∧
      parseRecord (deepRecord 128) MiLimits.default = .error (.limit "nesting depth" 128) := by
  refine ⟨{ limits := { miDepth := 129 } }, rfl, ?_, ?_⟩
  · exact parseRecord_deepRecord (by decide) (by decide)
  · have herror : (match parseRecord (deepRecord 128) .default with
        | .error e => decide (e = .limit "nesting depth" 128)
        | .ok _ => false) = true := by
      decide +kernel
    split at herror
    · next e hparse => rw [hparse, of_decide_eq_true herror]
    · cases herror

end GdbAi
