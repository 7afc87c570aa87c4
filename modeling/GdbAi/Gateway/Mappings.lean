import GdbAi.Gateway.Policy

/-!
# Ranges and the mappings of a process

What `classify_linux_maps` of `gdb-ai-core/src/gateway.rs` says of a range.  The mappings of a
process are disjoint and in ascending order, so one pass over them with the first address that is
not covered yet finds every gap and every device: `classifyMappings_spec` is the pass, and
`classifyLinuxMaps_exact` is the statement about the text.  A device is told by the first word of
its path, which starts as the path does (`Mapping.device_ofLine`).
-/

namespace GdbAi

/-! ### Words -/

/-- A text without its first word and the blanks before it. -/
def dropWord (text : List Char) : List Char :=
  (text.dropWhile isWhiteSpace).dropWhile fun c => !isWhiteSpace c

/-- The first word of a text. -/
def firstWord (text : List Char) : List Char :=
  (text.dropWhile isWhiteSpace).takeWhile fun c => !isWhiteSpace c

lemma splitWords_blank {c : Char} (h : isWhiteSpace c = true) (text : List Char) :
    splitWords (c :: text) = splitWords text := by
  unfold splitWords
  rw [List.splitOnP_cons_eq_if_modifyHead, if_pos h, List.filter_cons_of_neg (by simp)]

/-- The words of a text that starts with one. -/
lemma splitWords_word {c : Char} (h : isWhiteSpace c = false) (text : List Char) :
    splitWords (c :: text) = firstWord (c :: text) :: splitWords (dropWord (c :: text)) := by
  have hword : firstWord (c :: text) = (c :: text).takeWhile fun c => !isWhiteSpace c := by
    rw [firstWord, List.dropWhile_cons_of_neg (by simp [h])]
  have hrest : dropWord (c :: text) = (c :: text).dropWhile fun c => !isWhiteSpace c := by
    rw [dropWord, List.dropWhile_cons_of_neg (by simp [h])]
  have hne : (c :: text).takeWhile (fun c => !isWhiteSpace c) ≠ [] := by
    rw [List.takeWhile_cons_of_pos (by simp [h])]
    exact List.cons_ne_nil _ _
  have hplain : ∀ d ∈ (c :: text).takeWhile (fun c => !isWhiteSpace c), isWhiteSpace d = false :=
    fun d hd => by simpa using List.mem_takeWhile_imp hd
  have hsplit := List.takeWhile_append_dropWhile (p := fun c => !isWhiteSpace c) (l := c :: text)
  rw [hword, hrest]
  generalize (c :: text).takeWhile (fun c => !isWhiteSpace c) = word at *
  generalize hr : (c :: text).dropWhile (fun c => !isWhiteSpace c) = rest at *
  rw [← hsplit]
  cases rest with
  | nil =>
    rw [List.append_nil, splitWords, List.splitOnP_eq_singleton hplain,
      List.filter_cons_of_pos (by simpa using hne)]
    rfl
  | cons blank rest =>
    have hblank : isWhiteSpace blank = true := by
      have hhead := List.head?_dropWhile_not (fun c => !isWhiteSpace c) (c :: text)
      rw [hr] at hhead
      simpa using hhead
    rw [splitWords_blank hblank, splitWords,
      List.splitOnP_append_cons_of_forall_mem hplain _ hblank,
      List.filter_cons_of_pos (by simpa using hne)]
    rfl

/-- Dropping words drops them from the list of words. -/
lemma splitWords_dropWord (text : List Char) : splitWords (dropWord text) = (splitWords text).tail := by
  induction text with
  | nil => rfl
  | cons c text ih =>
    cases h : isWhiteSpace c with
    | true =>
      have hdrop : dropWord (c :: text) = dropWord text := by
        rw [dropWord, List.dropWhile_cons_of_pos h, dropWord]
      rw [hdrop, splitWords_blank h, ih]
    | false => rw [splitWords_word h, List.tail_cons]

lemma splitWords_headD (text : List Char) : (splitWords text).headD [] = firstWord text := by
  induction text with
  | nil => rfl
  | cons c text ih =>
    cases h : isWhiteSpace c with
    | true =>
      have hfirst : firstWord (c :: text) = firstWord text := by
        rw [firstWord, List.dropWhile_cons_of_pos h, firstWord]
      rw [hfirst, splitWords_blank h, ih]
    | false => rw [splitWords_word h, List.headD_cons]

/-! ### The path of a mapping -/

/-- The path on a line of the mappings: what follows its first five fields. -/
def mappingPath (line : List Char) : List Char :=
  (dropWord (dropWord (dropWord (dropWord (dropWord line))))).dropWhile isWhiteSpace

/-- The word that is taken for the path is the first word of the path. -/
lemma splitWords_drop_five (line : List Char) :
    ((splitWords line).drop 5).headD [] =
      (mappingPath line).takeWhile fun c => !isWhiteSpace c := by
  have hdrop : (splitWords line).drop 5 =
      splitWords (dropWord (dropWord (dropWord (dropWord (dropWord line))))) := by
    simp only [splitWords_dropWord, ← List.drop_one, List.drop_drop]
  rw [hdrop, splitWords_headD, firstWord, mappingPath]

/-- A lead without blanks is a lead of the first word. -/
lemma prefix_takeWhile_iff {lead text : List Char} (h : ∀ c ∈ lead, isWhiteSpace c = false) :
    lead <+: text.takeWhile (fun c => !isWhiteSpace c) ↔ lead <+: text := by
  constructor
  · exact fun hlead => hlead.trans (List.takeWhile_prefix _)
  · rintro ⟨rest, rfl⟩
    rw [List.takeWhile_append_of_pos (by simpa using h)]
    exact List.prefix_append _ _

/-- A mapping is a device exactly if its path begins with `/dev/`. -/
lemma Mapping.device_ofLine {line : List Char} {mapping : Mapping}
    (h : Mapping.ofLine line = some mapping) :
    mapping.device = true ↔ "/dev/".toList <+: mappingPath line := by
  have hlead : ∀ c ∈ "/dev/".toList, isWhiteSpace c = false := by simp [isWhiteSpace]
  rw [← prefix_takeWhile_iff hlead, ← splitWords_drop_five]
  unfold Mapping.ofLine at h
  cases hwords : splitWords line with
  | nil =>
    rw [hwords] at h
    cases h
  | cons range fields =>
    rw [hwords] at h
    dsimp only at h
    split at h
    · cases h
    · obtain ⟨first, -, h⟩ := Option.bind_eq_some_iff.mp h
      obtain ⟨last, -, h⟩ := Option.bind_eq_some_iff.mp h
      obtain rfl := Option.some.inj h
      rw [List.isPrefixOf_iff_prefix, List.drop_succ_cons]

/-! ### The pass over the mappings -/

namespace Mapping

/-- The address lies in the mapping. -/
def Has (mapping : Mapping) (address : ℕ) : Prop :=
  mapping.first ≤ address ∧ address < mapping.last

/-- The mapping has an address between `start` and `last`. -/
def Meets (mapping : Mapping) (start last : ℕ) : Prop :=
  ∃ address, start ≤ address ∧ address ≤ last ∧ mapping.Has address

end Mapping

/-- Every address between `start` and `last` lies in one of the mappings. -/
def Covered (mappings : List Mapping) (start last : ℕ) : Prop :=
  ∀ address, start ≤ address → address ≤ last → ∃ mapping ∈ mappings, mapping.Has address

/-- A device among the mappings meets the range. -/
def MeetsDevice (mappings : List Mapping) (start last : ℕ) : Prop :=
  ∃ mapping ∈ mappings, mapping.device = true ∧ mapping.Meets start last

/-- The mappings are disjoint and ascend. -/
def Ascending (mappings : List Mapping) : Prop :=
  mappings.Pairwise fun before after => before.last ≤ after.first

section

variable {mapping : Mapping} {mappings : List Mapping} {next last : ℕ}

/-- A mapping that ends before the range says nothing about it. -/
lemma covered_skip (hend : mapping.last ≤ next) :
    Covered (mapping :: mappings) next last ↔ Covered mappings next last := by
  constructor
  · intro h address hlow hhigh
    obtain ⟨other, hmem, hhas⟩ := h address hlow hhigh
    rcases List.mem_cons.mp hmem with rfl | hmem
    · exact absurd hhas.2 (by omega)
    · exact ⟨other, hmem, hhas⟩
  · intro h address hlow hhigh
    obtain ⟨other, hmem, hhas⟩ := h address hlow hhigh
    exact ⟨other, List.mem_cons_of_mem _ hmem, hhas⟩

lemma meetsDevice_skip (hend : mapping.last ≤ next) :
    MeetsDevice (mapping :: mappings) next last ↔ MeetsDevice mappings next last := by
  constructor
  · rintro ⟨other, hmem, hdevice, address, hlow, hhigh, hhas⟩
    rcases List.mem_cons.mp hmem with rfl | hmem
    · exact absurd hhas.2 (by omega)
    · exact ⟨other, hmem, hdevice, address, hlow, hhigh, hhas⟩
  · rintro ⟨other, hmem, hmeets⟩
    exact ⟨other, List.mem_cons_of_mem _ hmem, hmeets⟩

/-- Behind a gap the first address is not covered. -/
lemma not_covered_gap (hsorted : Ascending (mapping :: mappings)) (hrange : next ≤ last)
    (hend : next < mapping.last) (hgap : next < mapping.first) :
    ¬ Covered (mapping :: mappings) next last := by
  intro h
  obtain ⟨other, hmem, hhas⟩ := h next le_rfl hrange
  rcases List.mem_cons.mp hmem with rfl | hmem
  · exact absurd hhas.1 (by omega)
  · have hafter := List.rel_of_pairwise_cons hsorted hmem
    exact absurd hhas.1 (by omega)

/-- A mapping from the first address on covers up to its end. -/
lemma covered_advance (hsorted : Ascending (mapping :: mappings)) (hstart : mapping.first ≤ next) :
    Covered (mapping :: mappings) next last ↔ Covered mappings (max next mapping.last) last := by
  constructor
  · intro h address hlow hhigh
    obtain ⟨other, hmem, hhas⟩ := h address (by omega) hhigh
    rcases List.mem_cons.mp hmem with rfl | hmem
    · exact absurd hhas.2 (by omega)
    · exact ⟨other, hmem, hhas⟩
  · intro h address hlow hhigh
    by_cases hinside : address < mapping.last
    · exact ⟨mapping, List.mem_cons_self, by omega, hinside⟩
    · obtain ⟨other, hmem, hhas⟩ := h address (by omega) hhigh
      exact ⟨other, List.mem_cons_of_mem _ hmem, hhas⟩

/-- The devices that meet the range are the mapping itself or meet what lies behind it. -/
lemma meetsDevice_advance (hsorted : Ascending (mapping :: mappings)) (hrange : next ≤ last)
    (hstart : mapping.first ≤ next) (hend : next < mapping.last) :
    MeetsDevice (mapping :: mappings) next last ↔
      mapping.device = true ∨ MeetsDevice mappings mapping.last last := by
  constructor
  · rintro ⟨other, hmem, hdevice, address, hlow, hhigh, hhas⟩
    rcases List.mem_cons.mp hmem with rfl | hmem
    · exact .inl hdevice
    · have hafter := List.rel_of_pairwise_cons hsorted hmem
      exact .inr ⟨other, hmem, hdevice, address, hafter.trans hhas.1, hhigh, hhas⟩
  · rintro (hdevice | ⟨other, hmem, hdevice, address, hlow, hhigh, hhas⟩)
    · exact ⟨mapping, List.mem_cons_self, hdevice, next, le_rfl, hrange, hstart, hend⟩
    · exact ⟨other, List.mem_cons_of_mem _ hmem, hdevice, address, by omega, hhigh, hhas⟩

end

/-- The pass over ascending mappings: a range with a gap is unknown, and a covered one is volatile
if it was so before or meets a device, and is left as it was otherwise. -/
lemma classifyMappings_spec {last : ℕ} {mappings : List Mapping} {next : ℕ}
    (effect : MemoryRangeEffect) (hsorted : Ascending mappings) (hrange : next ≤ last) :
    (¬ Covered mappings next last → classifyMappings last mappings next effect = .unknown) ∧
      (Covered mappings next last → MeetsDevice mappings next last →
        classifyMappings last mappings next effect = .volatile) ∧
      (Covered mappings next last → ¬ MeetsDevice mappings next last →
        classifyMappings last mappings next effect = effect) := by
  -- Induction on the mappings; `next` moves to the end of each mapping that covers it.
  induction mappings generalizing next effect with
  | nil =>
    have hgap : ¬ Covered [] next last := by
      intro h
      obtain ⟨mapping, hmem, -⟩ := h next le_rfl hrange
      cases hmem
    exact ⟨fun _ => rfl, fun h => absurd h hgap, fun h => absurd h hgap⟩
  | cons mapping mappings ih =>
    have htail : Ascending mappings := hsorted.of_cons
    rw [classifyMappings]
    by_cases hend : mapping.last ≤ next
    · rw [if_pos hend, covered_skip hend, meetsDevice_skip hend]
      exact ih effect htail hrange
    · rw [if_neg hend]
      by_cases hgap : mapping.first > next
      · have hopen := not_covered_gap hsorted hrange (not_le.mp hend) hgap
        rw [if_pos hgap]
        exact ⟨fun _ => rfl, fun h => absurd h hopen, fun h => absurd h hopen⟩
      · have hmax : max next mapping.last = mapping.last := max_eq_right (by omega)
        rw [if_neg hgap, covered_advance hsorted (not_lt.mp hgap), hmax,
          meetsDevice_advance hsorted hrange (not_lt.mp hgap) (not_le.mp hend)]
        dsimp only
        by_cases hlast : last < mapping.last
        · have hcovered : Covered mappings mapping.last last := by
            intro address hlow hhigh
            omega
          have hnone : ¬ MeetsDevice mappings mapping.last last := by
            rintro ⟨other, -, -, address, hlow, hhigh, -⟩
            omega
          rw [if_pos hlast]
          refine ⟨fun h => absurd hcovered h, fun _ hdevice => ?_, fun _ hdevice => ?_⟩
          · rw [if_pos (hdevice.resolve_right hnone)]
          · rw [if_neg fun h => hdevice (.inl h)]
        · obtain ⟨hunknown, hvolatile, hkept⟩ :=
            ih (if mapping.device then .volatile else effect) htail (not_lt.mp hlast)
          rw [if_neg hlast]
          refine ⟨hunknown, fun hcovered hdevice => ?_, fun hcovered hdevice => ?_⟩
          · by_cases hmore : MeetsDevice mappings mapping.last last
            · exact hvolatile hcovered hmore
            · rw [hkept hcovered hmore, if_pos (hdevice.resolve_right hmore)]
          · rw [hkept hcovered fun h => hdevice (.inr h), if_neg fun h => hdevice (.inl h)]

/-! ### The text of the mappings -/

/-- Every address of the range lies in the mapping of some line. -/
def CoveredBy (maps : String) (start last : ℕ) : Prop :=
  ∀ address, start ≤ address → address ≤ last → ∃ line ∈ textLines maps, ∃ mapping,
    Mapping.ofLine line = some mapping ∧ mapping.Has address

/-- The mapping of some line meets the range and has a path that begins with `/dev/`. -/
def MeetsDeviceOf (maps : String) (start last : ℕ) : Prop :=
  ∃ line ∈ textLines maps, ∃ mapping, Mapping.ofLine line = some mapping ∧
    mapping.Meets start last ∧ "/dev/".toList <+: mappingPath line

lemma coveredBy_iff (maps : String) (start last : ℕ) :
    CoveredBy maps start last ↔
      Covered ((textLines maps).filterMap Mapping.ofLine) start last := by
  unfold CoveredBy Covered
  refine forall₃_congr fun address _ _ => ?_
  constructor
  · rintro ⟨line, hline, mapping, hmapping, hhas⟩
    exact ⟨mapping, List.mem_filterMap.mpr ⟨line, hline, hmapping⟩, hhas⟩
  · rintro ⟨mapping, hmem, hhas⟩
    obtain ⟨line, hline, hmapping⟩ := List.mem_filterMap.mp hmem
    exact ⟨line, hline, mapping, hmapping, hhas⟩

lemma meetsDeviceOf_iff (maps : String) (start last : ℕ) :
    MeetsDeviceOf maps start last ↔
      MeetsDevice ((textLines maps).filterMap Mapping.ofLine) start last := by
  constructor
  · rintro ⟨line, hline, mapping, hmapping, hmeets, hpath⟩
    exact ⟨mapping, List.mem_filterMap.mpr ⟨line, hline, hmapping⟩,
      (Mapping.device_ofLine hmapping).mpr hpath, hmeets⟩
  · rintro ⟨mapping, hmem, hdevice, hmeets⟩
    obtain ⟨line, hline, hmapping⟩ := List.mem_filterMap.mp hmem
    exact ⟨line, hline, mapping, hmapping, hmeets, (Mapping.device_ofLine hmapping).mp hdevice⟩

/-- The classification of a range is exact, for every text of mappings that are disjoint and
ascend: ordinary if the mappings cover the range and none that meets it is a device, volatile if
they cover it and one is, and unknown if they leave a gap. -/
theorem classifyLinuxMaps_exact (maps : String) (start last : ℕ)
    (hsorted : Ascending ((textLines maps).filterMap Mapping.ofLine)) (hrange : start ≤ last) :
    (classifyLinuxMaps maps start last = .ordinary ↔
        CoveredBy maps start last ∧ ¬ MeetsDeviceOf maps start last) ∧
      (classifyLinuxMaps maps start last = .volatile ↔
        CoveredBy maps start last ∧ MeetsDeviceOf maps start last) ∧
      (classifyLinuxMaps maps start last = .unknown ↔ ¬ CoveredBy maps start last) := by
  obtain ⟨hunknown, hvolatile, hordinary⟩ :=
    classifyMappings_spec .ordinary hsorted hrange
  rw [coveredBy_iff, meetsDeviceOf_iff]
  unfold classifyLinuxMaps
  by_cases hcovered : Covered ((textLines maps).filterMap Mapping.ofLine) start last
  · by_cases hdevice : MeetsDevice ((textLines maps).filterMap Mapping.ofLine) start last
    · simp [hvolatile hcovered hdevice, hcovered, hdevice]
    · simp [hordinary hcovered hdevice, hcovered, hdevice]
  · simp [hunknown hcovered, hcovered]

/-- A program followed by a device, with a line between them that is no mapping. -/
def deviceMaps : String :=
  "1000-2000 r-xp 0 08:01 5 /bin/cat\n[stack]\n2000-3000 rw-s 0 00:05 7 /dev/mem\n"

lemma deviceMaps_mappings : (textLines deviceMaps).filterMap Mapping.ofLine =
    [⟨0x1000, 0x2000, false⟩, ⟨0x2000, 0x3000, true⟩] := by
  decide +kernel

/-- The last address of the program is ordinary, a range into the device is volatile, and one past
the device is unknown. -/
theorem deviceMaps_classified :
    (CoveredBy deviceMaps 0x1000 0x1fff ∧ ¬ MeetsDeviceOf deviceMaps 0x1000 0x1fff) ∧
      (CoveredBy deviceMaps 0x1fff 0x2000 ∧ MeetsDeviceOf deviceMaps 0x1fff 0x2000) ∧
      ¬ CoveredBy deviceMaps 0x2000 0x3000 := by
  have hsorted : Ascending ((textLines deviceMaps).filterMap Mapping.ofLine) := by
    rw [deviceMaps_mappings]
    simp [Ascending]
  have heval (start last : ℕ) : classifyLinuxMaps deviceMaps start last =
      classifyMappings last [⟨0x1000, 0x2000, false⟩, ⟨0x2000, 0x3000, true⟩] start .ordinary := by
    rw [classifyLinuxMaps, deviceMaps_mappings]
  refine ⟨?_, ?_, ?_⟩
  · refine (classifyLinuxMaps_exact deviceMaps _ _ hsorted (by decide)).1.mp ?_
    rw [heval]
    decide
  · refine (classifyLinuxMaps_exact deviceMaps _ _ hsorted (by decide)).2.1.mp ?_
    rw [heval]
    decide
  · refine (classifyLinuxMaps_exact deviceMaps _ _ hsorted (by decide)).2.2.mp ?_
    rw [heval]
    decide

end GdbAi
