import GdbAi.Library.Numerals
import GdbAi.Mi.Framer
import GdbAi.Mi.Quoting
import GdbAi.Session.Protocol

/-!
# Commands keep to their lines

A command reaches GDB as one line: the token, the name, and the arguments behind a space each.
What a client says ends up in these parts by three rules.  A name is a dash with letters, digits
and dashes, a bare argument has no ASCII whitespace, and a string is quoted.  None of them lets a
line feed through, so that the stream of commands has one line for each command, and the dash ends
the digits of the token.
-/

namespace GdbAi

open Parsing MiParser Grammar

/-- The commands that are built with `MiCommand::new`, `bare` and `string` only. -/
inductive MiCommand.Built : MiCommand → Prop
  | new {name : String} {command : MiCommand} (created : MiCommand.new name = .ok command) :
      Built command
  | bare {command next : MiCommand} {value : String} (built : Built command)
      (accepted : command.bare value = .ok next) : Built next
  | string {command : MiCommand} (built : Built command) (value : Bytes) :
      Built (command.string value)

/-- The line of a command, without its line feed. -/
def MiCommand.line (command : MiCommand) (token : ℕ) : Bytes :=
  utf8 (toString token) ++ utf8 command.name ++
    command.arguments.flatMap fun argument => 32 :: argument.encoded

lemma MiCommand.encoded_eq (command : MiCommand) (token : ℕ) :
    command.encoded token = command.line token ++ [Byte.lf] := rfl

/-! ### UTF-8 -/

/-- A byte of a character is the character itself, or no ASCII byte. -/
lemma toNat_of_mem_utf8EncodeChar {character : Char} {byte : UInt8}
    (h : byte ∈ String.utf8EncodeChar character) :
    byte.toNat = character.toNat ∨ 128 ≤ byte.toNat := by
  have hvalue : character.val.toNat = character.toNat := rfl
  simp only [String.utf8EncodeChar, hvalue] at h
  split at h
  · obtain rfl := List.mem_singleton.mp h
    rw [UInt8.toNat_ofNat']
    left
    omega
  split at h
  · simp only [List.mem_cons, List.not_mem_nil, or_false] at h
    rcases h with rfl | rfl <;> (rw [UInt8.toNat_ofNat']; omega)
  split at h
  · simp only [List.mem_cons, List.not_mem_nil, or_false] at h
    rcases h with rfl | rfl | rfl <;> (rw [UInt8.toNat_ofNat']; omega)
  · simp only [List.mem_cons, List.not_mem_nil, or_false] at h
    rcases h with rfl | rfl | rfl | rfl <;> (rw [UInt8.toNat_ofNat']; omega)

/-- An ASCII byte of a text is one of its characters. -/
lemma exists_of_mem_utf8 {value : String} {byte : UInt8} (h : byte ∈ utf8 value)
    (hascii : byte.toNat < 128) :
    ∃ character ∈ value.toList, byte.toNat = character.toNat := by
  obtain ⟨character, hmem, hbyte⟩ := List.mem_flatMap.mp h
  rcases toNat_of_mem_utf8EncodeChar hbyte with heq | hlarge
  · exact ⟨character, hmem, heq⟩
  · omega

/-- The bytes of a numeral are digits. -/
lemma isAsciiDigit_of_mem {n : ℕ} {byte : UInt8} (h : byte ∈ utf8 (toString n)) :
    Byte.isAsciiDigit byte = true := by
  obtain ⟨character, hmem, hbyte⟩ := List.mem_flatMap.mp h
  have hdigit := Numerals.isDigit_of_mem hmem
  simp only [Char.isDigit, Bool.and_eq_true, decide_eq_true_eq, ge_iff_le, UInt32.le_iff_toNat_le]
    at hdigit
  have hrange : 48 ≤ character.toNat ∧ character.toNat ≤ 57 := hdigit
  rw [Byte.isAsciiDigit, Bool.and_eq_true, decide_eq_true_eq, decide_eq_true_eq,
    UInt8.le_iff_toNat_le, UInt8.le_iff_toNat_le]
  change 48 ≤ byte.toNat ∧ byte.toNat ≤ 57
  have hascii : String.utf8EncodeChar character = [UInt8.ofNat character.val.toNat] := by
    have hsmall : character.val.toNat ≤ 0x7f := by
      change character.toNat ≤ 127
      omega
    rw [String.utf8EncodeChar, if_pos hsmall]
  rw [hascii, List.mem_singleton] at hbyte
  subst hbyte
  rw [UInt8.toNat_ofNat']
  change 48 ≤ character.toNat % 256 ∧ character.toNat % 256 ≤ 57
  omega

/-! ### The parts of a line -/

/-- The bytes that end a line, or could be taken for its end. -/
def Byte.EndsLine (byte : UInt8) : Prop := byte = Byte.lf ∨ byte = Byte.cr

lemma Byte.EndsLine.toNat_eq {byte : UInt8} (h : Byte.EndsLine byte) :
    byte.toNat = 10 ∨ byte.toNat = 13 := by
  rcases h with rfl | rfl
  · exact .inl rfl
  · exact .inr rfl

lemma not_endsLine_numeral (n : ℕ) : ∀ byte ∈ utf8 (toString n), ¬ Byte.EndsLine byte := by
  rintro byte hmem (rfl | rfl)
  · exact absurd (isAsciiDigit_of_mem hmem) (by decide)
  · exact absurd (isAsciiDigit_of_mem hmem) (by decide)

/-- A text whose characters are no line feed and no carriage return. -/
lemma not_endsLine_utf8 {value : String}
    (h : ∀ character ∈ value.toList, character ≠ '\n' ∧ character ≠ '\r') :
    ∀ byte ∈ utf8 value, ¬ Byte.EndsLine byte := by
  intro byte hmem hends
  have hvalue := hends.toNat_eq
  obtain ⟨character, hcharacter, heq⟩ := exists_of_mem_utf8 hmem (by omega)
  obtain ⟨hlf, hcr⟩ := h character hcharacter
  rcases hvalue with h10 | h13
  · exact hlf (Char.toNat_inj.mp (by rw [← heq, h10]; rfl))
  · exact hcr (Char.toNat_inj.mp (by rw [← heq, h13]; rfl))

/-- A quoted byte is written with bytes from the space on. -/
lemma printable_of_mem_quoteByte {quoted byte : UInt8} (h : byte ∈ quoteByte quoted) :
    32 ≤ byte.toNat := by
  have hquoted := quoted.toNat_lt
  have hdigit : ∀ digit : UInt8, digit.toNat < 8 → 32 ≤ (Byte.zero + digit).toNat := by
    intro digit hlt
    have hsum : (Byte.zero + digit).toNat = (48 + digit.toNat) % 256 := UInt8.toNat_add ..
    omega
  unfold quoteByte at h
  split at h
  · simp only [List.mem_cons, List.not_mem_nil, or_self, or_false] at h
    subst h; decide
  -- the four escapes of one character
  iterate 4
    split at h
    · simp only [List.mem_cons, List.not_mem_nil, or_false] at h
      rcases h with rfl | rfl <;> decide
  split at h
  · rename_i hplain
    obtain rfl := List.mem_singleton.mp h
    simp only [Bool.and_eq_true, decide_eq_true_eq, UInt8.le_iff_toNat_le] at hplain
    exact hplain.1
  · simp only [List.mem_cons, List.not_mem_nil, or_false] at h
    rcases h with rfl | rfl | rfl | rfl
    · decide
    · refine hdigit _ ?_
      rw [UInt8.toNat_div]
      change quoted.toNat / 64 < 8
      omega
    · refine hdigit _ ?_
      rw [UInt8.toNat_mod]
      exact Nat.mod_lt _ (by decide)
    · refine hdigit _ ?_
      rw [UInt8.toNat_mod]
      exact Nat.mod_lt _ (by decide)

/-- Nothing in a quoted string ends a line. -/
lemma not_endsLine_quoteCString (v : Bytes) :
    ∀ byte ∈ quoteCString v, ¬ Byte.EndsLine byte := by
  intro byte hmem hends
  have hvalue := hends.toNat_eq
  have hprintable : 32 ≤ byte.toNat := by
    simp only [quoteCString, List.mem_append, List.mem_singleton, List.mem_flatMap] at hmem
    rcases hmem with (rfl | ⟨quoted, -, hquoted⟩) | rfl
    · decide
    · exact printable_of_mem_quoteByte hquoted
    · decide
  omega

/-- A name starts with the dash. -/
lemma exists_dash_of_isMiName {name : String} (h : isMiName name = true) :
    ∃ rest, utf8 name = Byte.dash :: rest := by
  unfold isMiName at h
  split at h
  · rename_i rest hname
    exact ⟨rest.flatMap String.utf8EncodeChar, by rw [utf8, hname, List.flatMap_cons]; rfl⟩
  · cases h

lemma isMiName_ne {name : String} (h : isMiName name = true) :
    ∀ character ∈ name.toList, character ≠ '\n' ∧ character ≠ '\r' := by
  unfold isMiName at h
  split at h
  · rename_i rest hname
    intro character hmem
    rw [hname] at hmem
    rcases List.mem_cons.mp hmem with rfl | hmem
    · decide
    · rw [Bool.and_eq_true, List.all_eq_true] at h
      have hallowed := h.2 character hmem
      constructor
      · rintro rfl
        exact absurd hallowed (by decide)
      · rintro rfl
        exact absurd hallowed (by decide)
  · cases h

namespace MiCommand

/-- What the three functions guarantee of the commands they build. -/
structure Clean (command : MiCommand) : Prop where
  name : isMiName command.name = true
  bare : ∀ value, .bare value ∈ command.arguments →
    ∀ character ∈ value.toList, isAsciiSpace character = false

lemma Built.clean {command : MiCommand} (h : command.Built) : command.Clean := by
  induction h with
  | new created =>
    unfold MiCommand.new at created
    split at created
    · rename_i hname
      obtain rfl := Except.ok.inj created
      exact ⟨hname, fun _ hmem => absurd hmem List.not_mem_nil⟩
    · cases created
  | @bare command next value _ accepted ih =>
    unfold MiCommand.bare at accepted
    split at accepted
    · cases accepted
    · rename_i hvalue
      obtain rfl := Except.ok.inj accepted
      refine ⟨ih.name, fun other hmem character hcharacter => ?_⟩
      rcases List.mem_append.mp hmem with hold | hnew
      · exact ih.bare other hold character hcharacter
      · obtain rfl : other = value := by simpa using hnew
        rw [Bool.or_eq_true, not_or, Bool.not_eq_true, Bool.not_eq_true, List.any_eq_false]
          at hvalue
        simpa using hvalue.2 character hcharacter
  | @string command _ value ih =>
    refine ⟨ih.name, fun other hmem => ?_⟩
    rcases List.mem_append.mp hmem with hold | hnew
    · exact ih.bare other hold
    · simp at hnew

variable {command : MiCommand}

/-- Nothing in a line ends it. -/
lemma Clean.not_endsLine (h : command.Clean) (token : ℕ) :
    ∀ byte ∈ command.line token, ¬ Byte.EndsLine byte := by
  intro byte hmem
  simp only [line, List.mem_append, List.mem_flatMap, List.mem_cons] at hmem
  rcases hmem with (htoken | hname) | ⟨argument, hargument, rfl | hbyte⟩
  · exact not_endsLine_numeral token byte htoken
  · exact not_endsLine_utf8 (isMiName_ne h.name) byte hname
  · rintro (hlf | hcr)
    · exact absurd hlf (by decide)
    · exact absurd hcr (by decide)
  · cases argument with
    | bare value =>
      refine not_endsLine_utf8 (fun character hcharacter => ?_) byte hbyte
      have hspace := h.bare value hargument character hcharacter
      constructor
      · rintro rfl
        exact absurd hspace (by decide)
      · rintro rfl
        exact absurd hspace (by decide)
    | string value => exact not_endsLine_quoteCString value byte hbyte

/-- The digits in front of a line are those of its token. -/
lemma Clean.digits (h : command.Clean) (token : ℕ) :
    (command.line token).takeWhile Byte.isAsciiDigit = utf8 (toString token) := by
  obtain ⟨rest, hrest⟩ := exists_dash_of_isMiName h.name
  rw [line, List.append_assoc, hrest]
  refine takeWhile_append_of_maximal (fun byte hbyte => isAsciiDigit_of_mem hbyte) ?_
  intro byte hhead
  obtain rfl : Byte.dash = byte := by simpa using hhead
  decide

/-- The lines of a stream of commands, and nothing behind them. -/
lemma lines_encoded {commands : List (ℕ × MiCommand)} (h : ∀ p ∈ commands, p.2.Clean) :
    Framing.lines (commands.flatMap fun p => p.2.encoded p.1) =
        commands.map (fun p => p.2.line p.1) ∧
      Framing.tail (commands.flatMap fun p => p.2.encoded p.1) = [] := by
  induction commands with
  | nil => exact ⟨rfl, rfl⟩
  | cons p commands ih =>
    obtain ⟨hlines, htail⟩ := ih fun q hq => h q (List.mem_cons_of_mem _ hq)
    have hlf : Byte.lf ∉ p.2.line p.1 := fun hmem =>
      (h p List.mem_cons_self).not_endsLine p.1 _ hmem (.inl rfl)
    rw [List.flatMap_cons, List.map_cons, encoded_eq, List.append_assoc, List.singleton_append,
      Framing.lines_line hlf, Framing.tail_line hlf, hlines]
    exact ⟨rfl, htail⟩

end MiCommand

/-- However a client chooses names, bare arguments and strings, commands that are built from them
by `MiCommand::new`, `bare` and `string` reach GDB as one line each and in order, with nothing
behind the last one.  A line has no CR, the digits it starts with are those of the token, behind
them stands the name, and behind that a space or nothing.  Each string argument stands in the line
behind a space as a C string that decodes to its bytes, and is read back by the parser. -/
theorem commands_one_line_each (commands : List (ℕ × MiCommand))
    (hbuilt : ∀ p ∈ commands, p.2.Built) :
    Framing.lines (commands.flatMap fun p => p.2.encoded p.1) =
        commands.map (fun p => p.2.line p.1) ∧
      Framing.tail (commands.flatMap fun p => p.2.encoded p.1) = [] ∧
      ∀ p ∈ commands,
        Byte.cr ∉ p.2.line p.1 ∧
          (p.2.line p.1).takeWhile Byte.isAsciiDigit = utf8 (toString p.1) ∧
          (∃ rest, p.2.line p.1 = utf8 (toString p.1) ++ utf8 p.2.name ++ rest ∧
            (rest = [] ∨ rest.head? = some 32)) ∧
          ∀ earlier bytes later, p.2.arguments = earlier ++ .string bytes :: later →
            ∃ w, p.2.line p.1 = utf8 (toString p.1) ++ utf8 p.2.name ++
                earlier.flatMap (fun argument => 32 :: argument.encoded) ++ 32 :: w ++
                  later.flatMap (fun argument => 32 :: argument.encoded) ∧
              CString w bytes ∧
              ∀ limits, bytes.length ≤ limits.maxDecodedStringBytes →
                Parser.Consumes (cString limits) w bytes := by
  obtain ⟨hlines, htail⟩ := MiCommand.lines_encoded fun p hp => (hbuilt p hp).clean
  refine ⟨hlines, htail, fun p hp => ?_⟩
  have hclean := (hbuilt p hp).clean
  refine ⟨?_, hclean.digits p.1, ⟨_, rfl, ?_⟩, ?_⟩
  · exact fun hmem => hclean.not_endsLine p.1 _ hmem (.inr rfl)
  · cases p.2.arguments with
    | nil => exact .inl rfl
    | cons argument arguments => exact .inr rfl
  · intro earlier bytes later harguments
    refine ⟨quoteCString bytes, ?_, cString_quoted bytes, fun limits hlimit =>
      consumes_cString (cString_quoted bytes) hlimit⟩
    rw [MiCommand.line, harguments]
    simp [MiArgument.encoded]

/-- An expression with a line feed and a second command in it, between two other commands. -/
def smuggling : List (ℕ × MiCommand) :=
  [(7, ⟨"-exec-continue", []⟩),
    (12, ⟨"-data-evaluate-expression", [.bare "--thread", .string (utf8 "x\n99-exec-run\r\n")]⟩),
    (13, ⟨"-gdb-exit", []⟩)]

lemma smuggling_built : ∀ p ∈ smuggling, p.2.Built := by
  intro p hp
  simp only [smuggling, List.mem_cons, List.not_mem_nil, or_false] at hp
  rcases hp with rfl | rfl | rfl
  · exact @MiCommand.Built.new "-exec-continue" _ rfl
  · have hcommand := @MiCommand.Built.new "-data-evaluate-expression" _ rfl
    exact (@MiCommand.Built.bare _ _ "--thread" hcommand rfl).string (utf8 "x\n99-exec-run\r\n")
  · exact @MiCommand.Built.new "-gdb-exit" _ rfl

/-- They are three lines. -/
theorem smuggling_three_lines :
    (Framing.lines (smuggling.flatMap fun p => p.2.encoded p.1)).length = 3 ∧
      ∀ line ∈ Framing.lines (smuggling.flatMap fun p => p.2.encoded p.1), Byte.cr ∉ line := by
  obtain ⟨hlines, -, hparts⟩ := commands_one_line_each smuggling smuggling_built
  rw [hlines]
  refine ⟨rfl, fun line hline => ?_⟩
  obtain ⟨p, hp, rfl⟩ := List.mem_map.mp hline
  exact (hparts p hp).1

end GdbAi
