import GdbAi.Library.ShellWords
import GdbAi.Session.Commands

/-!
# Arguments of a program that is launched

`validate_argv` and the command that sets the arguments in `target_launch`, both in
`gdb-ai-core/src/gateway/operations/lifecycle.rs`.  GDB starts the program through a shell, so the
arguments pass two quotations: single quotes for the shell, and a C string for the line of the
command.
-/

namespace GdbAi

open Parsing MiParser Grammar

/-- `validate_argv`. -/
def validateArgv (arguments : List String) : Except Error Unit :=
  if arguments.length > 256 ∨ arguments.any fun argument =>
      byteLength argument.toList > 64 * 1024 || argument.toList.contains (Char.ofNat 0) then
    .error ⟨.outputLimit, "argv exceeds 256 entries or 64 KiB per argument", false⟩
  else .ok ()

/-- An argument in which every single quote leaves the quotation. -/
def replaceQuotes (argument : String) : String :=
  String.ofList (argument.toList.flatMap fun character =>
    if character = '\'' then "'\\''".toList else [character])

/-- The console command that sets the arguments. -/
def setArgs (argv : List String) : String :=
  argv.foldl (fun arguments argument => arguments ++ " '" ++ replaceQuotes argument ++ "'")
    "set args"

/-- The MI command that carries it. -/
def setArgsCommand (argv : List String) : Except Error MiCommand := do
  let command ← MiCommand.new "-interpreter-exec"
  let command ← command.bare "console"
  return command.string (utf8 (setArgs argv))

/-! ### The text for the shell -/

lemma utf8_append (left right : String) : utf8 (left ++ right) = utf8 left ++ utf8 right := by
  rw [utf8, String.toList_append, List.flatMap_append]
  rfl

/-- The bytes of a character other than the quote are no quotes. -/
lemma quoteByte_utf8EncodeChar {character : Char} (h : character ≠ '\'') :
    (String.utf8EncodeChar character).flatMap ShellWords.quoteByte =
      String.utf8EncodeChar character := by
  have hplain : ∀ byte ∈ String.utf8EncodeChar character, ShellWords.quoteByte byte = [byte] := by
    intro byte hbyte
    refine if_neg ?_
    rintro rfl
    rcases toNat_of_mem_utf8EncodeChar hbyte with heq | hlarge
    · exact h (Char.toNat_inj.mp heq.symm)
    · exact absurd hlarge (by decide)
  rw [List.flatMap_congr hplain, List.flatMap_singleton']

lemma utf8_replaceQuotes (argument : String) :
    utf8 (replaceQuotes argument) = (utf8 argument).flatMap ShellWords.quoteByte := by
  rw [utf8, utf8, replaceQuotes, String.toList_ofList, List.flatMap_assoc, List.flatMap_assoc]
  refine List.flatMap_congr fun character _ => ?_
  split
  · rename_i hquote
    rw [hquote]
    decide +kernel
  · rename_i hquote
    rw [quoteByte_utf8EncodeChar hquote, List.flatMap_singleton]

/-- Behind `set args` stands each argument in single quotes. -/
lemma utf8_setArgs (argv : List String) :
    utf8 (setArgs argv) =
      utf8 "set args" ++ (argv.map utf8).flatMap fun word => 32 :: ShellWords.quote word := by
  have hopen : utf8 " '" = [32, 39] := by decide +kernel
  have hclose : utf8 "'" = [39] := by decide +kernel
  -- the text grows at its end, so the induction is over any text that stands before
  have hfold : ∀ before : String, utf8 (argv.foldl (fun arguments argument =>
      arguments ++ " '" ++ replaceQuotes argument ++ "'") before) =
        utf8 before ++ (argv.map utf8).flatMap fun word => 32 :: ShellWords.quote word := by
    induction argv with
    | nil => intro before; simp
    | cons argument argv ih =>
      intro before
      rw [List.foldl_cons, ih, utf8_append, utf8_append, utf8_append, hopen, hclose,
        utf8_replaceQuotes, List.map_cons, List.flatMap_cons, ShellWords.quote]
      simp
  exact hfold "set args"

/-- An accepted argument has no NUL. -/
lemma zero_notMem_of_validateArgv {argv : List String} (h : validateArgv argv = .ok ()) :
    ∀ word ∈ argv.map utf8, 0 ∉ word := by
  intro word hword hzero
  obtain ⟨argument, hargument, rfl⟩ := List.mem_map.mp hword
  obtain ⟨character, hcharacter, hvalue⟩ := exists_of_mem_utf8 hzero (by decide)
  have hnul : character = Char.ofNat 0 := Char.toNat_inj.mp hvalue.symm
  unfold validateArgv at h
  split at h
  · cases h
  · rename_i hlimits
    refine hlimits (.inr (List.any_eq_true.mpr ⟨argument, hargument, ?_⟩))
    rw [Bool.or_eq_true, List.contains_iff_mem, ← hnul]
    exact .inr hcharacter

/-! ### The line for GDB -/

/-- A C string decodes to one text. -/
lemma Grammar.CString.unique {w d d' : Bytes} (h : CString w d) (h' : CString w d') : d = d' := by
  have hle : d.length ≤ { MiLimits.default with
      maxDecodedStringBytes := max d.length d'.length }.maxDecodedStringBytes := le_max_left _ _
  have hread := consumes_cString h hle 0 []
  rw [consumes_cString h' (le_max_right d.length d'.length) 0 []] at hread
  exact (Prod.mk.inj (Except.ok.inj hread)).1.symm

/-- The command is accepted, with the text as its C string. -/
lemma setArgsCommand_eq (argv : List String) : setArgsCommand argv =
    .ok ⟨"-interpreter-exec", [.bare "console", .string (utf8 (setArgs argv))]⟩ := rfl

lemma setArgsCommand_clean (argv : List String) : MiCommand.Clean
    ⟨"-interpreter-exec", [.bare "console", .string (utf8 (setArgs argv))]⟩ := by
  have hname := @MiCommand.Built.new "-interpreter-exec" _ rfl
  have hconsole := @MiCommand.Built.bare _ _ "console" hname rfl
  exact (hconsole.string (utf8 (setArgs argv))).clean

/-- For every accepted list of arguments, the command `set args` is built.  A shell splits what
stands behind `set args` into the arguments, byte for byte, with nothing in it that it would expand.
Under every token the command is one line, and the C string in it decodes to the command and to
nothing else. -/
theorem launch_arguments_unchanged {argv : List String} (haccepted : validateArgv argv = .ok ()) :
    ∃ (command : MiCommand) (text : Bytes), setArgsCommand argv = .ok command ∧
      utf8 (setArgs argv) = utf8 "set args" ++ text ∧
      ShellWords.split text = some (argv.map utf8) ∧
      ∀ token, ∃ w,
        command.encoded token =
          utf8 (toString token) ++ utf8 "-interpreter-exec console " ++ w ++ [Byte.lf] ∧
        (∀ byte ∈ utf8 (toString token) ++ utf8 "-interpreter-exec console " ++ w,
          byte ≠ Byte.lf ∧ byte ≠ Byte.cr) ∧
        ∀ decoded, CString w decoded ↔ decoded = utf8 (setArgs argv) := by
  refine ⟨_, _, setArgsCommand_eq argv, utf8_setArgs argv,
    ShellWords.split_quotes (zero_notMem_of_validateArgv haccepted), fun token => ?_⟩
  have hname : utf8 "-interpreter-exec console " =
      utf8 "-interpreter-exec" ++ (32 :: utf8 "console" ++ [32]) := by decide +kernel
  have hline : (⟨"-interpreter-exec", [.bare "console", .string (utf8 (setArgs argv))]⟩ :
      MiCommand).line token = utf8 (toString token) ++ utf8 "-interpreter-exec console " ++
        quoteCString (utf8 (setArgs argv)) := by
    rw [MiCommand.line, hname]
    simp [MiArgument.encoded]
  refine ⟨quoteCString (utf8 (setArgs argv)), ?_, ?_, fun decoded => ?_⟩
  · rw [MiCommand.encoded_eq, hline]
  · intro byte hbyte
    rw [← hline] at hbyte
    have hends := (setArgsCommand_clean argv).not_endsLine token byte hbyte
    exact ⟨fun hlf => hends (.inl hlf), fun hcr => hends (.inr hcr)⟩
  · constructor
    · intro hdecoded
      exact hdecoded.unique (cString_quoted _)
    · rintro rfl
      exact cString_quoted _

/-- An argument that tries to end its quotation and to start a command, an empty one, and one with
a line feed. -/
theorem hostile_arguments_unchanged :
    ∃ text, utf8 (setArgs ["'; touch x #", "", "a\nb"]) = utf8 "set args" ++ text ∧
      ShellWords.split text = some (["'; touch x #", "", "a\nb"].map utf8) := by
  obtain ⟨_, text, -, htext, hsplit, -⟩ :=
    @launch_arguments_unchanged ["'; touch x #", "", "a\nb"] (by decide +kernel)
  exact ⟨text, htext, hsplit⟩

end GdbAi
