import GdbAi.Mi.Correctness
import GdbAi.Mi.Encoder

/-!
# Quoted strings are read back

`quote_c_string` writes a byte as itself, as an escape of one character, or as three octal digits.
None of these takes part of what follows it: a plain byte is no escape, an escaped character is
one byte, and an octal escape of three digits is full.  So the quoted text of a byte sequence is a
C string of the grammar that decodes to the sequence, whatever the bytes are, and the parser reads
it back wherever it expects a C string.
-/

namespace GdbAi

open Parsing MiParser Grammar

/-! ### One byte -/

/-- A digit of an octal escape stands for its value. -/
lemma octalValue_digit (digit : UInt8) : octalValue (Byte.zero + digit) = digit.toNat := by
  have hcancel : Byte.zero + digit - 48 = digit := by
    rw [UInt8.add_comm, UInt8.add_sub_cancel]
  rw [octalValue, hcancel]

/-- A value below eight is written as an octal digit. -/
lemma isOctalDigit_digit {digit : UInt8} (h : digit.toNat < 8) :
    isOctalDigit (Byte.zero + digit) = true := by
  have hvalue : (Byte.zero + digit).toNat = 48 + digit.toNat := by
    rw [UInt8.toNat_add]
    change (48 + digit.toNat) % 256 = 48 + digit.toNat
    omega
  rw [isOctalDigit, Bool.and_eq_true, decide_eq_true_eq, decide_eq_true_eq,
    UInt8.le_iff_toNat_le, UInt8.le_iff_toNat_le, hvalue]
  change 48 ≤ 48 + digit.toNat ∧ 48 + digit.toNat ≤ 55
  omega

/-- Three octal digits stand for their byte, whatever follows them. -/
lemma escape_octal (byte : UInt8) (t : Bytes) :
    Escape [Byte.zero + byte / 64, Byte.zero + byte / 8 % 8, Byte.zero + byte % 8] byte t := by
  have hhigh : (byte / 64).toNat = byte.toNat / 64 := UInt8.toNat_div ..
  have hmiddle : (byte / 8 % 8).toNat = byte.toNat / 8 % 8 := by
    rw [UInt8.toNat_mod, UInt8.toNat_div]
    rfl
  have hlow : (byte % 8).toNat = byte.toNat % 8 := UInt8.toNat_mod ..
  have hbyte := byte.toNat_lt
  have hvalue : radixValue 8
      ([Byte.zero + byte / 64, Byte.zero + byte / 8 % 8, Byte.zero + byte % 8].map octalValue) =
        byte.toNat := by
    simp only [List.map_cons, List.map_nil, octalValue_digit, radixValue, List.foldl_cons,
      List.foldl_nil, hhigh, hmiddle, hlow]
    omega
  have hescape := @Escape.octal
    [Byte.zero + byte / 64, Byte.zero + byte / 8 % 8, Byte.zero + byte % 8] t
    (by simp) (by simp) ?_ (.inl rfl)
  · rwa [hvalue, UInt8.ofNat_toNat] at hescape
  · intro digit hdigit
    simp only [List.mem_cons, List.not_mem_nil, or_false] at hdigit
    rcases hdigit with rfl | rfl | rfl
    · exact isOctalDigit_digit (by rw [hhigh]; omega)
    · exact isOctalDigit_digit (by rw [hmiddle]; omega)
    · exact isOctalDigit_digit (by rw [hlow]; omega)

/-- A quoted byte is the byte itself, if it is not special, or an escape for it that does not
depend on what follows. -/
lemma quoteByte_cases (byte : UInt8) :
    (quoteByte byte = [byte] ∧ isSpecial byte = false) ∨
      ∃ e, quoteByte byte = Byte.backslash :: e ∧ ∀ t, Escape e byte t := by
  unfold quoteByte
  split
  · rename_i h; subst h
    exact .inr ⟨_, rfl, fun t => .simple (by decide) (by decide)⟩
  split
  · rename_i h; subst h
    exact .inr ⟨_, rfl, fun t => .simple (by decide) (by decide)⟩
  split
  · rename_i h; subst h
    exact .inr ⟨_, rfl, fun t => @Escape.simple 110 t (by decide) (by decide)⟩
  split
  · rename_i h; subst h
    exact .inr ⟨_, rfl, fun t => @Escape.simple 114 t (by decide) (by decide)⟩
  split
  · rename_i h; subst h
    exact .inr ⟨_, rfl, fun t => @Escape.simple 116 t (by decide) (by decide)⟩
  split
  · rename_i hbackslash hquote hlf hcr _ _
    exact .inl ⟨rfl, by simp [isSpecial, hbackslash, hquote, hlf, hcr]⟩
  · exact .inr ⟨_, rfl, escape_octal byte⟩

/-! ### Whole strings -/

/-- Quoted bytes and the closing quote are the text of a C string that decodes to the bytes. -/
lemma chars_quoted (v : Bytes) : Chars (v.flatMap quoteByte ++ [Byte.quote]) v := by
  induction v with
  | nil => exact .close
  | cons byte v ih =>
    rw [List.flatMap_cons, List.append_assoc]
    rcases quoteByte_cases byte with ⟨hplain, hspecial⟩ | ⟨e, hescape, he⟩
    · rw [hplain]
      exact .plain hspecial ih
    · rw [hescape]
      exact .escape (he _) ih

/-- A quoted string is a C string that decodes to the bytes it was made of. -/
lemma cString_quoted (v : Bytes) : CString (quoteCString v) v :=
  ⟨v.flatMap quoteByte ++ [Byte.quote], rfl, chars_quoted v⟩

/-- Every byte sequence that the limit on decoded strings allows is read back from its quoted
form.  Where a C string is expected, exactly the quoted text is consumed, at any offset and
whatever follows.  Hence a stream record that carries it, if it is short enough for a record,
parses to that stream with these bytes, and at every depth a result `name="..."` parses to the
constant, again whatever follows. -/
theorem quoteCString_reads_back (v : Bytes) (limits : MiLimits)
    (hdecoded : v.length ≤ limits.maxDecodedStringBytes) :
    Parser.Consumes (cString limits) (quoteCString v) v ∧
      (∀ kind make, Grammar.Stream kind make →
        (kind :: quoteCString v).length ≤ limits.maxRecordBytes →
          parseRecord (kind :: quoteCString v) limits = .ok (make v)) ∧
      ∀ n name depth, Name n name → depth ≤ limits.maxDepth →
        Parser.Consumes (result limits (value limits (limits.maxDepth + 1 - depth)) depth)
          (n ++ Byte.equals :: quoteCString v) (name, .const v) := by
  have hstring := cString_quoted v
  refine ⟨consumes_cString hstring hdecoded, ?_, ?_⟩
  · intro kind make hstream hlength
    have hbody : BodyAt limits none kind (quoteCString v) (make v) :=
      .stream rfl hstream hstring hdecoded
    exact parseRecord_of_body .none (by simp [TokenWithin]) hbody hlength
  · intro n name depth hname hdepth
    have hresult : ResultAt limits depth (n ++ Byte.equals :: quoteCString v) (name, .const v) :=
      ⟨.named hname (.const hstring), hdecoded⟩
    refine consumes_result (fun w value hvalue => ?_) hresult
    exact consumes_value hvalue hdepth (by omega)

/-- A string with every kind of escape, read back from the console, from a result of a record and
from inside two containers. -/
theorem quoteCString_reads_back_escapes :
    parseRecord (Byte.tilde :: quoteCString [0, 9, 10, 13, 34, 55, 92, 97, 127, 255]) .default =
        .ok (.consoleStream [0, 9, 10, 13, 34, 55, 92, 97, 127, 255]) ∧
      Parser.Consumes (topResult .default)
        ([109, 115, 103] ++ Byte.equals :: quoteCString [0, 55, 255]) ("msg", .const [0, 55, 255]) ∧
      Parser.Consumes (result .default (value .default 127) 2)
        ([109, 115, 103] ++ Byte.equals :: quoteCString [0, 55, 255])
        ("msg", .const [0, 55, 255]) := by
  have hname : Name [109, 115, 103] "msg" := ⟨by simp, by decide +kernel, by decide +kernel⟩
  refine ⟨?_, ?_, ?_⟩
  · exact (quoteCString_reads_back [0, 9, 10, 13, 34, 55, 92, 97, 127, 255] .default
      (by decide)).2.1 _ _ .console (by decide)
  · exact (quoteCString_reads_back [0, 55, 255] .default (by decide)).2.2 _ _ 0 hname (by decide)
  · exact (quoteCString_reads_back [0, 55, 255] .default (by decide)).2.2 _ _ 2 hname (by decide)

end GdbAi
