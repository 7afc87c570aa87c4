import GdbAi.Mi.Parser

/-!
# The grammar of MI records

The grammar the parser accepts, stated without a parser.  A C string is derived character by
character together with the text behind it, because a hexadecimal escape takes every
hexadecimal digit that follows and an octal one up to three; containers are derived from the
words of their elements, joined by commas.  The limits are not part of the grammar:
`MiRecord.Within` states them on the record that is derived.
-/

namespace GdbAi

open Parsing MiParser

namespace Grammar

/-- The value of digits in a radix. -/
def radixValue (radix : ℕ) (digits : List ℕ) : ℕ :=
  digits.foldl (fun value digit => value * radix + digit) 0

/-- The numeric value of a hexadecimal digit. -/
def hexValue (byte : UInt8) : ℕ := ((hexDigit byte).getD 0).toNat

/-- The numeric value of an octal digit. -/
def octalValue (byte : UInt8) : ℕ := (byte - 48).toNat

/-- `Escape e b t`: behind a backslash and before the text `t`, the bytes `e` stand for `b`. -/
inductive Escape : Bytes → UInt8 → Bytes → Prop
  | hex {digits : Bytes} {t : Bytes} (nonempty : digits ≠ [])
      (hexadecimal : ∀ byte ∈ digits, (hexDigit byte).isSome)
      (maximal : ∀ byte, t.head? = some byte → hexDigit byte = none) :
      Escape (120 :: digits) (UInt8.ofNat (radixValue 16 (digits.map hexValue))) t
  | octal {digits : Bytes} {t : Bytes} (nonempty : digits ≠ []) (short : digits.length ≤ 3)
      (octal : ∀ byte ∈ digits, isOctalDigit byte)
      (maximal : digits.length = 3 ∨ ∀ byte, t.head? = some byte → isOctalDigit byte = false) :
      Escape digits (UInt8.ofNat (radixValue 8 (digits.map octalValue))) t
  | simple {byte : UInt8} {t : Bytes} (notHex : byte ≠ 120) (notOctal : isOctalDigit byte = false) :
      Escape [byte] (simpleEscape byte) t

/-- The text of a C string behind its opening quote, and what it decodes to. -/
inductive Chars : Bytes → Bytes → Prop
  | close : Chars [Byte.quote] []
  | plain {byte : UInt8} {t decoded : Bytes} (plain : isSpecial byte = false)
      (tail : Chars t decoded) : Chars (byte :: t) (byte :: decoded)
  | escape {e t decoded : Bytes} {byte : UInt8} (escape : Escape e byte t)
      (tail : Chars t decoded) : Chars (Byte.backslash :: (e ++ t)) (byte :: decoded)

/-- A quoted C string and what it decodes to. -/
def CString (w decoded : Bytes) : Prop := ∃ t, w = Byte.quote :: t ∧ Chars t decoded

/-- A class or result name and its text. -/
def Name (w : Bytes) (name : String) : Prop :=
  w ≠ [] ∧ (∀ byte ∈ w, identifierByte byte) ∧ name = Byte.asciiText w

/-- The words of a list joined by commas. -/
def commas (ws : List Bytes) : Bytes := [Byte.comma].intercalate ws

mutual

/-- A value. -/
inductive Value : Bytes → MiValue → Prop
  | const {w bytes : Bytes} (string : CString w bytes) : Value w (.const bytes)
  | tuple {ws : List Bytes} {results : List MiResult} (elements : List.Forall₂ Result ws results) :
      Value (Byte.openBrace :: (commas ws ++ [Byte.closeBrace])) (.tuple results)
  | valueList {ws : List Bytes} {values : List MiValue} (elements : List.Forall₂ Value ws values) :
      Value (Byte.openBracket :: (commas ws ++ [Byte.closeBracket])) (.valueList values)
  | resultList {ws : List Bytes} {results : List MiResult} (nonempty : results ≠ [])
      (elements : List.Forall₂ Result ws results) :
      Value (Byte.openBracket :: (commas ws ++ [Byte.closeBracket])) (.resultList results)

/-- A named result.  Behind the name `script` a tuple of C strings stands for their list. -/
inductive Result : Bytes → MiResult → Prop
  | named {n w : Bytes} {name : String} {value : MiValue} (isName : Name n name)
      (isValue : Value w value) : Result (n ++ Byte.equals :: w) (name, value)
  | script {n : Bytes} {ws : List Bytes} {strings : List Bytes} (isName : Name n "script")
      (nonempty : strings ≠ []) (elements : List.Forall₂ CString ws strings) :
      Result (n ++ Byte.equals :: Byte.openBrace :: (commas ws ++ [Byte.closeBrace]))
        ("script", .valueList (strings.map .const))

end

/-- The prefix bytes of the records that carry a class and results. -/
inductive Kind : UInt8 → (Option ℕ → String → List MiResult → MiRecord) → Prop
  | result : Kind Byte.caret .result
  | execAsync : Kind Byte.star .execAsync
  | statusAsync : Kind Byte.plus .statusAsync
  | notifyAsync : Kind Byte.equals .notifyAsync

/-- The prefix bytes of the stream records. -/
inductive Stream : UInt8 → (Bytes → MiRecord) → Prop
  | console : Stream Byte.tilde .consoleStream
  | target : Stream Byte.at_ .targetStream
  | log : Stream Byte.ampersand .logStream

/-- An optional decimal token. -/
inductive Token : Bytes → Option ℕ → Prop
  | none : Token [] none
  | digits {w : Bytes} (nonempty : w ≠ []) (decimal : ∀ byte ∈ w, Byte.isAsciiDigit byte) :
      Token w (some (radixValue 10 (w.map fun byte => byte.toNat - 48)))

/-- A class with the results behind it, each led by a comma. -/
def ClassResults (w : Bytes) (cls : String) (results : List MiResult) : Prop :=
  ∃ n ws, Name n cls ∧ List.Forall₂ Result ws results ∧
    w = n ++ (ws.map (Byte.comma :: ·)).flatten

/-- `record ::= (gdb) | [digits] kind class (',' result)* | stream cstring`, where the prompt
may stand between ASCII whitespace. -/
inductive Record : Bytes → MiRecord → Prop
  | prompt {before after : Bytes} (blankBefore : ∀ byte ∈ before, Byte.isAsciiWhitespace byte)
      (blankAfter : ∀ byte ∈ after, Byte.isAsciiWhitespace byte) :
      Record (before ++ promptText ++ after) .prompt
  | results {t w : Bytes} {token : Option ℕ} {kind : UInt8} {cls : String}
      {results : List MiResult} {make : Option ℕ → String → List MiResult → MiRecord}
      (isToken : Token t token) (isKind : Kind kind make) (body : ClassResults w cls results) :
      Record (t ++ kind :: w) (make token cls results)
  | stream {w bytes : Bytes} {kind : UInt8} {make : Bytes → MiRecord}
      (isStream : Stream kind make) (string : CString w bytes) : Record (kind :: w) (make bytes)

end Grammar

/-! ### The limits of a record -/

mutual

/-- Below `depth` enclosing containers, every container of the value is nested fewer than
`maxDepth` levels deep and every string decodes to at most `maxDecodedStringBytes`. -/
def MiValue.Within (limits : MiLimits) : ℕ → MiValue → Prop
  | _, .const bytes => bytes.length ≤ limits.maxDecodedStringBytes
  | depth, .tuple results => depth < limits.maxDepth ∧ resultsWithin limits (depth + 1) results
  | depth, .valueList values => depth < limits.maxDepth ∧ valuesWithin limits (depth + 1) values
  | depth, .resultList results =>
    depth < limits.maxDepth ∧ resultsWithin limits (depth + 1) results

/-- `MiValue.Within` for every value of a list. -/
def valuesWithin (limits : MiLimits) : ℕ → List MiValue → Prop
  | _, [] => True
  | depth, value :: values => value.Within limits depth ∧ valuesWithin limits depth values

/-- `MiValue.Within` for every named result of a list. -/
def resultsWithin (limits : MiLimits) : ℕ → List (String × MiValue) → Prop
  | _, [] => True
  | depth, (_, value) :: results => value.Within limits depth ∧ resultsWithin limits depth results

end

/-- The limits on a parsed record: the token fits in a `u64`, and its values and strings keep
to the depth and the decoded size. -/
def MiRecord.Within (limits : MiLimits) : MiRecord → Prop
  | .result token _ results | .execAsync token _ results | .statusAsync token _ results
  | .notifyAsync token _ results =>
    (∀ n, token = some n → n < 2 ^ 64) ∧ resultsWithin limits 0 results
  | .consoleStream bytes | .targetStream bytes | .logStream bytes =>
    bytes.length ≤ limits.maxDecodedStringBytes
  | .prompt => True

end GdbAi
