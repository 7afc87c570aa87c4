import Mathlib.Algebra.Group.Nat.Defs
import Mathlib.Data.List.Basic
import Mathlib.Tactic.Common

/-!
# MI records

The machine-interface records of `gdb-ai-mi`: the values a GDB record carries, the records
themselves, and the accessors the session layer reads them with.
-/

namespace GdbAi

/-- A byte string: `Vec<u8>` and `&[u8]` of the source. -/
abbrev Bytes := List UInt8

/-- An MI value: a C string, a tuple of named results, or a list of values or results.  A
named result is the pair of its name and its value. -/
inductive MiValue where
  | const (bytes : Bytes)
  | tuple (results : List (String × MiValue))
  | valueList (values : List MiValue)
  | resultList (results : List (String × MiValue))

/-- A named result `name=value`. -/
abbrev MiResult := String × MiValue

/-- One MI record. -/
inductive MiRecord where
  | result (token : Option ℕ) (cls : String) (results : List MiResult)
  | execAsync (token : Option ℕ) (cls : String) (results : List MiResult)
  | statusAsync (token : Option ℕ) (cls : String) (results : List MiResult)
  | notifyAsync (token : Option ℕ) (cls : String) (results : List MiResult)
  | consoleStream (bytes : Bytes)
  | targetStream (bytes : Bytes)
  | logStream (bytes : Bytes)
  | prompt

namespace MiValue

/-- The bytes of a C string. -/
def asBytes : MiValue → Option Bytes
  | .const value => some value
  | _ => none

/-- The text of a C string, when its bytes are UTF-8. -/
def asStr (value : MiValue) : Option String := do
  let bytes ← value.asBytes
  String.fromUTF8? ⟨bytes.toArray⟩

/-- The named results of a tuple or of a result list. -/
def results : MiValue → Option (List MiResult)
  | .tuple results | .resultList results => some results
  | _ => none

end MiValue

namespace MiResult

/-- The value of the first result of that name. -/
def find (results : List MiResult) (name : String) : Option MiValue :=
  (results.find? fun result => result.1 = name).map Prod.snd

/-- The text of the first result of that name. -/
def findStr (results : List MiResult) (name : String) : Option String := do
  let value ← find results name
  value.asStr

end MiResult

namespace MiRecord

/-- The results of a result or asynchronous record. -/
def results : MiRecord → List MiResult
  | .result _ _ results | .execAsync _ _ results | .statusAsync _ _ results
  | .notifyAsync _ _ results => results
  | _ => []

end MiRecord

/-- The limits `MiLimits` under which untrusted records are framed and parsed. -/
structure MiLimits where
  maxRecordBytes : ℕ
  maxDepth : ℕ
  maxDecodedStringBytes : ℕ
  deriving DecidableEq, Repr

/-- `MiLimits::default`. -/
def MiLimits.default : MiLimits where
  maxRecordBytes := 8 * 1024 * 1024
  maxDepth := 128
  maxDecodedStringBytes := 8 * 1024 * 1024

/-- The errors of the framer and of the parser. -/
inductive MiError where
  | empty
  | unexpected (offset : ℕ) (expected : String) (found : Option UInt8)
  | invalidToken (offset : ℕ)
  | limit (kind : String) (limit : ℕ)
  deriving DecidableEq, Repr

/-! ### ASCII bytes -/

namespace Byte

abbrev lf : UInt8 := 10
abbrev cr : UInt8 := 13
abbrev quote : UInt8 := 34
abbrev ampersand : UInt8 := 38
abbrev apostrophe : UInt8 := 39
abbrev star : UInt8 := 42
abbrev plus : UInt8 := 43
abbrev comma : UInt8 := 44
abbrev dash : UInt8 := 45
abbrev zero : UInt8 := 48
abbrev equals : UInt8 := 61
abbrev at_ : UInt8 := 64
abbrev openBracket : UInt8 := 91
abbrev backslash : UInt8 := 92
abbrev closeBracket : UInt8 := 93
abbrev caret : UInt8 := 94
abbrev underscore : UInt8 := 95
abbrev openBrace : UInt8 := 123
abbrev closeBrace : UInt8 := 125
abbrev tilde : UInt8 := 126

/-- `u8::is_ascii_digit`. -/
def isAsciiDigit (byte : UInt8) : Bool := 48 ≤ byte && byte ≤ 57

/-- `u8::is_ascii_alphanumeric`. -/
def isAsciiAlphanumeric (byte : UInt8) : Bool :=
  isAsciiDigit byte || (65 ≤ byte && byte ≤ 90) || (97 ≤ byte && byte ≤ 122)

/-- `u8::is_ascii_whitespace`: space, tab, LF, form feed and CR. -/
def isAsciiWhitespace (byte : UInt8) : Bool :=
  byte = 32 || byte = 9 || byte = 10 || byte = 12 || byte = 13

/-- The text of ASCII bytes. -/
def asciiText (bytes : Bytes) : String := String.ofList (bytes.map Char.ofUInt8)

end Byte

end GdbAi
