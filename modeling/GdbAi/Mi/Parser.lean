import GdbAi.Library.Parsing
import GdbAi.Mi.Ast

/-!
# The MI record parser

The recursive-descent parser of `gdb-ai-mi/src/parser.rs`, function by function.  A `Cursor`
stands for the parser's `input` and `offset`; the limits are passed along.  Errors carry the
offset, the expectation and the byte found, as the source reports them.

The source recurses through `value`, `tuple`, `list` and `result`, and every container first
passes `checkDepth`.  Here the containers take the parser of their elements as an argument
and `value` recurses on the number of levels that are left.
-/

namespace GdbAi

open Parsing

/-- The parsers of this module. -/
abbrev MiParser (α : Type) := Parser UInt8 MiError α

namespace MiParser

/-- `Parser::unexpected`. -/
def unexpected {α : Type} (expected : String) : MiParser α :=
  Parser.fail fun c => .unexpected c.offset expected c.rest.head?

/-- `Parser::peek`. -/
abbrev peek : MiParser (Option UInt8) := Parser.peek

/-- `Parser::take`. -/
def take (expected : String) : MiParser UInt8 := do
  match ← peek with
  | some byte =>
    Parser.advance 1
    pure byte
  | none => unexpected expected

/-- `Parser::expect`. -/
def expect (expected : UInt8) (description : String) : MiParser Unit := do
  if (← peek) = some expected then
    Parser.advance 1
  else
    unexpected description

/-- `Parser::check_depth`. -/
def checkDepth (limits : MiLimits) (depth : ℕ) : MiParser Unit :=
  if depth ≥ limits.maxDepth then
    Parser.fail fun _ => .limit "nesting depth" limits.maxDepth
  else
    pure ()

/-- `hex_digit`. -/
def hexDigit (byte : UInt8) : Option UInt8 :=
  if 48 ≤ byte && byte ≤ 57 then some (byte - 48)
  else if 97 ≤ byte && byte ≤ 102 then some (byte - 97 + 10)
  else if 65 ≤ byte && byte ≤ 70 then some (byte - 65 + 10)
  else none

/-- The digits `b'0'..=b'7'` of an octal escape. -/
def isOctalDigit (byte : UInt8) : Bool := 48 ≤ byte && byte ≤ 55

/-- `identifier_byte`. -/
def identifierByte (byte : UInt8) : Bool :=
  Byte.isAsciiAlphanumeric byte || byte = Byte.dash || byte = Byte.underscore

/-- The bytes `c_string` does not copy as part of a plain span. -/
def isSpecial (byte : UInt8) : Bool :=
  byte = Byte.quote || byte = Byte.backslash || byte = Byte.lf || byte = Byte.cr

/-- The escapes of one character; an unknown escaped character stands for itself. -/
def simpleEscape (escaped : UInt8) : UInt8 :=
  if escaped = 97 then 0x07        -- \a
  else if escaped = 98 then 0x08   -- \b
  else if escaped = 101 then 0x1b  -- \e
  else if escaped = 102 then 0x0c  -- \f
  else if escaped = 110 then 10    -- \n
  else if escaped = 114 then 13    -- \r
  else if escaped = 116 then 9     -- \t
  else if escaped = 118 then 0x0b  -- \v
  else escaped

/-- `Parser::escape`, which appends one decoded byte.  `u8` arithmetic wraps. -/
def escape (decoded : Bytes) : MiParser Bytes := do
  let escaped ← take "C-string escape"
  if escaped = 120 then
    let digits := (← Parser.remaining).takeWhile fun byte => (hexDigit byte).isSome
    if digits.isEmpty then
      unexpected "hexadecimal escape digit"
    else
      Parser.advance digits.length
      pure (decoded ++ [digits.foldl (fun value digit => value * 16 + (hexDigit digit).getD 0) 0])
  else if isOctalDigit escaped then
    let digits := ((← Parser.remaining).takeWhile isOctalDigit).take 2
    Parser.advance digits.length
    pure (decoded ++ [digits.foldl (fun value next => value * 8 + (next - 48)) (escaped - 48)])
  else
    pure (decoded ++ [simpleEscape escaped])

/-- The loop of `Parser::c_string` behind the opening quote.  Each round copies a plain span
and takes one byte, so `fuel` beyond the remaining bytes is never used up. -/
def cStringLoop (limits : MiLimits) : ℕ → Bytes → MiParser Bytes
  | 0, _ => unexpected "closing quote"
  | fuel + 1, decoded => do
    let budget := limits.maxDecodedStringBytes - decoded.length
    let remaining := (← Parser.remaining).take (budget + 1)
    let plain := remaining.takeWhile fun byte => !isSpecial byte
    if plain.length > budget then
      Parser.fail fun _ => .limit "decoded C-string bytes" limits.maxDecodedStringBytes
    else
      Parser.advance plain.length
      let byte ← take "closing quote"
      if byte = Byte.quote then
        pure (decoded ++ plain)
      else if byte = Byte.backslash then
        let decoded ← escape (decoded ++ plain)
        if decoded.length > limits.maxDecodedStringBytes then
          Parser.fail fun _ => .limit "decoded C-string bytes" limits.maxDecodedStringBytes
        else
          cStringLoop limits fuel decoded
      else
        unexpected "escaped newline or closing quote"

/-- `Parser::c_string`. -/
def cString (limits : MiLimits) : MiParser Bytes := do
  expect Byte.quote "opening quote"
  let fuel := (← Parser.remaining).length + 1
  cStringLoop limits fuel []

/-- The scan of an identifier in `class_and_results` and `result`: up to the byte `stop` or
the end of the record, every byte must be an identifier byte. -/
def nameUntil (stop : UInt8) (expected : String) : ℕ → Bytes → Except MiError (Bytes × Cursor UInt8)
  | offset, [] => .ok ([], ⟨offset, []⟩)
  | offset, byte :: bytes =>
    if byte = stop then .ok ([], ⟨offset, byte :: bytes⟩)
    else if identifierByte byte then
      match nameUntil stop expected (offset + 1) bytes with
      | .ok (name, c) => .ok (byte :: name, c)
      | .error e => .error e
    else .error (.unexpected offset expected (some byte))

/-- `nameUntil` at the cursor. -/
def name (stop : UInt8) (expected : String) : MiParser Bytes :=
  fun c => nameUntil stop expected c.offset c.rest

/-- The error of a list that has more elements than the record has bytes, which cannot be. -/
def stuck (c : Cursor UInt8) : MiError := .unexpected c.offset "MI value" c.rest.head?

/-- `loop { push(element()?); if self.peek() != Some(b',') { break } self.offset += 1 }`. -/
def commaSeparated {α : Type} (element : MiParser α) : MiParser (List α) :=
  Parser.sepBy Byte.comma stuck element

/-- `Parser::legacy_script`. -/
def legacyScript (limits : MiLimits) (depth : ℕ) : MiParser MiValue := do
  checkDepth limits depth
  expect Byte.openBrace "\x7b"
  let commands ← commaSeparated (cString limits)
  expect Byte.closeBrace "\x7d"
  pure (.valueList (commands.map .const))

/-- `Parser::result`, over the parser of values at a depth. -/
def result (limits : MiLimits) (value : ℕ → MiParser MiValue) (depth : ℕ) : MiParser MiResult := do
  let bytes ← name Byte.equals "result name followed by ="
  if bytes = [] || (← peek) ≠ some Byte.equals then
    unexpected "result name followed by ="
  else
    Parser.advance 1
    let name := Byte.asciiText bytes
    let remaining ← Parser.remaining
    if name = "script" && [Byte.openBrace, Byte.quote].isPrefixOf remaining then
      let value ← legacyScript limits depth
      pure (name, value)
    else
      let value ← value depth
      pure (name, value)

/-- `Parser::tuple`. -/
def tuple (limits : MiLimits) (value : ℕ → MiParser MiValue) (depth : ℕ) : MiParser MiValue := do
  checkDepth limits depth
  expect Byte.openBrace "\x7b"
  if (← peek) = some Byte.closeBrace then
    expect Byte.closeBrace "\x7d"
    pure (.tuple [])
  else
    let results ← commaSeparated (result limits value (depth + 1))
    expect Byte.closeBrace "\x7d"
    pure (.tuple results)

/-- `Parser::looks_like_result` on the remaining bytes, where `seen` tells whether the scan
has moved. -/
def looksLikeResult : Bool → Bytes → Bool
  | _, [] => false
  | seen, byte :: bytes =>
    if byte = Byte.equals then seen
    else if byte = Byte.comma || byte = Byte.closeBracket || byte = Byte.openBrace ||
        byte = Byte.closeBrace || byte = Byte.openBracket || byte = Byte.quote then false
    else if Byte.isAsciiWhitespace byte then false
    else looksLikeResult true bytes

/-- `Parser::list`.  The first element decides between a result list and a value list. -/
def list (limits : MiLimits) (value : ℕ → MiParser MiValue) (depth : ℕ) : MiParser MiValue := do
  checkDepth limits depth
  expect Byte.openBracket "["
  if (← peek) = some Byte.closeBracket then
    Parser.advance 1
    pure (.valueList [])
  else
    let remaining ← Parser.remaining
    if looksLikeResult false remaining then
      let results ← commaSeparated (result limits value (depth + 1))
      expect Byte.closeBracket "]"
      pure (.resultList results)
    else
      let values ← commaSeparated (value (depth + 1))
      expect Byte.closeBracket "]"
      pure (.valueList values)

/-- `Parser::value` with `levels` containers left.  The depths it is called at keep
`levels + depth` above `maxDepth`, so `checkDepth` always stops first. -/
def value (limits : MiLimits) : ℕ → ℕ → MiParser MiValue
  | 0, _ => unexpected "MI value"
  | levels + 1, depth => do
    match ← peek with
    | some byte =>
      if byte = Byte.quote then
        let bytes ← cString limits
        pure (.const bytes)
      else if byte = Byte.openBrace then
        tuple limits (value limits levels) depth
      else if byte = Byte.openBracket then
        list limits (value limits levels) depth
      else
        unexpected "MI value"
    | none => unexpected "MI value"

/-- The value of a string of decimal digits. -/
def digitsValue (digits : Bytes) : ℕ :=
  digits.foldl (fun value digit => value * 10 + (digit.toNat - 48)) 0

/-- `Parser::token`: the digits must fit in a `u64`. -/
def token : MiParser (Option ℕ) := do
  let digits := (← Parser.remaining).takeWhile Byte.isAsciiDigit
  if digits.isEmpty then
    pure none
  else if digitsValue digits < 2 ^ 64 then
    Parser.advance digits.length
    pure (some (digitsValue digits))
  else
    Parser.fail fun c => .invalidToken c.offset

/-- The parser of a top-level result. -/
def topResult (limits : MiLimits) : MiParser MiResult :=
  result limits (value limits (limits.maxDepth + 1)) 0

/-- `Parser::class_and_results`. -/
def classAndResults (limits : MiLimits) : MiParser (String × List MiResult) := do
  let bytes ← name Byte.comma "result or async class"
  if bytes = [] then
    unexpected "non-empty result or async class"
  else if (← peek) = some Byte.comma then
    Parser.advance 1
    let results ← commaSeparated (topResult limits)
    pure (Byte.asciiText bytes, results)
  else
    pure (Byte.asciiText bytes, [])

/-- The body of `Parser::record` behind its prefix byte. -/
def recordBody (limits : MiLimits) (token : Option ℕ) (kind : UInt8) : MiParser MiRecord := do
  if kind = Byte.caret then
    let (cls, results) ← classAndResults limits
    pure (.result token cls results)
  else if kind = Byte.star then
    let (cls, results) ← classAndResults limits
    pure (.execAsync token cls results)
  else if kind = Byte.plus then
    let (cls, results) ← classAndResults limits
    pure (.statusAsync token cls results)
  else if kind = Byte.equals then
    let (cls, results) ← classAndResults limits
    pure (.notifyAsync token cls results)
  else if kind = Byte.tilde && token.isNone then
    let bytes ← cString limits
    pure (.consoleStream bytes)
  else if kind = Byte.at_ && token.isNone then
    let bytes ← cString limits
    pure (.targetStream bytes)
  else if kind = Byte.ampersand && token.isNone then
    let bytes ← cString limits
    pure (.logStream bytes)
  else
    unexpected "^, *, +, =, ~, @, or &"

/-- `Parser::record`. -/
def record (limits : MiLimits) : MiParser MiRecord := do
  let token ← token
  let kind ← take "MI record prefix"
  let record ← recordBody limits token kind
  if (← Parser.remaining) = [] then
    pure record
  else
    unexpected "end of record"

end MiParser

/-- `<[u8]>::trim_ascii`. -/
def trimAscii (input : Bytes) : Bytes :=
  ((input.dropWhile Byte.isAsciiWhitespace).reverse.dropWhile Byte.isAsciiWhitespace).reverse

/-- The bytes of `(gdb)`. -/
def promptText : Bytes := [40, 103, 100, 98, 41]

/-- `parse_record`. -/
def parseRecord (input : Bytes) (limits : MiLimits) : Except MiError MiRecord :=
  if input = [] then .error .empty
  else if input.length > limits.maxRecordBytes then
    .error (.limit "record bytes" limits.maxRecordBytes)
  else if trimAscii input = promptText then .ok .prompt
  else (MiParser.record limits ⟨0, input⟩).map Prod.fst

end GdbAi
