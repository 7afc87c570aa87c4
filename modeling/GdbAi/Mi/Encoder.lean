import GdbAi.Mi.Ast

/-!
# Commands on the wire

`quote_c_string` of `gdb-ai-mi/src/encoder.rs` and the commands of `gdb-ai-core/src/backend.rs`.
-/

namespace GdbAi

/-- The UTF-8 bytes of a string. -/
def utf8 (value : String) : Bytes := value.toList.flatMap String.utf8EncodeChar

/-- One byte of a quoted string. -/
def quoteByte (byte : UInt8) : Bytes :=
  if byte = Byte.backslash then [Byte.backslash, Byte.backslash]
  else if byte = Byte.quote then [Byte.backslash, Byte.quote]
  else if byte = Byte.lf then [Byte.backslash, 110]
  else if byte = Byte.cr then [Byte.backslash, 114]
  else if byte = 9 then [Byte.backslash, 116]
  else if 32 ≤ byte && byte ≤ 126 then [byte]
  else [Byte.backslash, Byte.zero + byte / 64, Byte.zero + byte / 8 % 8, Byte.zero + byte % 8]

/-- `quote_c_string`. -/
def quoteCString (value : Bytes) : Bytes := [Byte.quote] ++ value.flatMap quoteByte ++ [Byte.quote]

inductive MiArgument where
  | bare (value : String)
  | string (value : Bytes)
  deriving DecidableEq, Repr

/-- `MiCommand`. -/
structure MiCommand where
  name : String
  arguments : List MiArgument := []
  deriving DecidableEq, Repr

/-- The bytes of an argument. -/
def MiArgument.encoded : MiArgument → Bytes
  | .bare value => utf8 value
  | .string value => quoteCString value

/-- `MiCommand::encoded`. -/
def MiCommand.encoded (command : MiCommand) (token : ℕ) : Bytes :=
  utf8 (toString token) ++ utf8 command.name ++
    command.arguments.flatMap (fun argument => 32 :: argument.encoded) ++ [Byte.lf]

end GdbAi
