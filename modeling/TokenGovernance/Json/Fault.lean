import TokenGovernance.Json.Value
import TokenGovernance.Text.Blank
import TokenGovernance.Text.Quoted

/-! # Faults of JSON input

What can be wrong with a JSON text, or with a JSON value that should be of some type, and where.
-/

namespace TokenGovernance.Json

inductive Malformed
  | listEnds
  | objectEnds
  | stringEnds
  | valueEnds
  | noColon
  | noListComma
  | noObjectComma
  | badWord
  | noValue
  | badEscape
  | badNumber
  | numberTooLarge
  | controlCharacter
  | keyNotString
  | loneSurrogate
  | brokenSurrogatePair
  | trailingComma
  | trailingCharacters
  | tooDeep
  deriving DecidableEq, Repr

def Malformed.message : Malformed → String
  | .listEnds => "EOF while parsing a list"
  | .objectEnds => "EOF while parsing an object"
  | .stringEnds => "EOF while parsing a string"
  | .valueEnds => "EOF while parsing a value"
  | .noColon => "expected `:`"
  | .noListComma => "expected `,` or `]`"
  | .noObjectComma => "expected `,` or `\x7d`"
  | .badWord => "expected ident"
  | .noValue => "expected value"
  | .badEscape => "invalid escape"
  | .badNumber => "invalid number"
  | .numberTooLarge => "number out of range"
  | .controlCharacter => "control character (\\u0000-\\u001F) found while parsing a string"
  | .keyNotString => "key must be a string"
  | .loneSurrogate => "lone leading surrogate in hex escape"
  | .brokenSurrogatePair => "unexpected end of hex escape"
  | .trailingComma => "trailing comma"
  | .trailingCharacters => "trailing characters"
  | .tooDeep => "recursion limit exceeded"

/-- What stands where something else was expected. -/
inductive Found
  | null
  | bool (value : Bool)
  | number (value : Number)
  | string (value : String)
  | sequence
  | map
  deriving DecidableEq, Repr

def Found.message : Found → String
  | .null => "null"
  | .bool b => "boolean `" ++ toString b ++ "`"
  | .number (.whole n) => "integer `" ++ toString n ++ "`"
  | .number (.double x) => "floating point `" ++ x.text ++ "`"
  | .string s => "string " ++ Text.quote s
  | .sequence => "sequence"
  | .map => "map"

inductive Flaw
  | malformed (m : Malformed)
  | wrongType (found : Found) (expected : String)
  | wrongValue (found : Found) (expected : String)
  | wrongLength (length : Nat) (expected : String)
  | unknownVariant (name : String) (known : List String)
  | missingField (name : String)
  | duplicateField (name : String)
  | noVariant (type : String)
  | refused (reason : String)
  deriving DecidableEq, Repr

def alternatives : List String → String
  | [a] => "`" ++ a ++ "`"
  | [a, b] => "`" ++ a ++ "` or `" ++ b ++ "`"
  | names => "one of " ++ ", ".intercalate (names.map fun a => "`" ++ a ++ "`")

def Flaw.message : Flaw → String
  | .malformed m => m.message
  | .wrongType found expected => "invalid type: " ++ found.message ++ ", expected " ++ expected
  | .wrongValue found expected => "invalid value: " ++ found.message ++ ", expected " ++ expected
  | .wrongLength n expected => "invalid length " ++ toString n ++ ", expected " ++ expected
  | .unknownVariant name known => "unknown variant `" ++ name ++ "`, expected " ++ alternatives known
  | .missingField name => "missing field `" ++ name ++ "`"
  | .duplicateField name => "duplicate field `" ++ name ++ "`"
  | .noVariant type => "data did not match any variant of untagged enum " ++ type
  | .refused reason => reason

/-- A flaw and, in a text, the number of bytes in front of the place where it shows. -/
structure Fault where
  flaw : Flaw
  offset : Option Nat
  deriving DecidableEq, Repr

def Malformed.atOffset (m : Malformed) (offset : Nat) : Fault :=
  ⟨.malformed m, some offset⟩

/-- The fault at an offset, unless it has one already. -/
def Fault.place (f : Fault) (offset : Option Nat) : Fault :=
  ⟨f.flaw, f.offset.or offset⟩

/-- Line, counted from one, and column, the bytes of the line in front of the offset. -/
def position (text : List UInt8) (offset : Nat) : Nat × Nat :=
  let before := text.take offset
  (1 + before.count 0x0A, (before.reverse.takeWhile (· ≠ 0x0A)).length)

def Fault.message (text : String) (f : Fault) : String :=
  match f.offset with
  | none => f.flaw.message
  | some offset =>
    let (line, column) := position (Text.utf8 text) offset
    f.flaw.message ++ " at line " ++ toString line ++ " column " ++ toString column

end TokenGovernance.Json
