import Wireframe.Json.Value
import Wireframe.Text.Quoted

namespace Wireframe.Json

/-- A place in a text: the line, from one, and how many bytes of it lie before. -/
structure Place where
  line : Nat
  column : Nat
  deriving DecidableEq, Repr

inductive Found where
  | null
  | bool (value : Bool)
  | number (value : Number)
  | string (value : String)
  | sequence
  | map
  deriving DecidableEq

def Found.text : Found → String
  | .null => "null"
  | .bool value => "boolean `" ++ (if value then "true" else "false") ++ "`"
  | .number (.whole n) => "integer `" ++ toString n ++ "`"
  | .number value => "floating point `" ++ value.text ++ "`"
  | .string value => "string " ++ Text.quoted value
  | .sequence => "sequence"
  | .map => "map"

def Found.ofJson : Json → Found
  | .null => .null
  | .bool value => .bool value
  | .number value => .number value
  | .string value => .string value
  | .array _ => .sequence
  | .object _ => .map

inductive Cause where
  | endInValue
  | endInList
  | endInObject
  | endInString
  | expectedValue
  | expectedWord
  | expectedColon
  | expectedCommaInList
  | expectedCommaInObject
  | keyNotString
  | trailingComma
  | trailingCharacters
  | invalidNumber
  | numberOutOfRange
  | invalidEscape
  | loneSurrogate
  | brokenSurrogatePair
  | controlCharacter
  | tooDeep
  | missingField (name : String)
  | duplicateField (name : String)
  | unknownVariant (name : String) (known : List String)
  | wrongType (found : Found) (expected : String)
  | wrongValue (found : Found) (expected : String)
  | wrongLength (length : Nat) (expected : String)
  deriving DecidableEq

inductive FaultKind where
  | malformed
  | endOfText
  | data
  deriving DecidableEq, Repr

def Cause.kind : Cause → FaultKind
  | .endInValue | .endInList | .endInObject | .endInString => .endOfText
  | .missingField _ | .duplicateField _ | .unknownVariant .. | .wrongType .. | .wrongValue ..
  | .wrongLength .. => .data
  | _ => .malformed

private def inBackticks (s : String) : String := "`" ++ s ++ "`"

def alternatives : List String → String
  | [] => "nothing"
  | [a] => inBackticks a
  | [a, b] => inBackticks a ++ " or " ++ inBackticks b
  | names => "one of " ++ ", ".intercalate (names.map inBackticks)

def Cause.text : Cause → String
  | .endInValue => "EOF while parsing a value"
  | .endInList => "EOF while parsing a list"
  | .endInObject => "EOF while parsing an object"
  | .endInString => "EOF while parsing a string"
  | .expectedValue => "expected value"
  | .expectedWord => "expected ident"
  | .expectedColon => "expected `:`"
  | .expectedCommaInList => "expected `,` or `]`"
  | .expectedCommaInObject => "expected `,` or `\x7d`"
  | .keyNotString => "key must be a string"
  | .trailingComma => "trailing comma"
  | .trailingCharacters => "trailing characters"
  | .invalidNumber => "invalid number"
  | .numberOutOfRange => "number out of range"
  | .invalidEscape => "invalid escape"
  | .loneSurrogate => "lone leading surrogate in hex escape"
  | .brokenSurrogatePair => "unexpected end of hex escape"
  | .controlCharacter =>
      "control character (\\u0000-\\u001F) found while parsing a string"
  | .tooDeep => "recursion limit exceeded"
  | .missingField name => "missing field `" ++ name ++ "`"
  | .duplicateField name => "duplicate field `" ++ name ++ "`"
  | .unknownVariant name known =>
      "unknown variant `" ++ name ++ "`, expected " ++ alternatives known
  | .wrongType found expected => "invalid type: " ++ found.text ++ ", expected " ++ expected
  | .wrongValue found expected => "invalid value: " ++ found.text ++ ", expected " ++ expected
  | .wrongLength length expected =>
      "invalid length " ++ toString length ++ ", expected " ++ expected

structure Fault where
  cause : Cause
  place : Option Place
  deriving DecidableEq

def Fault.kind (fault : Fault) : FaultKind := fault.cause.kind

def Fault.message (fault : Fault) : String :=
  match fault.place with
  | none => fault.cause.text
  | some place =>
      fault.cause.text ++ " at line " ++ toString place.line ++ " column " ++ toString place.column

end Wireframe.Json
