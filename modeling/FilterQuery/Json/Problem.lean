import FilterQuery.Json.Writer
import FilterQuery.Text.Quoted

/-!
# Problems of a JSON text

The first thing that is wrong with a JSON text, read from left to right: either it is no JSON, or a
value is not of the kind that its place asks for.  `Problem.message` has the wording of each
without the line and the column that may be told behind it: where a problem is, is not kept.
-/

namespace FilterQuery
namespace Json

/-- What stands at a place where a value of another kind was expected. -/
inductive Found where
  | null
  | boolean (b : Bool)
  | number (n : Number)
  | string (s : String)
  | sequence
  | map
deriving DecidableEq

/-- What is wrong with a JSON text. -/
inductive Problem where
  /-- The text ends where a value is due. -/
  | endInValue
  /-- The text ends inside an array. -/
  | endInList
  /-- The text ends inside an object. -/
  | endInObject
  /-- The text ends inside a string. -/
  | endInString
  | expectedColon
  | expectedListEnd
  | expectedObjectEnd
  | expectedKeyword
  | expectedValue
  | invalidEscape
  | invalidNumber
  | numberOutOfRange
  | controlCharacter
  | keyNotString
  | loneSurrogate
  | unexpectedEscapeEnd
  | trailingComma
  | trailingCharacters
  | tooDeep
  | wrongType (found : Found) (expected : String)
  | wrongValue (found : Found) (expected : String)
  | wrongLength (count : Nat) (expected : String)
  | duplicateField (name : String)
  | missingField (name : String)
  | noVariant (name : String)
deriving DecidableEq

/-- A text between backquotes. -/
def backquoted (s : String) : String :=
  "`" ++ s ++ "`"

/-- What was found, in words. -/
def Found.description : Found → String
  | .null => "null"
  | .boolean b => "boolean " ++ backquoted (String.ofList (writtenBoolean b))
  | .number (.integer n) => "integer " ++ backquoted (Decimal.integerText n)
  | .number (.float x) =>
      "floating point " ++ backquoted (String.ofList (writtenNumber (.float x)))
  | .string s => "string " ++ Text.quoted s
  | .sequence => "sequence"
  | .map => "map"

/-- The wording of a problem, without the line and the column where it is. -/
def Problem.message : Problem → String
  | .endInValue => "EOF while parsing a value"
  | .endInList => "EOF while parsing a list"
  | .endInObject => "EOF while parsing an object"
  | .endInString => "EOF while parsing a string"
  | .expectedColon => "expected `:`"
  | .expectedListEnd => "expected `,` or `]`"
  | .expectedObjectEnd => "expected `,` or `\x7d`"
  | .expectedKeyword => "expected ident"
  | .expectedValue => "expected value"
  | .invalidEscape => "invalid escape"
  | .invalidNumber => "invalid number"
  | .numberOutOfRange => "number out of range"
  | .controlCharacter => "control character (\\u0000-\\u001F) found while parsing a string"
  | .keyNotString => "key must be a string"
  | .loneSurrogate => "lone leading surrogate in hex escape"
  | .unexpectedEscapeEnd => "unexpected end of hex escape"
  | .trailingComma => "trailing comma"
  | .trailingCharacters => "trailing characters"
  | .tooDeep => "recursion limit exceeded"
  | .wrongType found expected => "invalid type: " ++ found.description ++ ", expected " ++ expected
  | .wrongValue found expected =>
      "invalid value: " ++ found.description ++ ", expected " ++ expected
  | .wrongLength count expected =>
      "invalid length " ++ Decimal.naturalText count ++ ", expected " ++ expected
  | .duplicateField name => "duplicate field " ++ backquoted name
  | .missingField name => "missing field " ++ backquoted name
  | .noVariant name => "data did not match any variant of untagged enum " ++ name

end Json
end FilterQuery
